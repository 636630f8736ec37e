import ComponentReference.Fault
import ComponentReference.Host.FileSystem

/-!
# Following paths

How the system finds what a path leads to: name by name, through directories,
along symbolic links, of which it follows forty and no more.  On this rest the
operations on files, which take the path as it is written and name it in what
they refuse.
-/

namespace ComponentReference

/-- Where a path leads: a place, and what is there.  Nothing may be there if
only the last name is missing. -/
structure Spot where
  location : Location
  entry? : Option Entry
deriving DecidableEq, Repr

namespace FileSystem

/-- The greatest number of links on the way. -/
def maxLinks : Nat := 40

/-- The greatest size of a name, in bytes. -/
def maxNameSize : Nat := 255

/-- The size from which on a path is too long, in bytes. -/
def pathSizeLimit : Nat := 4096

/-- How a path ends. -/
inductive PathEnding where
  | name
  /-- Slashes come last, right after a name. -/
  | slashes
  /-- A single dot comes last, with slashes after it or without. -/
  | dot
deriving DecidableEq, Repr

/-- How the path that a text writes ends. -/
def PathEnding.ofString (path : String) : PathEnding :=
  match (Path.pieces path).reverse with
  | "." :: _ => .dot
  | "" :: before => if before.find? (· ≠ "") = some "." then .dot else .slashes
  | _ => .name

/-- How a path is followed at its end. -/
structure Manner where
  /-- Whether a link at the end is followed too. -/
  followLast : Bool := true
  /-- Whether a file is to be made where there is none. -/
  creating : Bool := false
  /-- How the path ends.  Unless a name comes last, only a directory will do. -/
  ending : PathEnding := .name

/-- The manner in which a path is followed whose last part is written so, be it all
of the path or the target of the link that comes last.  What follows the link stays
the end. -/
def Manner.endingAs (manner : Manner) (path : String) : Manner where
  followLast := manner.followLast
  creating := manner.creating
  ending := if manner.ending = .name then .ofString path else manner.ending

/-- Where the names lead from the directory at `here`, through directories that the user
may go through.  At a link `jump` goes on along its target and the names after it.
Nothing can be where a directory has been removed. -/
def walkWith (fs : FileSystem) (manner : Manner)
    (jump : Location → String → List String → Except Errno Spot) :
    (here : Location) → List String → Except Errno Spot
  | here, [] => .ok ⟨here, some .directory⟩
  | here, name :: rest =>
    if !fs.mayRun here then .error .denied
    else if name = ".." then walkWith fs manner jump here.dropLast rest
    else if rest.isEmpty && manner.creating && manner.ending = .slashes then .error .isDirectory
    else if maxNameSize < Utf8.size name then .error .nameTooLong
    else
      let there := here ++ [name]
      let atEnd := rest.isEmpty && manner.ending = .name
      match fs.get? there with
      | some .directory => walkWith fs manner jump there rest
      | some (.link target) =>
        if atEnd && !manner.followLast then .ok ⟨there, some (.link target)⟩
        else jump here target rest
      | some e => if atEnd then .ok ⟨there, some e⟩ else .error .notDirectory
      | none => if atEnd && fs.isDirectoryAt here then .ok ⟨there, none⟩ else .error .missing

/-- The place where a path begins. -/
def start (here : Location) (path : String) : Location :=
  if Text.beginsWith "/" path then [] else here

/-- Where the names lead, along at most `links` links. -/
def walk (fs : FileSystem) :
    (links : Nat) → Manner → (here : Location) → List String → Except Errno Spot
  | 0, manner => walkWith fs manner fun _ _ _ => .error .linkLoop
  | links + 1, manner =>
    walkWith fs manner fun here target rest =>
      walk fs links (if rest.isEmpty then manner.endingAs target else manner)
        (start here target) (Path.namesIn target ++ rest)

/-- Where a path leads that starts at the directory `here`. -/
def locate (fs : FileSystem) (here : Location) (manner : Manner) (path : String) :
    Except Fault Spot :=
  if path.toList.contains (Char.ofNat 0) then .error .embeddedNul
  else if path = "" then .error (.system .missing path)
  else if pathSizeLimit ≤ Utf8.size path then .error (.system .nameTooLong path)
  else
    (fs.walk maxLinks (manner.endingAs path) (start here path) (Path.namesIn path)).mapError (.system · path)

/-! ## Looking -/

/-- What is where the path leads. -/
def stat (fs : FileSystem) (here : Location) (path : String) : Except Fault Entry :=
  match fs.locate here {} path with
  | .error fault => .error fault
  | .ok spot =>
    match spot.entry? with
    | some e => .ok e
    | none => .error (.system .missing path)

/-- What is where the path leads, if it leads anywhere. -/
def stat? (fs : FileSystem) (here : Location) (path : String) : Except Fault (Option Entry) :=
  match fs.stat here path with
  | .ok e => .ok (some e)
  | .error (.system .missing _) | .error (.system .notDirectory _)
  | .error (.system .linkLoop _) | .error .embeddedNul => .ok none
  | .error fault => .error fault

/-- The content of the file that the path leads to.  Where zeros do not end, nothing is
read. -/
def read (fs : FileSystem) (here : Location) (path : String) : Except Fault Bytes :=
  match fs.locate here {} path with
  | .error fault => .error fault
  | .ok ⟨_, none⟩ => .error (.system .missing path)
  | .ok ⟨place, some e⟩ =>
    if !fs.mayRead place then .error (.system .denied path)
    else
      match e with
      | .file content => .ok content
      | .device .terminal => .error (.system .noDevice path)
      | .device _ | .queue => .ok []
      | .directory | .link _ => .error (.system .isDirectory path)

/-! ## Writing -/

/-- The file system in which `change` has been applied to the file that the path
leads to.  A file that is not there begins empty.  That there is no room is noticed
when the path is no longer known. -/
def modify (fs : FileSystem) (here : Location) (path : String) (change : Bytes → Bytes) :
    Except Fault FileSystem :=
  match fs.locate here { creating := true } path with
  | .error fault => .error fault
  | .ok ⟨place, none⟩ =>
    if fs.mayChange place.dropLast then .ok (fs.make place (.file (change [])) 0o644)
    else .error (.system .denied path)
  | .ok ⟨place, some e⟩ =>
    match e with
    | .directory | .link _ => .error (.system .isDirectory path)
    | e =>
      if !fs.mayWrite place then .error (.system .denied path)
      else
        match e with
        | .file content => .ok (fs.fill place (change content))
        | .device .full => if change [] = [] then .ok fs else .error (.pathless .noSpace)
        | .device .terminal => .error (.system .noDevice path)
        | _ => .ok fs

/-- The file system in which the file that the path leads to has this content. -/
def write (fs : FileSystem) (here : Location) (path : String) (content : Bytes) :
    Except Fault FileSystem :=
  fs.modify here path fun _ => content

/-- The file system in which the file that the path leads to goes on with this
content. -/
def append (fs : FileSystem) (here : Location) (path : String) (content : Bytes) :
    Except Fault FileSystem :=
  fs.modify here path (· ++ content)

/-- The file system with a directory where the path leads and nothing was. -/
def makeDirectory (fs : FileSystem) (here : Location) (path : String) :
    Except Fault FileSystem :=
  match fs.locate here { followLast := false } path with
  | .error fault => .error fault
  | .ok ⟨place, none⟩ =>
    if fs.mayChange place.dropLast then .ok (fs.make place .directory 0o755)
    else .error (.system .denied path)
  | .ok ⟨_, some _⟩ => .error (.system .present path)

/-- A refusal to make a directory does not matter where there is one. -/
def unlessDirectory (fs : FileSystem) (here : Location) (path : String) (fault : Fault) :
    Except Fault Unit :=
  match fault, fs.stat? here path with
  | .system _ _, .ok (some .directory) => .ok ()
  | .system _ _, .error fault => .error fault
  | fault, _ => .error fault

/-- Makes the directory at the path, and for up to `missing` names those that it
lies in.  Directories that have been made stay even where a later one fails. -/
def makeDirectories (here : Location) :
    (missing : Nat) → Path → FileSystem → Except Fault Unit × FileSystem
  | missing, path, fs =>
    match fs.makeDirectory here path.text with
    | .ok fs => (.ok (), fs)
    | .error (.system .missing p) =>
      match missing with
      | 0 => (.error (.system .missing p), fs)
      | missing + 1 =>
        match makeDirectories here missing path.parent fs with
        | (.error fault, fs) => (.error fault, fs)
        | (.ok (), fs) =>
          match fs.makeDirectory here path.text with
          | .ok fs => (.ok (), fs)
          | .error (.system .missing p) => (.error (.system .missing p), fs)
          | .error fault => (fs.unlessDirectory here path.text fault, fs)
    | .error fault => (fs.unlessDirectory here path.text fault, fs)

end FileSystem

end ComponentReference
