import ComponentReference.Host.Walk

/-!
# Resolving paths

The absolute path of the place that a path leads to, without links and double
dots, whether or not anything is there.  Where links lead back to themselves, what
follows them is kept as it is written.  A path that begins with a tilde begins at a
home directory.
-/

namespace ComponentReference

/-- What the program is told about texts: what a tilde in them stands for, and which of their
characters stand for halves of surrogate pairs. -/
structure Environment where
  /-- The home directory. -/
  home : String
  /-- The home directories of named users. -/
  homes : List (String × String) := []
  /-- The half that a character stands for.  Texts hold such characters for nothing else. -/
  half? : Char → Option Nat := Text.half?

namespace FileSystem

/-- How far a path could be resolved. -/
inductive Resolution where
  /-- To its end: no link is left in the path. -/
  | whole (path : Path)
  /-- To a link that leads back to itself: the path goes on behind the link as it
  is written. -/
  | stuck (path : Path)
deriving DecidableEq, Repr

/-- The path that a resolution came to. -/
def Resolution.path : Resolution → Path
  | whole path | stuck path => path

/-- The target of the link at a path, if a link can be seen there. -/
def linkTarget? (fs : FileSystem) (here : Location) (path : Path) :
    Except Fault (Option String) :=
  match fs.locate here { followLast := false } path.text with
  | .ok ⟨_, some (.link target)⟩ => .ok (some target)
  | .error .embeddedNul => .error .embeddedNul
  | _ => .ok none

/-- The links that a resolution has met, each with the path that it was resolved to,
unless it is still being resolved. -/
abbrev MetLinks := List (Path × Option Path)

/-- Resolves the pieces of a path one by one, from the resolved `path` of a
directory, whatever is or is not on the way.  A link is resolved when it is first met,
by `jump`, which is given the directory that holds the link and the link's target; one
that is met while it is being resolved leads nowhere. -/
def resolveWith (fs : FileSystem) (here : Location)
    (jump : MetLinks → (directory : Path) → String → Except Fault (Resolution × MetLinks)) :
    MetLinks → (path : Path) → (pieces : List String) → Except Fault (Resolution × MetLinks)
  | met, path, [] => .ok (.whole path, met)
  | met, path, piece :: rest =>
    if !Path.isName piece then resolveWith fs here jump met path rest
    else if piece = ".." then resolveWith fs here jump met path.above rest
    else
      let there := path.child piece
      let behind := Path.ofString ("/".intercalate rest)
      match fs.linkTarget? here there with
      | .error fault => .error fault
      | .ok none => resolveWith fs here jump met there rest
      | .ok (some target) =>
        match met.lookup there with
        | some (some resolved) => resolveWith fs here jump met resolved rest
        | some none => .ok (.stuck (there ++ behind), met)
        | none =>
          match jump ((there, none) :: met) path target with
          | .error fault => .error fault
          | .ok (.whole resolved, met) =>
            resolveWith fs here jump ((there, some resolved) :: met) resolved rest
          | .ok (.stuck stuck, met) => .ok (.stuck (stuck ++ behind), met)

/-- Where the resolution of a text begins that is seen from a directory. -/
def resolutionStart (directory : Path) (text : String) : Path :=
  if Text.beginsWith "/" text then { anchor := .slash } else directory

/-- Resolves the path that a text writes, seen from the resolved path of a
directory.  Every level has one more link that is being resolved. -/
def resolveText (fs : FileSystem) (here : Location) :
    (levels : Nat) → MetLinks → (directory : Path) → (text : String) →
      Except Fault (Resolution × MetLinks)
  | 0, met, directory, text =>
    fs.resolveWith here (fun met directory _ => .ok (.stuck directory, met)) met
      (resolutionStart directory text) (Path.pieces text)
  | levels + 1, met, directory, text =>
    fs.resolveWith here (resolveText fs here levels) met
      (resolutionStart directory text) (Path.pieces text)

/-- The number of links. -/
def linkCount (fs : FileSystem) : Nat :=
  fs.entries.countP fun entry => match entry.2 with
    | .link _ => true
    | _ => false

/-- The absolute path that a path is for one who works in the directory at a place, which
has a path as long as it has not been removed. -/
def absolute (fs : FileSystem) (here : Location) (path : Path) : Except Fault Path :=
  if path.isAbsolute || fs.isDirectoryAt here then .ok (path.absoluteFrom here)
  else .error (.pathless .missing)

/-- The absolute path of the place that the path leads to.  A link has fewer
resolved paths that can be looked at than such a path has bytes, for they differ
in the number of double dots: this bounds the levels. -/
def resolve (fs : FileSystem) (here : Location) (path : Path) : Except Fault Path :=
  match fs.resolveText here (fs.linkCount * pathSizeLimit) [] {} path.text with
  | .error fault => .error fault
  | .ok (resolution, _) =>
    match fs.absolute here resolution.path with
    | .error fault => .error fault
    | .ok resolved =>
      match fs.stat here resolved.text with
      | .error (.system .linkLoop _) => .error (.linkCycle resolved.text)
      | .error .embeddedNul => .error .embeddedNul
      | _ => .ok resolved

end FileSystem

namespace Environment

/-- A directory without the slashes at its end, or the root if there is nothing else. -/
def withoutSlashes (directory : String) : String :=
  match directory.toList.reverse.dropWhile (· = '/') with
  | [] => "/"
  | kept => String.ofList kept.reverse

/-- The home directory of a user; no name stands for the program's own user. -/
def homeOf? (env : Environment) (user : String) : Option String :=
  (if user = "" then some env.home else env.homes.lookup user).map withoutSlashes

/-- The path with a tilde at its beginning replaced by a home directory.  None begins with a
tilde itself. -/
def expandHome (env : Environment) (path : Path) : Except Fault Path :=
  match path.anchor, path.names with
  | .nothing, first :: rest =>
    if Text.beginsWith "~" first then
      match env.homeOf? (String.ofList (first.toList.drop 1)) with
      | some home =>
        if Text.beginsWith "~" home then .error .unknownHome
        else .ok { Path.ofString home with names := (Path.ofString home).names ++ rest }
      | none =>
        .error (if first.toList.contains (Char.ofNat 0) then .embeddedNul else .unknownHome)
    else .ok path
  | _, _ => .ok path

/-- The absolute path that a text stands for to one who works in the directory at a
place. -/
def pathOf (env : Environment) (fs : FileSystem) (here : Location) (text : String) :
    Except Fault Path :=
  match env.expandHome (Path.ofString text) with
  | .error fault => .error fault
  | .ok path => fs.resolve here path

/-- The absolute path that a configured path stands for, seen from `root`. -/
def resolvePath (env : Environment) (fs : FileSystem) (here : Location) (root : Path)
    (value : String) : Except Fault Path :=
  match env.expandHome (Path.ofString value) with
  | .error fault => .error fault
  | .ok path => fs.resolve here (root ++ path)

end Environment

end ComponentReference
