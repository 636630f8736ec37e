import ComponentReference.Host.Walk
import ComponentReference.Machine.Text.Octets

/-!
# Running programs and the files that they hold open

The parser of component files is a program of its own, and which one it is is a setting; so
a project may have any script in its place.  `Machine` is where such programs run.  The
program reaches it through `Shell.call`, as one `Caller` among all, and what is proved about
the program holds for every caller.

Programs that run in a call share the files, the pipes between them, and what any of
them has opened.  An open file stays what it is when the file is moved, and keeps its
content when the last name of the file is removed.  Time passes only where a program
waits.
-/

namespace ComponentReference

/-- What an open file leads to. -/
inductive Target where
  /-- What is written vanishes, and there is nothing to read. -/
  | nothing
  /-- There are zeros to read, and what is written vanishes. -/
  | zeros
  /-- There are zeros to read, but no room to write. -/
  | full
  | file (place : Location)
  | directory (place : Location)
  /-- A file that has been removed, by number. -/
  | orphan (number : Nat)
  /-- A pipe, by number. -/
  | pipe (number : Nat)
deriving DecidableEq, Repr

/-- An open file. -/
structure OpenFile where
  target : Target
  offset : Nat := 0
  reads : Bool := false
  writes : Bool := false
  /-- Whether what is written goes to the end. -/
  appends : Bool := false
deriving DecidableEq, Repr

/-- What has been written into a pipe and not been read. -/
structure Pipe where
  /-- What is read next. -/
  front : Octets := []
  /-- What comes after that, the latest first. -/
  back : List Octets := []
  size : Nat := 0
  /-- How many pieces have been written. -/
  pieces : Nat := 0
  /-- Whether whoever writes too much is taken to have lost its reader. -/
  bounded : Bool := true

namespace Pipe

/-- All that can be read. -/
def content (p : Pipe) : Octets :=
  p.back.foldl (fun after s => s ++ after) [] |> (p.front ++ ·)

/-- The pipe with more written into it. -/
def write (p : Pipe) (s : Octets) : Pipe :=
  { p with back := s :: p.back, size := p.size + s.length, pieces := p.pieces + 1 }

/-- The pipe that holds only the octets. -/
def holding (p : Pipe) (s : Octets) : Pipe :=
  { p with front := s, back := [], size := s.length }

/-- Whether so much has been written that no reader can be there. -/
def isOverfull (p : Pipe) : Bool :=
  p.bounded && (4000000 < p.size || 30000 < p.pieces)

end Pipe

/-- How a file is opened. -/
inductive Opening where
  | read
  | readWrite
  | write
  /-- As for writing, even if what is there is to be kept from that. -/
  | overwrite
  | append
deriving DecidableEq, Repr

/-- What running programs share. -/
structure Machine where
  files : FileSystem
  /-- The place of a file that is being written by the one who calls the programs. -/
  written? : Option Location := none
  openFiles : List (Nat × OpenFile) := []
  pipes : List (Nat × Pipe) := []
  orphans : List (Nat × Bytes) := []
  /-- A number that nothing has yet. -/
  fresh : Nat := 0
  /-- The signals that have been sent to programs that have not noticed yet. -/
  signals : List (Nat × Nat) := []
  /-- Where directories have been moved, and those that have been removed, in order. -/
  turns : List Turn := []
  /-- The numbers of the pipes that have names, by place. -/
  queues : List (Location × Nat) := []

/-- How a program ended. -/
inductive Exit where
  | status (n : Nat)
  | signal (n : Nat)
deriving DecidableEq, Repr

/-- What a running program has of its own. -/
structure Process where
  /-- The number that it is known by. -/
  number : Nat
  /-- The name that it was called by. -/
  title : Octets
  arguments : List Octets
  environment : List (Octets × Octets)
  directory : Location
  /-- Which open file each of its streams is. -/
  streams : List (Nat × Nat)
  /-- The bits that the modes of the files that it makes do not have. -/
  umask : Mode := 0o022

/-- How the program at a path is run, if it can be. -/
abbrev Launcher := (path : Octets) → Process → StateM Machine (Except Errno Exit)

/-- The status that a shell knows an end by. -/
def Exit.code : Exit → Nat
  | status n => n % 256
  | signal n => 128 + n

namespace Launcher

/-- Runs the first program that one of the paths leads to.  A path at which nothing is
gives way to the next one; in the end the first other refusal counts. -/
def runFirst (launch : Launcher) (p : Process) :
    (refusal? : Option Errno) → List Octets → StateM Machine (Except Errno Exit)
  | refusal?, [] => return .error (refusal?.getD .missing)
  | refusal?, path :: rest => do
    match ← launch path p with
    | .ok exit => return .ok exit
    | .error errno =>
      let passing := errno = .missing ∨ errno = .notDirectory
      runFirst launch p (if passing then refusal? else refusal?.or (some errno)) rest

/-- The paths at which a program is looked for, given the value of the search path. -/
def paths (searchPath name : Octets) : List Octets :=
  if name.contains '/' then [name]
  else (Text.split ':' searchPath).map fun directory =>
    if directory.isEmpty then name else directory ++ '/' :: name

/-- Runs the program with a name, which is looked for unless it is a path. -/
def runNamed (launch : Launcher) (searchPath name : Octets) (p : Process) :
    StateM Machine (Except Errno Exit) := do
  match paths searchPath name with
  | [path] => launch path p
  | paths => runFirst launch p none paths

end Launcher

/-- What may be refused, and may change the machine. -/
abbrev Attempt := ExceptT Errno (StateM Machine)

namespace Machine

/-- The time, in microseconds since 1970. -/
def clock (m : Machine) : Nat :=
  m.files.clock

/-- The machine at another time. -/
def atTime (m : Machine) (time : Nat) : Machine :=
  { m with files := { m.files with clock := time } }

/-- The machine with something else under a number. -/
def setOpen (m : Machine) (number : Nat) (f : OpenFile) : Machine :=
  { m with openFiles := Keyed.put Prod.fst (number, f) m.openFiles }

/-- The machine with another pipe under a number. -/
def setPipe (m : Machine) (number : Nat) (p : Pipe) : Machine :=
  { m with pipes := Keyed.put Prod.fst (number, p) m.pipes }

/-- The machine in which the open files that lead to a target lead to another one. -/
def redirect (m : Machine) (source target : Target) : Machine :=
  { m with
    openFiles := m.openFiles.map fun (number, f) =>
      (number, if f.target = source then { f with target } else f) }

/-- The machine in which the open file at a place has been cut off from the name there,
unless it has another name from all files. -/
def orphan (m : Machine) (place : Location) : Machine :=
  match (m.files.namesOf place).filter (· ≠ place) with
  | other :: _ => m.redirect (.file place) (.file other)
  | [] =>
    let content := match m.files.get? place with
      | some (.file content) => content
      | _ => []
    { m.redirect (.file place) (.orphan m.fresh) with
      fresh := m.fresh + 1
      orphans := (m.fresh, content) :: m.orphans }

/-- The machine in which what was at a place, if a directory, counts as moved. -/
def turned (m : Machine) (turn : Turn) : Machine :=
  if m.files.isDirectoryAt turn.source then { m with turns := m.turns ++ [turn] } else m

/-- Where what was at a place is after all moves but the first ones. -/
def placeAfter (m : Machine) (passed : Nat) (l : Location) : Location :=
  (m.turns.drop passed).foldl (fun l turn => turn.follow l) l

/-- The places below a place at which files are open. -/
def openBelow (m : Machine) (place : Location) : List Location :=
  (m.openFiles.filterMap fun (_, f) =>
    match f.target with
    | .file l => if place.isPrefixOf l then some l else none
    | _ => none).eraseDups

/-- The machine without what is at a place and below it. -/
def remove (m : Machine) (place : Location) : Machine :=
  let m := ((m.openBelow place).foldl orphan m).turned (.removal place)
  { m with
    files := m.files.erase place
    queues := m.queues.filter fun (l, _) => !place.isPrefixOf l
    written? := m.written?.filter fun l => !place.isPrefixOf l }

/-- The machine in which what is at a place and below it is at another place, instead of
what was there. -/
def move (m : Machine) (source target : Location) : Machine :=
  let turn : Turn := ⟨source, target⟩
  let m := (m.remove target).turned turn
  let entries := m.files.entries.filter fun (l, _) => source.isPrefixOf l
  let files := entries.foldl (fun fs (l, e) => fs.put (turn.follow l) e) (m.files.erase source)
  let marks := m.files.attributes.filter fun (l, _) => source.isPrefixOf l
  let files := marks.foldl (fun fs (l, a) => fs.mark (turn.follow l) a) files
  { m with
    files
    written? := m.written?.map turn.follow
    queues := m.queues.map fun (l, n) => (turn.follow l, n)
    openFiles := m.openFiles.map fun (number, f) =>
      (number, { f with target := match f.target with
        | .file l => .file (turn.follow l)
        | target => target }) }

end Machine

namespace Attempt

/-- The text of a path, which is to be UTF-8. -/
def pathText (path : Octets) : Attempt String :=
  match Octets.toString? path with
  | some text => pure text
  | none => throw .missing

/-- What an operation on the files gives. -/
def ofExcept {α : Type} : Except Fault α → Attempt α
  | .ok a => pure a
  | .error (.system errno _) => throw errno
  | .error _ => throw .missing

/-- Where a path leads. -/
def locate (here : Location) (path : Octets) (manner : FileSystem.Manner := {}) :
    Attempt Spot := do
  ofExcept ((← get).files.locate here manner (← pathText path))

/-- What is where a path leads, and where that is. -/
def find (here : Location) (path : Octets) (followLast : Bool := true) :
    Attempt (Location × Entry) := do
  match ← locate here path { followLast } with
  | ⟨place, some e⟩ => return (place, e)
  | ⟨_, none⟩ => throw .missing

/-- A new number for an open file. -/
def add (f : OpenFile) : Attempt Nat := do
  let m ← get
  set { m.setOpen m.fresh f with fresh := m.fresh + 1 }
  return m.fresh

/-- What opening a device gives. -/
def device (p : Process) : Device → Attempt Target
  | .nothing => return .nothing
  | .zeros => return .zeros
  | .full => return .full
  | .terminal => throw .noDevice
  | .stream n => do
    let m ← get
    match (p.streams.lookup n).bind fun number => m.openFiles.lookup number with
    | some f => return f.target
    | none => throw .missing

/-- The pipe with the name at a place. -/
def queue (place : Location) : Attempt Target := do
  let m ← get
  match m.queues.lookup place with
  | some n => return .pipe n
  | none =>
    set { m.setPipe m.fresh { bounded := false } with
      fresh := m.fresh + 1, queues := (place, m.fresh) :: m.queues }
    return .pipe m.fresh

/-- The open file that an opening gives, unless it has to be made first. -/
def opened (opening : Opening) (target : Target) : OpenFile where
  target
  reads := opening = .read ∨ opening = .readWrite
  writes := opening ≠ .read
  appends := opening == .append || (match target with
    | .pipe _ => true
    | _ => false)

/-- A mode without the bits of a mask. -/
def withoutBits (mask mode : Mode) : Mode :=
  mode ^^^ (mode &&& mask)

/-- Makes an entry at a place where nothing is. -/
def make (place : Location) (e : Entry) (mode : Mode) : Attempt Unit := do
  let m ← get
  if !m.files.mayChange place.dropLast then throw .denied
  set { m with files := m.files.make place e mode }

/-- Removes what is at a place, and all below it. -/
def remove (place : Location) : Attempt Unit := do
  let m ← get
  if !m.files.mayChange place.dropLast then throw .denied
  set (m.remove place)

/-- Moves what is at a place to another one. -/
def move (source target : Location) : Attempt Unit := do
  let m ← get
  if !m.files.mayChange source.dropLast || !m.files.mayChange target.dropLast then throw .denied
  set (m.move source target)

/-- Opens the file that a path leads to. -/
def openFile (p : Process) (opening : Opening) (path : Octets) : Attempt Nat := do
  let ⟨place, entry?⟩ ← locate p.directory path { creating := opening ≠ .read }
  let reads := opening = .read ∨ opening = .readWrite
  let writes := opening ≠ .read
  let m ← get
  let refused := reads && !m.files.mayRead place || writes && !m.files.mayWrite place
  let target : Target ← match entry? with
    | some .directory =>
      if writes then throw .isDirectory
      if refused then throw .denied
      pure (.directory place)
    | some (.device d) => if refused then throw .denied else device p d
    | some .queue => if refused then throw .denied else queue place
    | some _ =>
      if refused then throw .denied
      if opening = .write ∨ opening = .overwrite then set { m with files := m.files.fill place [] }
      pure (.file place)
    | none =>
      if !writes then throw .missing
      make place (.file []) (withoutBits p.umask 0o666)
      pure (.file place)
  add (opened opening target)

/-- A new pipe: the numbers of the open files that it is written and read through. -/
def pipe (bounded : Bool := true) : Attempt (Nat × Nat) := do
  let m ← get
  set { m.setPipe m.fresh { bounded } with fresh := m.fresh + 1 }
  let writer ← add { target := .pipe m.fresh, writes := true, appends := true }
  let reader ← add { target := .pipe m.fresh, reads := true }
  return (writer, reader)

/-- The open file with a number. -/
def openFile? (number : Nat) : Attempt OpenFile := do
  match (← get).openFiles.lookup number with
  | some f => return f
  | none => throw .badStream

/-- The content of what is no pipe. -/
def contentOf (target : Target) : Attempt Bytes := do
  let m ← get
  match target with
  | .file l =>
    match m.files.get? l with
    | some (.file content) => return content
    | _ => return []
  | .orphan n => return (m.orphans.lookup n).getD []
  | .directory _ => throw .isDirectory
  | .zeros | .full => return List.replicate 65536 0
  | .nothing | .pipe _ => return []

/-- Reads from an open file as much as `amount` says, given all that there is. -/
def read (number : Nat) (amount : Octets → Nat) : Attempt Octets := do
  let f ← openFile? number
  if !f.reads then throw .badStream
  match f.target with
  | .pipe n =>
    let m ← get
    let p := (m.pipes.lookup n).getD {}
    let all := p.content
    let taken := amount all
    set (m.setPipe n (p.holding (all.drop taken)))
    return all.take taken
  | target =>
    let all := Octets.ofBytes ((← contentOf target).drop f.offset)
    let taken := min (amount all) all.length
    modify fun m => m.setOpen number { f with offset := f.offset + taken }
    return all.take taken

/-- Reads all that there is in an open file. -/
def readAll (number : Nat) : Attempt Octets :=
  read number List.length

/-- Bytes with others written over them from an offset on. -/
def overwritten (content : Bytes) (offset : Nat) (more : Bytes) : Bytes :=
  if offset = content.length then content ++ more
  else
    content.take offset ++ List.replicate (offset - content.length) 0 ++ more ++
      content.drop (offset + more.length)

/-- Writes to an open file. -/
def write (number : Nat) (s : Octets) : Attempt Unit := do
  let f ← openFile? number
  if !f.writes then throw .badStream
  let m ← get
  let place (content : Bytes) : Nat := if f.appends then content.length else f.offset
  let moved (content : Bytes) (m : Machine) : Machine :=
    if s.isEmpty then m else m.setOpen number { f with offset := place content + s.length }
  match f.target with
  | .nothing | .zeros => return
  | .full => if s.isEmpty then return else throw .noSpace
  | .directory _ => throw .badStream
  | .pipe n =>
    let p := (m.pipes.lookup n).getD {}
    if p.isOverfull then throw .brokenPipe
    set (m.setPipe n (p.write s))
  | .orphan n =>
    let content ← contentOf f.target
    let content' := overwritten content (place content) (Octets.toBytes s)
    set (moved content { m with orphans := Keyed.put Prod.fst (n, content') m.orphans })
  | .file l =>
    let content ← contentOf f.target
    let content' := overwritten content (place content) (Octets.toBytes s)
    set (moved content { m with files := m.files.fill l content' })

end Attempt

end ComponentReference
