import ComponentReference.Host.Path
import ComponentReference.Keyed
import ComponentReference.Text.Utf8

/-!
# The file system

A file system is a list of what is at which place, with no place twice.  It is
seen through `FileSystem.get?`, and grows and changes through `put` alone.  The order of
the list is the one in which directories list their names, which may be any; a new name
comes last.  What else is noted of files, such as who may do what with them, is told by
`FileSystem.attributesAt`, and does not bear on what is where.
-/

namespace ComponentReference

/-- What is read and written like a file, and keeps nothing. -/
inductive Device where
  /-- What is written vanishes, and there is nothing to read. -/
  | nothing
  /-- There are zeros to read, and what is written vanishes. -/
  | zeros
  /-- There are zeros to read, but no room to write. -/
  | full
  /-- The terminal, which there is none of. -/
  | terminal
  /-- What the stream with a number is of the program that looks. -/
  | stream (number : Nat)
deriving DecidableEq, Repr

/-- What can be at a place. -/
inductive Entry where
  | directory
  | file (content : Bytes)
  /-- A symbolic link. -/
  | link (target : String)
  | device (device : Device)
  /-- A pipe that has a name. -/
  | queue
deriving DecidableEq, Repr

/-- What there is to read from the beginning, but for zeros without end. -/
def Entry.content : Entry → Bytes
  | .file content => content
  | _ => []

/-- Who may do what with a file: three bits each for its owner, its group and all
others, for reading, writing and running, and three more in front of them. -/
abbrev Mode := Nat

/-- The time at which all begins, in microseconds since 1970. -/
def beginning : Nat := 1767225600 * 10 ^ 6

/-- What is noted of a file beside its content. -/
structure Attributes where
  mode : Mode
  /-- Whether the user owns it who runs programs. -/
  isOwn : Bool := true
  /-- When its content was last changed, in microseconds since 1970. -/
  changed : Int := beginning
  /-- What tells files apart that have several names; the others have no number. -/
  number? : Option Nat := none
deriving DecidableEq, Repr

/-- A move of what is at a place to another one. -/
structure Turn where
  source : Location
  target : Location
deriving DecidableEq, Repr

namespace Turn

/-- The removal of what is at a place.  A directory goes on beside its old place, under a
name that no path can write. -/
def removal (l : Location) : Turn :=
  ⟨l, l.dropLast ++ [(l.getLast?.getD "").push (Char.ofNat 0)]⟩

/-- Where something is after a move. -/
def follow (t : Turn) (l : Location) : Location :=
  if t.source.isPrefixOf l then t.target ++ l.drop t.source.length else l

end Turn

/-- The file system. -/
structure FileSystem where
  /-- What is at which place, as the directories list it; the root is not listed. -/
  entries : List (Location × Entry) := []
  nodup : (entries.map Prod.fst).Nodup := by simp
  /-- What is noted of what is at a place, unless it is the ordinary. -/
  attributes : List (Location × Attributes) := []
  /-- The time, in microseconds since 1970. -/
  clock : Nat := beginning

namespace FileSystem

/-- What is at a place.  The root is always a directory. -/
def get? (fs : FileSystem) (l : Location) : Option Entry :=
  if l = [] then some .directory else fs.entries.lookup l

/-- The file system with an entry at a place, instead of what was there. -/
def put (fs : FileSystem) (l : Location) (e : Entry) : FileSystem where
  entries := Keyed.put Prod.fst (l, e) fs.entries
  nodup := Keyed.nodup_put Prod.fst (l, e) fs.nodup
  attributes := fs.attributes
  clock := fs.clock

/-- The file system without what is at a place and below it. -/
def erase (fs : FileSystem) (l : Location) : FileSystem where
  entries := fs.entries.filter fun entry => !l.isPrefixOf entry.1
  nodup := (List.filter_sublist.map Prod.fst).nodup fs.nodup
  attributes := fs.attributes.filter fun entry => !l.isPrefixOf entry.1
  clock := fs.clock

/-- What lies below a place, each with the names that lead to it from there. -/
def below (fs : FileSystem) (l : Location) : List (List String × Entry) :=
  fs.entries.filterMap fun (place, e) =>
    if l.isPrefixOf place ∧ place ≠ l then some (place.drop l.length, e) else none

/-- The names of what lies right below a place, as they are listed there. -/
def children (fs : FileSystem) (l : Location) : List String :=
  (fs.below l).filterMap fun (names, _) =>
    match names with
    | [name] => some name
    | _ => none

/-- Whether a directory is at a place. -/
def isDirectoryAt (fs : FileSystem) (l : Location) : Bool :=
  fs.get? l == some .directory

/-! ## Attributes -/

/-- What is noted of what is at a place.  The root belongs to nobody who runs programs.
A place where nothing is counts as that of a directory that has been removed. -/
def attributesAt (fs : FileSystem) (l : Location) : Attributes :=
  match fs.attributes.lookup l, fs.get? l with
  | some a, _ => a
  | none, some .directory | none, none => { mode := 0o755, isOwn := !l.isEmpty }
  | none, some (.link _) => { mode := 0o777 }
  | none, some (.device _) => { mode := 0o666 }
  | none, some (.file _) | none, some .queue => { mode := 0o644 }

/-- The file system with something else noted of what is at a place. -/
def mark (fs : FileSystem) (l : Location) (a : Attributes) : FileSystem :=
  { fs with attributes := Keyed.put Prod.fst (l, a) fs.attributes }

/-- The three bits that say what the user may do with what is at a place. -/
def rightsAt (fs : FileSystem) (l : Location) : Nat :=
  let a := fs.attributesAt l
  if a.isOwn then a.mode / 64 % 8 else a.mode % 8

/-- Whether the user may read what is at a place. -/
def mayRead (fs : FileSystem) (l : Location) : Bool :=
  fs.rightsAt l &&& 4 ≠ 0

/-- Whether the user may write what is at a place. -/
def mayWrite (fs : FileSystem) (l : Location) : Bool :=
  fs.rightsAt l &&& 2 ≠ 0

/-- Whether the user may run the file at a place, or go through the directory there. -/
def mayRun (fs : FileSystem) (l : Location) : Bool :=
  fs.rightsAt l &&& 1 ≠ 0

/-- Whether names in the directory at a place may be added and removed. -/
def mayChange (fs : FileSystem) (l : Location) : Bool :=
  fs.mayWrite l && fs.mayRun l

/-- The places of the names of the file at a place. -/
def namesOf (fs : FileSystem) (l : Location) : List Location :=
  match (fs.attributesAt l).number? with
  | none => [l]
  | some n => (fs.attributes.filter fun entry => entry.2.number? = some n).map Prod.fst

/-- The file system with something else noted of what is at a place, by whatever name. -/
def markAll (fs : FileSystem) (l : Location) (a : Attributes) : FileSystem :=
  (fs.namesOf l).foldl (fun fs name => fs.mark name a) fs

/-- The file system in which the file at a place has another content now, by whatever
name. -/
def fill (fs : FileSystem) (l : Location) (content : Bytes) : FileSystem :=
  let filled := (fs.namesOf l).foldl (fun fs name => fs.put name (.file content)) fs
  filled.markAll l { fs.attributesAt l with changed := fs.clock }

/-- The file system in which the place `there` has become another name of the file at a
place, given a number that no file has yet. -/
def join (fs : FileSystem) (l there : Location) (fresh : Nat) : FileSystem :=
  let a := fs.attributesAt l
  let a := { a with number? := some (a.number?.getD fresh) }
  (fs.mark l a).mark there a

/-- The file system with an entry that is made at a place now. -/
def make (fs : FileSystem) (l : Location) (e : Entry) (mode : Mode) : FileSystem :=
  (fs.put l e).mark l { mode, changed := fs.clock }

/-- Writing at a place changes what is there, and nothing else. -/
theorem get?_put (fs : FileSystem) (k l : Location) (e : Entry) :
    (fs.put k e).get? l = if l = k ∧ l ≠ [] then some e else fs.get? l := by
  by_cases hl : l = []
  · simp [get?, hl]
  · simp [get?, put, hl, Keyed.lookup_put]

end FileSystem

end ComponentReference
