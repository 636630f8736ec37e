import ComponentReference.Text.Basic

/-!
# Paths

A path is held as the names between its slashes, without the empty ones and the
single dots, which lead nowhere.  A double dot stays: what it leads to depends
on the links before it.
-/

namespace ComponentReference

/-- What a path begins with.  Two slashes are kept apart from one; more are the
same as one. -/
inductive Anchor where
  | nothing
  | slash
  | twoSlashes
deriving DecidableEq, Repr

/-- A path. -/
structure Path where
  anchor : Anchor := .nothing
  names : List String := []
deriving DecidableEq, Repr

namespace Path

/-- What stands between the slashes of a text, in order. -/
def pieces (s : String) : List String :=
  (Text.split '/' s.toList).map String.ofList

/-- Whether what stands between two slashes is a name, or leads nowhere. -/
def isName (piece : String) : Bool :=
  piece ≠ "" ∧ piece ≠ "."

/-- The names in a text, in order. -/
def namesIn (s : String) : List String :=
  (pieces s).filter isName

/-- The path that a text writes. -/
def ofString (s : String) : Path where
  anchor :=
    match s.toList.takeWhile (· = '/') with
    | [] => .nothing
    | [_, _] => .twoSlashes
    | _ => .slash
  names := namesIn s

/-- The text of a path; the path that leads nowhere is a single dot. -/
def text (p : Path) : String :=
  let names := "/".intercalate p.names
  match p.anchor with
  | .nothing => if p.names.isEmpty then "." else names
  | .slash => "/" ++ names
  | .twoSlashes => "//" ++ names

/-- Whether the path begins at the root. -/
def isAbsolute (p : Path) : Bool :=
  p.anchor ≠ .nothing

/-- The path `q` seen from `p`. -/
def append (p q : Path) : Path :=
  if q.isAbsolute then q else { p with names := p.names ++ q.names }

instance : Append Path where
  append := append

/-- The path with one more name. -/
def child (p : Path) (name : String) : Path :=
  { p with names := p.names ++ [name] }

/-- The path without its last name. -/
def parent (p : Path) : Path :=
  { p with names := p.names.dropLast }

/-- The path to the directory that holds a directory, if no link is on the way.  A
relative path that begins there keeps a double dot for it. -/
def above (p : Path) : Path :=
  match p.names.getLast? with
  | none => if p.isAbsolute then p else p.child ".."
  | some name => if name = ".." then p.child ".." else p.parent

/-- The names without double dots, each of which takes back the name before it. -/
def withoutDots (names : List String) : List String :=
  names.foldl (fun kept name => if name = ".." then kept.dropLast else kept ++ [name]) []

end Path

/-- A place in the file system: the names that lead to it from the root, through
directories only. -/
abbrev Location := List String

/-- The path of a place. -/
def Location.path (l : Location) : Path :=
  ⟨.slash, l⟩

namespace Path

/-- The absolute path that a path is for one who is at the place.  Double dots are
taken back without a look at the files. -/
def absoluteFrom (here : Location) (p : Path) : Path :=
  let whole := here.path ++ p
  { whole with names := withoutDots whole.names }

/-- The path as it goes on from the place, if it leads through the place. -/
def after? (here : Location) (p : Path) : Option Path :=
  if p.anchor = .slash ∧ here.isPrefixOf p.names then some ⟨.nothing, p.names.drop here.length⟩
  else none

end Path

end ComponentReference
