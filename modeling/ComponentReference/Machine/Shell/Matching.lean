import ComponentReference.Machine.Shell.Expansion

/-!
# Paths that match

A field with an unquoted asterisk, question mark or bracket becomes the paths of the
files that match it, in the order of their octets, if there are any.  A name that begins
with a dot has to be asked for.
-/

namespace ComponentReference.Shell

/-- Whether marks write more than themselves. -/
def isPattern (marks : List Mark) : Bool :=
  marks.any fun m => !m.quoted && ['*', '?', '['].contains m.octet

/-- The marks between slashes. -/
def components (marks : List Mark) : List (List Mark) :=
  marks.foldr (fun m parts =>
    if m.octet = '/' then [] :: parts
    else match parts with
      | part :: parts => (m :: part) :: parts
      | [] => [[m]]) [[]]

namespace Sh

/-- What is where a path leads. -/
def find (path : Octets) (followLast : Bool := true) : Sh (Except Errno (Location × Entry)) := do
  attempt (Attempt.find (← own).directory path followLast)

/-- The names in the directory that a path leads to, with those of itself and of the one
above it. -/
def namesIn (path : Octets) : Sh (List Octets) := do
  match ← find (if path.isEmpty then ['.'] else path) with
  | .ok (place, .directory) =>
    let names := (← get).machine.files.children place
    return [['.'], ['.', '.']] ++ names.map Octets.ofString
  | _ => return []

/-- The paths that begin as given and go on in components that match. -/
def matchingFrom (beginning : Octets) : List (List Mark) → Sh (List Octets)
  | [] => return [beginning]
  | component :: rest => do
    let heads ←
      if isPattern component then do
        let pattern := Pattern.ofWord component
        let wantsDots := component.head?.any fun m => m.octet = '.'
        let names ← namesIn beginning
        pure (names.filter fun name =>
          (wantsDots || name.head? ≠ some '.') && Pattern.isMatch pattern name)
      else pure [component.map Mark.octet]
    let mut paths := []
    for head in heads do
      let path := beginning ++ head
      if rest.isEmpty then
        let isSlashed := path.getLast? = some '/'
        match ← find path isSlashed with
        | .ok (_, e) => if !isSlashed ∨ e = .directory then paths := path :: paths
        | .error _ => pure ()
      else paths := (← matchingFrom (path ++ ['/']) rest).reverse ++ paths
    return paths.reverse

/-- What a field becomes: the paths that match it, or else its text. -/
def pathsOf (field : List Mark) : Sh (List Octets) := do
  let text := field.map Mark.octet
  if (← own).has 'f' ∨ !isPattern field then return [text]
  let paths ← matchingFrom [] (components field)
  return if paths.isEmpty then [text] else paths.mergeSort Octets.le

/-- The fields that a word becomes. -/
def expandWord (substitute : Substitution) (w : Word) : Sh (List Octets) := do
  let symbols ← expandHomed substitute { dividing := true } w
  let fields := Symbol.fields (← own).separators symbols
  return (← fields.mapM pathsOf).flatten

/-- The fields that words become. -/
def expandWords (substitute : Substitution) (ws : List Word) : Sh (List Octets) :=
  return (← ws.mapM (expandWord substitute)).flatten

/-- The one text that a word becomes. -/
def expandText (substitute : Substitution) (w : Word) : Sh Octets :=
  return Symbol.octets (← expandHomed substitute { dividing := false } w)

/-- The value that a setting gives. -/
def expandSetting (substitute : Substitution) (value : Word) : Sh Octets := do
  let value := (← own).withHomes value
  return Symbol.octets (← expandPieces substitute { dividing := false } value)

end Sh

end ComponentReference.Shell
