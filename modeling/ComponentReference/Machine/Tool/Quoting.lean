import ComponentReference.Machine.Text.Octets

/-!
# Names in complaints

A program that complains about a name puts it into quotes, at least if the name would not
be one word for a shell, and shows what steers a display by what stands for it.
-/

namespace ComponentReference.Tool

/-- A part of a name: a character, in octets, and whether it can be shown as it is. -/
structure NamePart where
  octets : Octets
  isShown : Bool

/-- The characters of a name.  Octets that are no text stand for themselves. -/
def nameParts (name : Octets) : List NamePart :=
  match Octets.toString? name with
  | some text => text.toList.map fun c => ⟨Octets.ofString (String.singleton c), !steers c⟩
  | none => name.map fun c => ⟨[c], ' ' ≤ c ∧ c ≤ '~'⟩
where
  /-- Whether a character steers the display instead of being shown. -/
  steers (c : Char) : Bool :=
    c < ' ' ∨ (0x7F ≤ c.toNat ∧ c.toNat < 0xA0) ∨ c.toNat = 0x2028 ∨ c.toNat = 0x2029

/-- What stands for an octet that is not shown as it is: a letter or three octal digits,
after a backslash. -/
def escape (c : Char) : Octets :=
  let letters := [(7, 'a'), (8, 'b'), (9, 't'), (10, 'n'), (11, 'v'), (12, 'f'), (13, 'r')]
  match letters.lookup c.toNat with
  | some letter => ['\\', letter]
  | none => '\\' :: [c.toNat / 64, c.toNat / 8 % 8, c.toNat % 8].map fun d => Char.ofNat ('0'.toNat + d)

/-- The rest of a quoted name.  Octets that are not shown stand in quotes of their own
kind, which are open while `escaping`. -/
def quotedRest : (escaping : Bool) → List NamePart → Octets
  | _, [] => ['\'']
  | escaping, part :: rest =>
    if part.octets = ['\''] then ['\'', '\\', '\'', '\''] ++ quotedRest false rest
    else if part.isShown then
      (if escaping then ['\'', '\''] else []) ++ part.octets ++ quotedRest false rest
    else
      (if escaping then [] else ['\'', '$', '\'']) ++ part.octets.flatMap escape ++
        quotedRest true rest

/-- The characters that mean something to a shell, wherever they stand. -/
def special : Octets := "!\"$&()*;<=>?[\\^\x60|".toList

/-- A name in quotes: in double ones if there is a single quote in it and nothing
that means something between double ones.  A name with a single quote is gone through
twice, and the quotes that are open at the end of it count as open at its beginning. -/
def quotedName (name : Octets) : Octets :=
  let parts := nameParts name
  let isPlain := parts.all (·.isShown) ∧ !name.any special.contains ∧
    !name.any ['\x7b', '\x7d'].contains ∧ !(name.drop 1).any ['#', '~'].contains
  let endsHidden := parts.getLast?.any (!·.isShown)
  if name.contains '\'' ∧ isPlain then '"' :: name ++ ['"']
  else '\'' :: quotedRest (name.contains '\'' && endsHidden) parts

/-- A name, in quotes if it would not be one word for a shell, or holds a colon. -/
def shownName (name : Octets) : Octets :=
  let isWord := (nameParts name).all (·.isShown) ∧ !name.any special.contains ∧
    !name.any [' ', '\'', ':'].contains ∧ !(name.take 1).any ['#', '~'].contains ∧
    name ≠ [] ∧ name ≠ ['\x7b'] ∧ name ≠ ['\x7d']
  if isWord then name else quotedName name

end ComponentReference.Tool
