import ComponentReference.Text.Basic
import ComponentReference.Text.Printable

/-!
# Quoted text

Text as it is shown inside a message: between quotes, on one line, with every
character that would not show as itself written as an escape.  The quotes are
single ones, unless the text holds a single quote and no double one.
-/

namespace ComponentReference.Text

/-- The quote character that the text is put between. -/
def quoteMark (s : List Char) : Char :=
  if '\'' ∈ s ∧ '"' ∉ s then '"' else '\''

/-- One character of quoted text.  The escape of an unprintable one is as short
as its code point allows. -/
def quotedChar (mark c : Char) : List Char :=
  if c = mark ∨ c = '\\' then ['\\', c]
  else if c = '\n' then ['\\', 'n']
  else if c = '\r' then ['\\', 'r']
  else if c = '\t' then ['\\', 't']
  else if isPrintable c then [c]
  else if c.toNat < 0x100 then '\\' :: 'x' :: hex 2 c.toNat
  else if c.toNat < 0x10000 then '\\' :: 'u' :: hex 4 c.toNat
  else '\\' :: 'U' :: hex 8 c.toNat

/-- The text between quotes. -/
def quoted (s : String) : String :=
  let mark := quoteMark s.toList
  String.ofList (mark :: s.toList.flatMap (quotedChar mark) ++ [mark])

end ComponentReference.Text
