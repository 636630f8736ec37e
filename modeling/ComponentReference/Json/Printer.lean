import ComponentReference.Json.Basic
import ComponentReference.Text.Basic

/-!
# Writing JSON

The text form of a value, on one line, with a space after every comma and every
colon.  Only quotes, backslashes and control characters are escaped.
-/

namespace ComponentReference.Json

/-- Floating-point numbers in JSON text: as everywhere, but infinity and what is
no number have names of their own. -/
def printedLayout : Layout :=
  { numberLayout with infinity := "Infinity", notNumber := "NaN" }

/-- One character inside a JSON string. -/
def escapedChar (c : Char) : List Char :=
  if c = '"' ∨ c = '\\' then ['\\', c]
  else if c = '\n' then ['\\', 'n']
  else if c = '\r' then ['\\', 'r']
  else if c = '\t' then ['\\', 't']
  else if c.toNat = 0x8 then ['\\', 'b']
  else if c.toNat = 0xC then ['\\', 'f']
  else if c.toNat < 0x20 then '\\' :: 'u' :: Text.hex 4 c.toNat
  else [c]

/-- A JSON string with its quotes. -/
def printString (s : String) : String :=
  String.ofList ('"' :: s.toList.flatMap escapedChar ++ ['"'])

mutual

/-- The text form of the value. -/
def print : Json → String
  | .null => "null"
  | .bool b => if b then "true" else "false"
  | .int n => n.repr
  | .double x => printedLayout.text x
  | .str s => printString s
  | .arr items => "[" ++ ", ".intercalate (printItems items) ++ "]"
  | .obj fields => "\x7b" ++ ", ".intercalate (printFields fields) ++ "\x7d"

/-- The text forms of the items of a list. -/
def printItems : List Json → List String
  | [] => []
  | j :: rest => print j :: printItems rest

/-- The text forms of the fields of an object. -/
def printFields : List (String × Json) → List String
  | [] => []
  | (key, value) :: rest => (printString key ++ ": " ++ print value) :: printFields rest

end

end ComponentReference.Json
