import ComponentReference.Json.Basic
import ComponentReference.Text.Quoted

/-!
# Values in messages

How a value is shown inside a message: on one line, strings quoted, the three
constants capitalised.
-/

namespace ComponentReference.Json

mutual

/-- The value as a message shows it. -/
def display : Json → String
  | .null => "None"
  | .bool b => if b then "True" else "False"
  | .int n => n.repr
  | .double x => numberLayout.text x
  | .str s => Text.quoted s
  | .arr items => "[" ++ ", ".intercalate (displayItems items) ++ "]"
  | .obj fields => "\x7b" ++ ", ".intercalate (displayFields fields) ++ "\x7d"

/-- The items of a list, each as a message shows it. -/
def displayItems : List Json → List String
  | [] => []
  | j :: rest => display j :: displayItems rest

/-- The fields of an object, each as a message shows it. -/
def displayFields : List (String × Json) → List String
  | [] => []
  | (key, value) :: rest => (Text.quoted key ++ ": " ++ display value) :: displayFields rest

end

end ComponentReference.Json
