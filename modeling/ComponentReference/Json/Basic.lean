import ComponentReference.Keyed
import ComponentReference.Number.Layout

/-!
# JSON values

The values that parsers and configuration files hand over.  Whole numbers keep
all their digits and are told apart from floating-point ones; the fields of an
object keep their order.
-/

namespace ComponentReference

/-- A JSON value. -/
inductive Json where
  | null
  | bool (b : Bool)
  | int (n : Int)
  | double (x : Double)
  | str (s : String)
  | arr (items : List Json)
  | obj (fields : List (String × Json))

namespace Json

/-- The fields of an object, in order. -/
abbrev Fields := List (String × Json)

/-- The value of a field. -/
def Fields.get? (fields : Fields) (key : String) : Option Json :=
  fields.lookup key

/-- The value of a field; one that is absent counts as null. -/
def Fields.get (fields : Fields) (key : String) : Json :=
  (fields.get? key).getD .null

/-- The fields with one more, which replaces an earlier one of the same key. -/
def Fields.put (fields : Fields) (key : String) (value : Json) : Fields :=
  Keyed.put Prod.fst (key, value) fields

/-- The fields of an object; any other value has none. -/
def fields : Json → Fields
  | .obj fields => fields
  | _ => []

/-- The fields of the value, if it is an object. -/
def fields? : Json → Option Fields
  | .obj fields => some fields
  | _ => none

/-- The items of a list; any other value has none. -/
def items : Json → List Json
  | .arr items => items
  | _ => []

/-- The objects among the items of a list. -/
def objects (j : Json) : List Fields :=
  j.items.filterMap fields?

/-- The string that the value is, if it is one. -/
def str? : Json → Option String
  | .str s => some s
  | _ => none

/-- Numbers have the fewest digits that identify them, are positional from
`0.0001` up to sixteen digits before the point, and never look like whole ones. -/
def numberLayout : Layout where
  positionalFrom := -4
  positionalBelow := 16
  wholeEnding := ".0"
  exponentMark := "e"
  exponentWidth := 2
  infinity := "inf"
  notNumber := "nan"

/-- The text that a scalar stands for.  Null, the empty string, lists and objects
stand for none. -/
def text? : Json → Option String
  | .bool b => some (if b then "true" else "false")
  | .int n => some n.repr
  | .double x => some (numberLayout.text x)
  | .str s => if s.isEmpty then none else some s
  | .null | .arr _ | .obj _ => none

end Json

end ComponentReference
