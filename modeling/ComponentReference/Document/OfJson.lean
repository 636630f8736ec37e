import ComponentReference.Document.Basic
import ComponentReference.Json.Basic

/-!
# Reading documents

`Document.ofJson` turns what a component parser reports into a document.  Only
the outermost value has to be an object.  Inside it, whatever is missing, has an
unexpected type or is not known counts as absent.
-/

namespace ComponentReference

/-- The one reason why a value is no document: it is not an object. -/
structure NotAnObject where
  /-- The name of the kind of value that it is. -/
  kind : String
deriving DecidableEq, Repr

/-- The wording of the refusal. -/
def NotAnObject.message (f : NotAnObject) : String :=
  "Expected a mapping, got " ++ f.kind

/-- The name of a value's kind. -/
def Json.kind : Json → String
  | .null => "NoneType"
  | .bool _ => "bool"
  | .int _ => "int"
  | .double _ => "float"
  | .str _ => "str"
  | .arr _ => "list"
  | .obj _ => "dict"

/-! ## Property types -/

mutual

/-- The type that an object describes: a union if it is named so and has
elements, else the simple type of its name. -/
def PropType.ofJson? : Json → Option PropType
  | .obj fields =>
    match (Json.Fields.get fields "name").text?, unionMembers fields with
    | some "union", first :: rest => some (.union (first :: rest))
    | name, _ => some (.simple (name.getD ""))
  | _ => none

/-- The types in the field `elements`. -/
def PropType.unionMembers : List (String × Json) → List PropType
  | [] => []
  | (key, value) :: rest => if key = "elements" then membersOf value else unionMembers rest

/-- The types in a list; any other value has none. -/
def PropType.membersOf : Json → List PropType
  | .arr items => listed items
  | _ => []

/-- One type for each item; what describes none is the type without a name. -/
def PropType.listed : List Json → List PropType
  | [] => []
  | j :: rest => (ofJson? j).getD (.simple "") :: listed rest

end

/-! ## The parts of a document -/

/-- The text under a key. -/
def Json.Fields.text? (fields : Json.Fields) (key : String) : Option String :=
  (fields.get key).text?

/-- A type name of an event parameter: any string, number or truth value. -/
def Parameter.typeName? : Json → Option String
  | .str s => some s
  | .int n => some n.repr
  | .double x => some (Json.numberLayout.text x)
  | .bool b => some (if b then "True" else "False")
  | .null | .arr _ | .obj _ => none

def Parameter.ofFields (fields : Json.Fields) : Parameter where
  name := fields.text? "name"
  typeNames := ((fields.get "type").fields.get "names").items.filterMap Parameter.typeName?
  description := fields.text? "description"

def Event.ofFields (fields : Json.Fields) : Event where
  name := fields.text? "name"
  description := fields.text? "description"
  parameters := (fields.get "properties").objects.map Parameter.ofFields

def Tag.ofFields (fields : Json.Fields) : Tag where
  title := (fields.text? "title").getD ""
  description := fields.text? "description"

/-- A member without a name is shown under a dash. -/
def Member.ofFields (fields : Json.Fields) : Member where
  name := (fields.text? "name").getD "-"
  tags := (fields.get "tags").objects.map Tag.ofFields
  description := fields.text? "description"

def Example.ofFields (fields : Json.Fields) : Example where
  content := (fields.text? "content").getD ""
  title := fields.text? "title"

/-- The property under `key`, which names it unless it has a name of its own. -/
def Property.ofFields (key : String) (fields : Json.Fields) : Property where
  name := (fields.text? "name").getD key
  type := PropType.ofJson? (fields.get "type")
  defaultValue := (fields.get "defaultValue").fields.text? "value"
  description := fields.text? "description"

/-- The slot under `key`, which names it unless it has a name of its own. -/
def Slot.ofFields (key : String) (fields : Json.Fields) : Slot where
  name := (fields.text? "name").getD key
  description := fields.text? "description"

/-- What the objects among the fields describe, in order. -/
def Json.Fields.describe {α : Type} (read : String → Json.Fields → α) (fields : Json.Fields) :
    List α :=
  fields.filterMap fun (key, value) => value.fields?.map (read key)

/-! ## The document -/

/-- The document that the fields of a report describe.  Of several properties or
slots with one name the last counts, at the place of the first. -/
def Document.ofFields (fields : Json.Fields) : Document where
  displayName := fields.text? "displayName"
  description := fields.text? "description"
  examples := ((fields.get "tags").fields.get "examples").objects.map Example.ofFields
  properties :=
    Keyed.ofList Property.name ((fields.get "props").fields.describe Property.ofFields)
  slots := Keyed.ofList Slot.name ((fields.get "slots").fields.describe Slot.ofFields)
  members := (fields.get "expose").objects.map Member.ofFields
  events := (fields.get "events").objects.map Event.ofFields

/-- The document that a report describes. -/
def Document.ofJson : Json → Except NotAnObject Document
  | .obj fields => .ok (.ofFields fields)
  | j => .error ⟨j.kind⟩

end ComponentReference
