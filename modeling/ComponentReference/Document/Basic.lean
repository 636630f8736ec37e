/-!
# Component documents

The public interface of one component: what it is called, what it does, how it
is used, and the properties, slots, events and exposed members that it offers.
Optional texts are absent or, in a well-formed document, not empty.
-/

namespace ComponentReference

/-- The type of a property: one name, or several types of which any may occur. -/
inductive PropType where
  | simple (name : String)
  | union (members : List PropType)

/-- A piece of code that shows how the component is used. -/
structure Example where
  content : String
  title : Option String := none

/-- A property that users of the component may set. -/
structure Property where
  name : String
  type : Option PropType := none
  defaultValue : Option String := none
  description : Option String := none

/-- A place for content of the user's own. -/
structure Slot where
  name : String
  description : Option String := none

/-- A remark with a title, attached to an exposed member. -/
structure Tag where
  title : String
  description : Option String := none

/-- A method or value that the component exposes. -/
structure Member where
  name : String
  tags : List Tag := []
  description : Option String := none

/-- A value that is sent along with an event. -/
structure Parameter where
  name : Option String := none
  typeNames : List String := []
  description : Option String := none

/-- An event that the component emits. -/
structure Event where
  name : Option String := none
  description : Option String := none
  parameters : List Parameter := []

/-- The public interface of one component.  Properties and slots are keyed by
their names. -/
structure Document where
  displayName : Option String := none
  description : Option String := none
  examples : List Example := []
  properties : List Property := []
  slots : List Slot := []
  members : List Member := []
  events : List Event := []

/-- The type of a member: the description of its first tag titled `type`. -/
def Member.typeText (m : Member) : Option String :=
  match m.tags.find? (·.title = "type") with
  | some tag => tag.description.filter (!·.isEmpty)
  | none => none

end ComponentReference
