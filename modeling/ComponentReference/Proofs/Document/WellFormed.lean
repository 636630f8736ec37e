import ComponentReference.Document.OfJson
import ComponentReference.Proofs.Json.Texts

/-!
# Documents from reports are well-formed

Whatever the shape of a report, the document that it describes is well-formed: a text that
may be absent is never empty, no union lacks members, members have names, and no two
properties or slots have the same name.

## Strategy

A report of any shape is read field by field, so there is one lemma for each part of a
document.  Two facts carry them all.  The text that a value stands for is not empty, whatever
the value is (`Json.text?_ne_empty`).  And a union is only made of elements that there are;
since elements may be unions again, this is an induction over JSON values, with one case for
each of the functions that read types (`PropType.wellFormed_ofJson?`).

Properties and slots are held as lists that know their keys.  `Json.Fields.stored` is the
mapping from names itself, and `Json.Fields.stored_eq` says that the list is what it holds.
-/

namespace ComponentReference

/-! ## Well-formed documents -/

/-- The text is absent or not empty. -/
def Text.Filled (s : Option String) : Prop :=
  s ≠ some ""

/-- No union in the type, at whatever depth, is without members. -/
inductive PropType.WellFormed : PropType → Prop
  | simple (name : String) : WellFormed (.simple name)
  | union {members : List PropType} (hne : members ≠ [])
      (hmembers : ∀ t ∈ members, WellFormed t) : WellFormed (.union members)

structure Property.WellFormed (p : Property) : Prop where
  type : ∀ t, p.type = some t → t.WellFormed
  defaultValue : Text.Filled p.defaultValue
  description : Text.Filled p.description

structure Member.WellFormed (m : Member) : Prop where
  name : m.name ≠ ""
  tags : ∀ t ∈ m.tags, Text.Filled t.description
  description : Text.Filled m.description

structure Parameter.WellFormed (p : Parameter) : Prop where
  name : Text.Filled p.name
  description : Text.Filled p.description

structure Event.WellFormed (e : Event) : Prop where
  name : Text.Filled e.name
  description : Text.Filled e.description
  parameters : ∀ p ∈ e.parameters, p.WellFormed

/-- Texts that may be absent are not empty, unions have members, exposed members have names,
and properties and slots have names of their own. -/
structure Document.WellFormed (d : Document) : Prop where
  displayName : Text.Filled d.displayName
  description : Text.Filled d.description
  examples : ∀ e ∈ d.examples, Text.Filled e.title
  properties : ∀ p ∈ d.properties, p.WellFormed
  propertyNames : (d.properties.map Property.name).Nodup
  slots : ∀ s ∈ d.slots, Text.Filled s.description
  slotNames : (d.slots.map Slot.name).Nodup
  members : ∀ m ∈ d.members, m.WellFormed
  events : ∀ e ∈ d.events, e.WellFormed

/-! ## Types -/

namespace PropType

mutual

theorem wellFormed_ofJson? : ∀ (j : Json) {t : PropType}, ofJson? j = some t → t.WellFormed
  | .obj fields, t, h => by
      rw [ofJson?] at h
      split at h
      · next first rest hname hmembers =>
          -- the members are those of the field, of which there is a first one
          obtain rfl := Option.some.inj h
          refine .union (List.cons_ne_nil first rest) fun t ht => ?_
          exact wellFormed_unionMembers fields t (hmembers ▸ ht)
      · obtain rfl := Option.some.inj h
        exact .simple _
  | .null, _, h | .bool _, _, h | .int _, _, h | .double _, _, h | .str _, _, h | .arr _, _, h => by
      cases h

theorem wellFormed_unionMembers : ∀ (fields : Json.Fields), ∀ t ∈ unionMembers fields, t.WellFormed
  | [] => by
      intro t ht
      cases ht
  | (key, value) :: rest => by
      intro t ht
      rw [unionMembers] at ht
      split at ht
      · exact wellFormed_membersOf value t ht
      · exact wellFormed_unionMembers rest t ht

theorem wellFormed_membersOf : ∀ (j : Json), ∀ t ∈ membersOf j, t.WellFormed
  | .arr items => wellFormed_listed items
  | .null | .bool _ | .int _ | .double _ | .str _ | .obj _ => by
      intro t ht
      cases ht

theorem wellFormed_listed : ∀ (items : List Json), ∀ t ∈ listed items, t.WellFormed
  | [] => by
      intro t ht
      cases ht
  | j :: rest => by
      intro t ht
      rw [listed] at ht
      rcases List.mem_cons.mp ht with rfl | ht
      · cases hj : ofJson? j with
        | none => exact .simple ""
        | some t => exact wellFormed_ofJson? j hj
      · exact wellFormed_listed rest t ht

end

end PropType

/-! ## Texts and mappings among the fields -/

namespace Json.Fields

variable {α : Type}

theorem filled_text? (fields : Json.Fields) (key : String) : Text.Filled (fields.text? key) :=
  Json.text?_ne_empty _

theorem mem_describe {read : String → Json.Fields → α} {fields : Json.Fields} {a : α} :
    a ∈ fields.describe read ↔
      ∃ key inner, (key, Json.obj inner) ∈ fields ∧ read key inner = a := by
  unfold describe
  rw [List.mem_filterMap]
  constructor
  · rintro ⟨⟨key, value⟩, hfield, hread⟩
    obtain ⟨inner, hinner, rfl⟩ := Option.map_eq_some_iff.mp hread
    cases value with
    | obj fields =>
        obtain rfl := Option.some.inj hinner
        exact ⟨key, fields, hfield, rfl⟩
    | _ => cases hinner
  · rintro ⟨key, inner, hfield, rfl⟩
    exact ⟨(key, .obj inner), hfield, rfl⟩

/-- The name under which it is stored what an object describes: the object's own, or else
the key that the object stands under. -/
def storedName (key : String) (fields : Json.Fields) : String :=
  (fields.text? "name").getD key

/-- The mapping from names to what the objects among the fields describe, stored one after
the other. -/
def stored (read : String → Json.Fields → α) (fields : Json.Fields) : List (String × α) :=
  Keyed.ofList Prod.fst (fields.describe fun key inner => (inner.storedName key, read key inner))

/-- If all are named as they are stored, the mapping holds the list that they make up, each
entry under its name. -/
theorem stored_eq {name : α → String} {read : String → Json.Fields → α}
    (hname : ∀ key inner, name (read key inner) = storedName key inner) (fields : Json.Fields) :
    fields.stored read = (Keyed.ofList name (fields.describe read)).map fun a => (name a, a) := by
  have hpairs : (fields.describe fun key inner => (inner.storedName key, read key inner)) =
      (fields.describe read).map fun a => (name a, a) := by
    unfold describe
    rw [List.map_filterMap]
    refine congrArg (fun f => List.filterMap f fields) (funext fun field => ?_)
    rw [Option.map_map]
    refine congrArg (fun f => Option.map f _) (funext fun inner => ?_)
    rw [Function.comp_apply, hname]
  rw [stored, hpairs, Keyed.ofList_pairs]

end Json.Fields

/-! ## The parts of a document -/

theorem Property.wellFormed_ofFields (key : String) (fields : Json.Fields) :
    (Property.ofFields key fields).WellFormed where
  type _ ht := PropType.wellFormed_ofJson? _ ht
  defaultValue := Json.text?_ne_empty _
  description := fields.filled_text? _

theorem Member.wellFormed_ofFields (fields : Json.Fields) : (Member.ofFields fields).WellFormed := by
  refine ⟨?_, fun t ht => ?_, fields.filled_text? _⟩
  · show (fields.text? "name").getD "-" ≠ ""
    intro h
    cases hname : fields.text? "name" with
    | none => simp [hname] at h
    | some name =>
        rw [hname, Option.getD_some] at h
        exact Json.Fields.filled_text? fields "name" (h ▸ hname)
  · obtain ⟨inner, -, rfl⟩ := List.mem_map.mp ht
    exact Json.Fields.filled_text? inner _

/-- The type of a member is absent or not empty, whatever its tags say. -/
theorem Member.filled_typeText (m : Member) : Text.Filled m.typeText := by
  unfold typeText
  split
  · intro h
    obtain ⟨-, hempty⟩ := Option.filter_eq_some_iff.mp h
    simp at hempty
  · exact nofun

theorem Event.wellFormed_ofFields (fields : Json.Fields) : (Event.ofFields fields).WellFormed := by
  refine ⟨fields.filled_text? _, fields.filled_text? _, fun p hp => ?_⟩
  obtain ⟨inner, -, rfl⟩ := List.mem_map.mp hp
  exact ⟨Json.Fields.filled_text? inner _, Json.Fields.filled_text? inner _⟩

/-! ## The document -/

namespace Document

theorem wellFormed_ofFields (fields : Json.Fields) : (Document.ofFields fields).WellFormed where
  displayName := fields.filled_text? _
  description := fields.filled_text? _
  examples e he := by
    obtain ⟨inner, -, rfl⟩ := List.mem_map.mp he
    exact Json.Fields.filled_text? inner _
  properties p hp := by
    obtain ⟨key, inner, -, rfl⟩ :=
      Json.Fields.mem_describe.mp (Keyed.mem_of_mem_ofList Property.name hp)
    exact Property.wellFormed_ofFields key inner
  propertyNames := Keyed.nodup_ofList Property.name _
  slots s hs := by
    obtain ⟨key, inner, -, rfl⟩ :=
      Json.Fields.mem_describe.mp (Keyed.mem_of_mem_ofList Slot.name hs)
    exact Json.Fields.filled_text? inner _
  slotNames := Keyed.nodup_ofList Slot.name _
  members m hm := by
    obtain ⟨inner, -, rfl⟩ := List.mem_map.mp hm
    exact Member.wellFormed_ofFields inner
  events e he := by
    obtain ⟨inner, -, rfl⟩ := List.mem_map.mp he
    exact Event.wellFormed_ofFields inner

/-- Every object describes a document, which is well-formed.  The types of its members are
absent or not empty, and the mappings of its properties and slots hold each of them under
its name. -/
theorem ofJson_wellFormed (fields : Json.Fields) :
    ∃ d, Document.ofJson (.obj fields) = .ok d ∧ d.WellFormed ∧
      (∀ m ∈ d.members, Text.Filled m.typeText) ∧
      (fields.get "props").fields.stored Property.ofFields =
        d.properties.map (fun p => (p.name, p)) ∧
      (fields.get "slots").fields.stored Slot.ofFields = d.slots.map (fun s => (s.name, s)) := by
  refine ⟨.ofFields fields, rfl, wellFormed_ofFields fields, fun m _ => m.filled_typeText, ?_, ?_⟩
  · exact Json.Fields.stored_eq (fun _ _ => rfl) _
  · exact Json.Fields.stored_eq (fun _ _ => rfl) _

end Document

end ComponentReference
