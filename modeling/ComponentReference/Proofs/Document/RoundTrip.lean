import ComponentReference.Proofs.Document.WellFormed

/-!
# Every well-formed document can be reported

`Document.toJson` writes a document as a report: texts that are absent are left out, types
are objects with a name, and properties and slots stand under their names.  Reading the
report gives the document back, if the document is well-formed, with every list in its order.

## Strategy

The fields of a record are written as a table of keys and optional values, of which those
that have one are kept (`Json.Fields.present`).  What is read under a key is then what the
table says of it, provided that its keys differ (`Json.Fields.get_present`).  It remains to
compare the table of each record with what is read of it: an absent text is one that is not
filled (`Json.text?_getD`), and a text that has to be there is its own default when it is
empty (`Json.getD_text?_str`).  For types it is an induction that follows how they are written.
-/

namespace ComponentReference

/-! ## Reports -/

/-- The fields of a table that have a value. -/
def Json.Fields.present (table : List (String × Option Json)) : Json.Fields :=
  table.filterMap fun (key, value) => value.map fun j => (key, j)

mutual

def PropType.toJson : PropType → Json
  | .simple name => .obj [("name", .str name)]
  | .union members => .obj [("name", .str "union"), ("elements", .arr (membersToJson members))]

def PropType.membersToJson : List PropType → List Json
  | [] => []
  | t :: rest => t.toJson :: membersToJson rest

end

def Example.toFields (e : Example) : Json.Fields :=
  .present [("content", some (.str e.content)), ("title", e.title.map .str)]

def Property.toFields (p : Property) : Json.Fields :=
  .present [("name", some (.str p.name)), ("type", p.type.map PropType.toJson),
    ("defaultValue", p.defaultValue.map fun s => .obj [("value", .str s)]),
    ("description", p.description.map .str)]

def Slot.toFields (s : Slot) : Json.Fields :=
  .present [("name", some (.str s.name)), ("description", s.description.map .str)]

def Tag.toFields (t : Tag) : Json.Fields :=
  .present [("title", some (.str t.title)), ("description", t.description.map .str)]

def Member.toFields (m : Member) : Json.Fields :=
  .present [("name", some (.str m.name)),
    ("tags", some (.arr (m.tags.map fun t => .obj t.toFields))),
    ("description", m.description.map .str)]

def Parameter.toFields (p : Parameter) : Json.Fields :=
  .present [("name", p.name.map .str),
    ("type", some (.obj [("names", .arr (p.typeNames.map .str))])),
    ("description", p.description.map .str)]

def Event.toFields (e : Event) : Json.Fields :=
  .present [("name", e.name.map .str), ("description", e.description.map .str),
    ("properties", some (.arr (e.parameters.map fun p => .obj p.toFields)))]

def Document.toFields (d : Document) : Json.Fields :=
  .present [("displayName", d.displayName.map .str), ("description", d.description.map .str),
    ("tags", some (.obj [("examples", .arr (d.examples.map fun e => .obj e.toFields))])),
    ("props", some (.obj (d.properties.map fun p => (p.name, .obj p.toFields)))),
    ("slots", some (.obj (d.slots.map fun s => (s.name, .obj s.toFields)))),
    ("expose", some (.arr (d.members.map fun m => .obj m.toFields))),
    ("events", some (.arr (d.events.map fun e => .obj e.toFields)))]

/-- The report that describes the document. -/
def Document.toJson (d : Document) : Json :=
  .obj d.toFields

/-! ## What is read of what was written -/

namespace Json

variable {α : Type}

theorem Fields.present_cons (key : String) (value : Option Json)
    (rest : List (String × Option Json)) :
    present ((key, value) :: rest) = (value.map fun j => (key, j)).toList ++ present rest := by
  cases value <;> rfl

theorem Fields.get?_present {table : List (String × Option Json)}
    (hkeys : (table.map Prod.fst).Nodup) (key : String) :
    (present table).get? key = (table.lookup key).join := by
  unfold get?
  induction table with
  | nil => rfl
  | cons field rest ih =>
      obtain ⟨key', value⟩ := field
      rw [List.map_cons, List.nodup_cons] at hkeys
      rw [present_cons, List.lookup_append, ih hkeys.2]
      by_cases hkey : key = key'
      · -- the field itself, which no later one stands for
        subst hkey
        have habsent : rest.lookup key = none := by
          rw [List.lookup_eq_none_iff]
          intro field hfield
          exact bne_iff_ne.mpr fun heq => hkeys.1 (List.mem_map.mpr ⟨field, hfield, heq.symm⟩)
        cases value <;> simp [habsent]
      · have hbeq : (key == key') = false := beq_eq_false_iff_ne.mpr hkey
        cases value <;> simp [hbeq, List.lookup_cons]

theorem Fields.get_present {table : List (String × Option Json)}
    (hkeys : (table.map Prod.fst).Nodup) (key : String) :
    (present table).get key = (table.lookup key).join.getD .null := by
  rw [get, get?_present hkeys]

theorem Fields.get_singleton (key : String) (value : Json) :
    Fields.get [(key, value)] key = value := by
  simp [get, get?]

theorem text?_getD {s : Option String} (hs : Text.Filled s) :
    ((s.map Json.str).getD .null).text? = s := by
  cases s with
  | none => rfl
  | some s =>
      have hempty : s.isEmpty = false := by
        rw [← Bool.not_eq_true, String.isEmpty_iff]
        exact fun h => hs (h ▸ rfl)
      simp [text?, hempty]

theorem getD_text?_str {s default : String} (h : s = "" → default = "") :
    (Json.str s).text?.getD default = s := by
  by_cases hs : s = ""
  · simp [text?, hs, h hs]
  · simp [text?, hs]

theorem map_objects_arr {f : α → Fields} {read : Fields → α} {l : List α}
    (hread : ∀ a ∈ l, read (f a) = a) :
    (Json.arr (l.map fun a => .obj (f a))).objects.map read = l := by
  have hobjects : (Json.arr (l.map fun a => .obj (f a))).objects = l.map f := by
    simp [objects, items, List.filterMap_map, Function.comp_def, fields?]
  rw [hobjects, List.map_map, List.map_congr_left (f := read ∘ f) (g := id) hread, List.map_id]

theorem Fields.describe_map {name : α → String} {f : α → Fields}
    {read : String → Fields → α} {l : List α} (hread : ∀ a ∈ l, read (name a) (f a) = a) :
    Fields.describe read (l.map fun a => (name a, .obj (f a))) = l := by
  have hdescribe : Fields.describe read (l.map fun a => (name a, .obj (f a))) =
      l.map fun a => read (name a) (f a) := by
    rw [describe, List.filterMap_map, ← List.filterMap_eq_map]
    rfl
  rw [hdescribe, List.map_congr_left (g := id) hread, List.map_id]

end Json

/-! ## Types -/

namespace PropType

mutual

theorem ofJson?_toJson : ∀ {t : PropType}, t.WellFormed → ofJson? t.toJson = some t
  | .simple name, _ => by
      have hname : (Json.str name).text?.getD "" = name := Json.getD_text?_str fun _ => rfl
      simp [toJson, ofJson?, unionMembers, Json.Fields.get, Json.Fields.get?, hname]
  | .union members, h => by
      obtain ⟨hne, hmembers⟩ : members ≠ [] ∧ ∀ t ∈ members, t.WellFormed := by
        cases h with
        | union hne hmembers => exact ⟨hne, hmembers⟩
      have hread : unionMembers [("name", Json.str "union"),
          ("elements", .arr (membersToJson members))] = members := by
        simp [unionMembers, membersOf, listed_membersToJson members hmembers]
      -- only a union that has a first member is read as one
      obtain ⟨first, rest, rfl⟩ := List.exists_cons_of_ne_nil hne
      rw [toJson, ofJson?, hread]
      rfl

theorem listed_membersToJson : ∀ (members : List PropType), (∀ t ∈ members, t.WellFormed) →
    listed (membersToJson members) = members
  | [], _ => by rw [membersToJson, listed]
  | t :: rest, h => by
      rw [membersToJson, listed, ofJson?_toJson (h t (List.mem_cons_self ..)), Option.getD_some,
        listed_membersToJson rest fun t ht => h t (List.mem_cons_of_mem _ ht)]

end

end PropType

/-! ## The parts of a document -/

theorem Example.ofFields_toFields {e : Example} (h : Text.Filled e.title) :
    Example.ofFields e.toFields = e := by
  simp [Example.ofFields, toFields, Json.Fields.text?, Json.Fields.get_present, Json.text?_getD h,
    Json.getD_text?_str, List.lookup_cons]

theorem Property.ofFields_toFields {p : Property} (h : p.WellFormed) :
    Property.ofFields p.name p.toFields = p := by
  have htype : PropType.ofJson? ((p.type.map PropType.toJson).getD .null) = p.type := by
    cases ht : p.type with
    | none => rfl
    | some t => exact PropType.ofJson?_toJson (h.type t ht)
  have hdefault : (((p.defaultValue.map fun s => Json.obj [("value", .str s)]).getD
      .null).fields.get "value").text? = p.defaultValue := by
    cases hs : p.defaultValue with
    | none => rfl
    | some s => exact Json.text?_getD (hs ▸ h.defaultValue)
  simp [Property.ofFields, toFields, Json.Fields.text?, Json.Fields.get_present,
    Json.text?_getD h.description, Json.getD_text?_str, List.lookup_cons, htype, hdefault]

theorem Slot.ofFields_toFields {s : Slot} (h : Text.Filled s.description) :
    Slot.ofFields s.name s.toFields = s := by
  simp [Slot.ofFields, toFields, Json.Fields.text?, Json.Fields.get_present, Json.text?_getD h,
    Json.getD_text?_str, List.lookup_cons]

theorem Tag.ofFields_toFields {t : Tag} (h : Text.Filled t.description) :
    Tag.ofFields t.toFields = t := by
  simp [Tag.ofFields, toFields, Json.Fields.text?, Json.Fields.get_present, Json.text?_getD h,
    Json.getD_text?_str, List.lookup_cons]

theorem Member.ofFields_toFields {m : Member} (h : m.WellFormed) :
    Member.ofFields m.toFields = m := by
  have htags := Json.map_objects_arr fun t ht => Tag.ofFields_toFields (h.tags t ht)
  simp [Member.ofFields, toFields, Json.Fields.text?, Json.Fields.get_present,
    Json.text?_getD h.description, Json.getD_text?_str, List.lookup_cons, h.name, htags]

theorem Parameter.ofFields_toFields {p : Parameter} (h : p.WellFormed) :
    Parameter.ofFields p.toFields = p := by
  have hnames : (Json.arr (p.typeNames.map Json.str)).items.filterMap typeName? = p.typeNames := by
    simp [Json.items, List.filterMap_map, Function.comp_def, typeName?]
  simp [Parameter.ofFields, toFields, Json.Fields.text?, Json.Fields.get_present,
    Json.text?_getD h.name, Json.text?_getD h.description, List.lookup_cons,
    Json.fields, Json.Fields.get_singleton, hnames]

theorem Event.ofFields_toFields {e : Event} (h : e.WellFormed) :
    Event.ofFields e.toFields = e := by
  have hparameters :=
    Json.map_objects_arr fun p hp => Parameter.ofFields_toFields (h.parameters p hp)
  simp [Event.ofFields, toFields, Json.Fields.text?, Json.Fields.get_present,
    Json.text?_getD h.name, Json.text?_getD h.description, List.lookup_cons, hparameters]

/-! ## The document -/

namespace Document

/-- A well-formed document is what its report describes. -/
theorem ofJson_toJson {d : Document} (hd : d.WellFormed) : Document.ofJson d.toJson = .ok d := by
  have hexamples := Json.map_objects_arr fun e he => Example.ofFields_toFields (hd.examples e he)
  have hproperties : Keyed.ofList Property.name (Json.Fields.describe Property.ofFields
      (d.properties.map fun p => (p.name, .obj p.toFields))) = d.properties := by
    rw [Json.Fields.describe_map fun p hp => Property.ofFields_toFields (hd.properties p hp),
      Keyed.ofList_of_nodup _ hd.propertyNames]
  have hslots : Keyed.ofList Slot.name (Json.Fields.describe Slot.ofFields
      (d.slots.map fun s => (s.name, .obj s.toFields))) = d.slots := by
    rw [Json.Fields.describe_map fun s hs => Slot.ofFields_toFields (hd.slots s hs),
      Keyed.ofList_of_nodup _ hd.slotNames]
  have hmembers := Json.map_objects_arr fun m hm => Member.ofFields_toFields (hd.members m hm)
  have hevents := Json.map_objects_arr fun e he => Event.ofFields_toFields (hd.events e he)
  have hread : Document.ofFields d.toFields = d := by
    simp [Document.ofFields, toFields, Json.Fields.text?, Json.Fields.get_present,
      Json.text?_getD hd.displayName, Json.text?_getD hd.description, List.lookup_cons,
      Json.fields, Json.Fields.get_singleton, hexamples, hproperties, hslots, hmembers, hevents]
  rw [toJson, ofJson, hread]

/-- Unions in unions, a type that is only called a union, a property without a name and an
example without content. -/
def unusual : Document where
  examples := [⟨"", some "Empty"⟩]
  properties :=
    [⟨"", some (.union [.simple "union", .union [.simple "", .simple "string"]]), none, none⟩]
  members := [⟨"-", [⟨"", none⟩], none⟩]
  events := [⟨some "input", none, [⟨none, ["", "string"], none⟩]⟩]

theorem wellFormed_unusual : unusual.WellFormed where
  displayName := nofun
  description := nofun
  examples := by simp [unusual, Text.Filled]
  properties p hp := by
    obtain rfl := List.mem_singleton.mp hp
    refine ⟨fun t ht => ?_, nofun, nofun⟩
    obtain rfl := Option.some.inj ht
    have hinner : (PropType.union [.simple "", .simple "string"]).WellFormed :=
      .union (List.cons_ne_nil _ _) (by simp [PropType.WellFormed.simple])
    exact .union (List.cons_ne_nil _ _) (by simp [PropType.WellFormed.simple, hinner])
  propertyNames := by simp [unusual]
  slots := nofun
  slotNames := by simp [unusual]
  members m hm := by
    obtain rfl := List.mem_singleton.mp hm
    exact ⟨by simp, by simp [Text.Filled], nofun⟩
  events e he := by
    obtain rfl := List.mem_singleton.mp he
    refine ⟨by simp [Text.Filled], nofun, fun p hp => ?_⟩
    obtain rfl := List.mem_singleton.mp hp
    exact ⟨nofun, nofun⟩

theorem ofJson_toJson_unusual :
    unusual.WellFormed ∧ Document.ofJson unusual.toJson = .ok unusual :=
  ⟨wellFormed_unusual, ofJson_toJson wellFormed_unusual⟩

end Document

end ComponentReference
