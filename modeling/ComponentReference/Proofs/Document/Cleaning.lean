import ComponentReference.Proofs.Page.TypeText

/-!
# What a report says beside the document

A report may hold more than a document is made of: keys that nobody knows, and values of
another kind than the one that is looked for.  None of it has an influence on the document.
Cleaning takes all of it away, at every level, and the document stays the same; in
particular nothing is renamed, moved or dropped because something beside it was taken away.

## Strategy

`Shape` is a language for what is looked for at some place of a report, and
`Document.known` says it for the report as a whole.  Cleaning goes by the shape alone.  Each
shape is read in one way, so for each there is one lemma on how a clean value is read
(`text?_clean`, `fields_clean`, `objects_clean`, `describe_clean`); a document is put together
from such readings.  Types are a matter of their own, for unions lie in unions: here the
proof is an induction along the function that cleans them (`PropType.ofJson_cleanType`).
-/

namespace ComponentReference

/-! ## Values that are looked for -/

namespace Json

/-- The value, if it is a string, a number or a truth value. -/
def scalar? : Json → Option Json
  | .null | .arr _ | .obj _ => none
  | j => some j

/-- The value, if it is a scalar other than the empty string. -/
def filled? (j : Json) : Option Json :=
  if j.str? = some "" then none else j.scalar?

/-- The fields without the keys that are not wanted, and with another value under the others:
`want` tells by the key and its value. -/
def Fields.revise (want : String → Json → Option Json) (fields : Fields) : Fields :=
  fields.filterMap fun field => (want field.1 (fields.get field.1)).map (Prod.mk field.1)

/-- The type without anything but names and elements.  An element of a union that is no object
makes room for one without a name. -/
def cleanType (inUnion : Bool) : Json → Json
  | .obj fields =>
    let isUnion : Bool := (Fields.get fields "name").str? = some "union"
    let elements := (Fields.get fields "elements").items.attach.map fun e =>
      e.1.cleanType isUnion
    .obj (Fields.revise (fun key j =>
      match key, j with
      | "name", j => j.filled?
      | "elements", .arr _ => some (.arr elements)
      | _, _ => none) fields)
  | j => if inUnion then .obj [] else j
termination_by j => sizeOf j
decreasing_by exact sizeOf_lt_obj e.2

end Json

/-- What is looked for at a place of a report. -/
inductive Shape where
  /-- A scalar other than the empty string. -/
  | text
  /-- Any scalar. -/
  | word
  /-- An object that describes a type. -/
  | type
  /-- A list of such items. -/
  | list (item : Shape)
  /-- An object with such values under the keys that are known. -/
  | object (known : List (String × Shape))
  /-- An object with such values under any keys. -/
  | mapping (entry : Shape)

namespace Shape

mutual

/-- The value with nothing in it that is not looked for, if it is of the kind itself. -/
@[simp] def clean : Shape → Json → Option Json
  | .text, j => j.filled?
  | .word, j => j.scalar?
  | .type, .obj fields => some (Json.cleanType false (.obj fields))
  | .list item, .arr items => some (.arr (items.filterMap (clean item)))
  | .object known, .obj fields => some (.obj (Json.Fields.revise (cleanAt known) fields))
  | .mapping entry, .obj fields =>
    some (.obj (fields.filterMap fun field => (clean entry field.2).map (Prod.mk field.1)))
  | _, _ => none

/-- The value under a key with nothing in it that is not looked for there. -/
@[simp] def cleanAt : List (String × Shape) → String → Json → Option Json
  | [], _, _ => none
  | (k, s) :: rest, key, j => if key = k then clean s j else cleanAt rest key j

end

end Shape

/-- The fields with nothing in them that is not looked for. -/
def Json.Fields.clean (known : List (String × Shape)) (fields : Json.Fields) : Json.Fields :=
  fields.revise (Shape.cleanAt known)

/-! ## What is looked for in a report -/

def Parameter.known : List (String × Shape) :=
  [("name", .text), ("type", .object [("names", .list .word)]), ("description", .text)]

def Event.known : List (String × Shape) :=
  [("name", .text), ("description", .text), ("properties", .list (.object Parameter.known))]

def Tag.known : List (String × Shape) :=
  [("title", .text), ("description", .text)]

def Member.known : List (String × Shape) :=
  [("name", .text), ("tags", .list (.object Tag.known)), ("description", .text)]

def Example.known : List (String × Shape) :=
  [("content", .text), ("title", .text)]

def Property.known : List (String × Shape) :=
  [("name", .text), ("type", .type), ("defaultValue", .object [("value", .text)]),
    ("description", .text)]

def Slot.known : List (String × Shape) :=
  [("name", .text), ("description", .text)]

def Document.known : List (String × Shape) :=
  [("displayName", .text), ("description", .text),
    ("tags", .object [("examples", .list (.object Example.known))]),
    ("props", .mapping (.object Property.known)),
    ("slots", .mapping (.object Slot.known)),
    ("expose", .list (.object Member.known)),
    ("events", .list (.object Event.known))]

/-! ## Reading what is clean -/

namespace Json

theorem text?_getD_filled? (j : Json) : (j.filled?.getD .null).text? = j.text? := by
  cases j with
  | str s =>
      by_cases hs : s = ""
      · subst hs
        rfl
      · simp [filled?, str?, scalar?, hs]
  | _ => rfl

theorem str?_getD_filled? (j : Json) :
    (j.filled?.getD .null).str? = some "union" ↔ j.str? = some "union" := by
  cases j with
  | str s =>
      by_cases hs : s = ""
      · subst hs
        decide
      · simp [filled?, str?, scalar?, hs]
  | _ => exact Iff.rfl

namespace Fields

theorem get_revise (want : String → Json → Option Json) (fields : Fields) {key : String}
    (hnull : want key .null = none) :
    (fields.revise want).get key = (want key (fields.get key)).getD .null := by
  have hlookup : ∀ rest : Fields, (rest.filterMap fun field =>
        (want field.1 (fields.get field.1)).map (Prod.mk field.1)).lookup key =
      (rest.lookup key).bind fun _ => want key (fields.get key) := by
    intro rest
    induction rest with
    | nil => rfl
    | cons field rest ih =>
        obtain ⟨k, v⟩ := field
        by_cases hkey : key = k
        · subst hkey
          cases hwant : want key (fields.get key) with
          | none => simp [hwant, ih]
          | some j => simp [hwant]
        · have hbeq : (key == k) = false := beq_eq_false_iff_ne.mpr hkey
          cases hwant : want k (fields.get k) <;> simp [hwant, List.lookup_cons, hbeq, ih]
  have hget := hlookup fields
  rw [get, get?, revise, hget]
  cases hthere : fields.lookup key with
  | none => simp [get, get?, hthere, hnull]
  | some v => rfl

end Fields

end Json

namespace Shape

theorem clean_null (s : Shape) : s.clean .null = none := by
  cases s <;> simp [Json.filled?, Json.str?, Json.scalar?]

theorem cleanAt_eq {known : List (String × Shape)} {key : String} (j : Json) :
    cleanAt known key j = (known.lookup key).bind fun s => s.clean j := by
  induction known with
  | nil => rfl
  | cons entry rest ih =>
      obtain ⟨k, s⟩ := entry
      rw [cleanAt, List.lookup_cons]
      by_cases hkey : key = k
      · simp [hkey]
      · simp [hkey, beq_eq_false_iff_ne.mpr hkey, ih]

end Shape

namespace Json.Fields

/-- A key of a clean object has the clean value. -/
theorem get_clean {known : List (String × Shape)} {key : String} {s : Shape}
    (h : known.lookup key = some s) (fields : Fields) :
    (fields.clean known).get key = (s.clean (fields.get key)).getD .null := by
  have hclean : ∀ j, Shape.cleanAt known key j = s.clean j := fun j => by
    rw [Shape.cleanAt_eq, h, Option.bind_some]
  rw [clean, get_revise _ _ ((hclean _).trans s.clean_null), hclean]

section Reading

variable {known inner : List (String × Shape)} {key : String} (fields : Fields)

theorem text?_clean (h : known.lookup key = some .text) :
    (fields.clean known).text? key = fields.text? key := by
  rw [text?, get_clean h, Shape.clean, text?_getD_filled?]
  rfl

/-- An object in a clean object is clean. -/
theorem fields_clean (h : known.lookup key = some (.object inner)) :
    ((fields.clean known).get key).fields = (fields.get key).fields.clean inner := by
  rw [get_clean h]
  cases fields.get key <;> simp [Json.fields, clean, revise]

/-- The objects in a list of a clean object are clean. -/
theorem objects_clean (h : known.lookup key = some (.list (.object inner))) :
    ((fields.clean known).get key).objects = (fields.get key).objects.map (clean inner) := by
  rw [get_clean h]
  cases fields.get key with
  | arr items =>
      simp only [Shape.clean, Option.getD_some, objects, Json.items, List.filterMap_filterMap,
        List.map_filterMap]
      refine List.filterMap_congr fun j _ => ?_
      cases j <;> simp [fields?, clean]
  | _ => simp [objects, Json.items]

/-- The items of a list of words that are read are the same. -/
theorem typeNames_clean (h : known.lookup key = some (.list .word)) :
    ((fields.clean known).get key).items.filterMap Parameter.typeName? =
      (fields.get key).items.filterMap Parameter.typeName? := by
  rw [get_clean h]
  cases fields.get key with
  | arr items =>
      simp only [Shape.clean, Option.getD_some, Json.items, List.filterMap_filterMap]
      refine List.filterMap_congr fun j _ => ?_
      cases j <;> simp [scalar?, Parameter.typeName?]
  | _ => simp [Json.items]

/-- The objects in a mapping of a clean object are clean, and stand under the same keys. -/
theorem describe_clean {α : Type} (h : known.lookup key = some (.mapping (.object inner)))
    (read : String → Fields → α) :
    ((fields.clean known).get key).fields.describe read =
      (fields.get key).fields.describe fun k entry => read k (entry.clean inner) := by
  rw [get_clean h]
  cases fields.get key with
  | obj entries =>
      simp only [Shape.clean, Option.getD_some, Json.fields, describe, List.filterMap_filterMap]
      refine List.filterMap_congr fun entry _ => ?_
      obtain ⟨k, j⟩ := entry
      cases j <;> simp [fields?, clean]
  | _ => simp [Json.fields, describe]

end Reading

end Json.Fields

/-! ## Types -/

/-- An object stays one, with a clean name and clean elements. -/
theorem Json.cleanType_obj (inUnion : Bool) (fields : Fields) :
    ∃ fields', (obj fields).cleanType inUnion = .obj fields' ∧
      Fields.get fields' "name" = (Fields.get fields "name").filled?.getD .null ∧
      (Fields.get fields' "elements").items = (Fields.get fields "elements").items.map
        (cleanType ((Fields.get fields "name").str? = some "union")) := by
  refine ⟨_, by rw [cleanType], Fields.get_revise _ _ rfl, ?_⟩
  rw [Fields.get_revise _ _ rfl]
  split
  · next hkey => exact absurd hkey (by decide)
  · next hitems =>
      rw [Option.getD_some, hitems, items, items, List.map_subtype fun _ _ => rfl,
        List.unattach_attach]
  · next hname hitems =>
      cases hvalue : Fields.get fields "elements" with
      | arr items => exact absurd hvalue (hitems items rfl)
      | _ => rfl

namespace PropType

theorem ofJson_of_not_obj {j : Json} (h : ∀ fields, j ≠ .obj fields) : ofJson j = .simple "" := by
  cases j with
  | obj fields => exact absurd rfl (h fields)
  | _ => rw [ofJson, ofJson?, Option.getD_none]; exact h

/-- A type and the clean one are the same. -/
theorem ofJson_cleanType (inUnion : Bool) (j : Json) :
    ofJson (j.cleanType inUnion) = ofJson j := by
  induction inUnion, j using Json.cleanType.induct with
  | case1 inUnion fields isUnion ih =>
      obtain ⟨fields', hclean, hname, helements⟩ := Json.cleanType_obj inUnion fields
      have htypes : (Json.Fields.get fields' "elements").items.map ofJson =
          (Json.Fields.get fields "elements").items.map ofJson := by
        rw [helements, List.map_map]
        exact List.map_congr_left fun e he => ih ⟨e, he⟩
      rw [hclean, ofJson_obj, ofJson_obj, hname, htypes, helements, Json.text?_getD_filled?]
      simp only [Json.str?_getD_filled?, ne_eq, List.map_eq_nil_iff]
  | case2 j hobj =>
      -- what describes no type counts as one without a name, and so does the empty object
      rw [Json.cleanType, if_pos rfl, ofJson_of_not_obj hobj]
      · rfl
      · exact hobj
  | case3 inUnion j hobj hnot =>
      rw [Json.cleanType, if_neg hnot]
      exact hobj

theorem ofJson?_obj (fields : Json.Fields) :
    ofJson? (.obj fields) = some (ofJson (.obj fields)) := by
  rw [ofJson]
  rw [ofJson?]
  split <;> rfl

theorem ofJson?_clean {known : List (String × Shape)} {key : String}
    (h : known.lookup key = some .type) (fields : Json.Fields) :
    ofJson? ((fields.clean known).get key) = ofJson? (fields.get key) := by
  rw [Json.Fields.get_clean h]
  cases fields.get key with
  | obj inner =>
      obtain ⟨inner', hclean, -, -⟩ := Json.cleanType_obj false inner
      rw [Shape.clean, Option.getD_some, hclean, ofJson?_obj, ofJson?_obj, ← hclean,
        ofJson_cleanType]
  | _ => rfl

end PropType

/-! ## Documents -/

section Parts

variable (fields : Json.Fields)

theorem Parameter.ofFields_clean : ofFields (fields.clean known) = ofFields fields := by
  have htype : ((fields.clean known).get "type").fields = _ := fields.fields_clean rfl
  rw [ofFields, htype, Json.Fields.typeNames_clean _ rfl, fields.text?_clean rfl,
    fields.text?_clean rfl]
  rfl

theorem Event.ofFields_clean : ofFields (fields.clean known) = ofFields fields := by
  have hproperties : ((fields.clean known).get "properties").objects = _ :=
    fields.objects_clean rfl
  rw [ofFields, hproperties, List.map_map, fields.text?_clean rfl, fields.text?_clean rfl]
  simp only [Function.comp_def, Parameter.ofFields_clean]
  rfl

theorem Tag.ofFields_clean : ofFields (fields.clean known) = ofFields fields := by
  rw [ofFields, fields.text?_clean rfl, fields.text?_clean rfl]
  rfl

theorem Member.ofFields_clean : ofFields (fields.clean known) = ofFields fields := by
  have htags : ((fields.clean known).get "tags").objects = _ := fields.objects_clean rfl
  rw [ofFields, htags, List.map_map, fields.text?_clean rfl, fields.text?_clean rfl]
  simp only [Function.comp_def, Tag.ofFields_clean]
  rfl

theorem Example.ofFields_clean : ofFields (fields.clean known) = ofFields fields := by
  rw [ofFields, fields.text?_clean rfl, fields.text?_clean rfl]
  rfl

theorem Property.ofFields_clean (key : String) :
    ofFields key (fields.clean known) = ofFields key fields := by
  have hdefault : ((fields.clean known).get "defaultValue").fields = _ := fields.fields_clean rfl
  rw [ofFields, PropType.ofJson?_clean rfl, hdefault, fields.text?_clean rfl,
    fields.text?_clean rfl, Json.Fields.text?_clean _ rfl]
  rfl

theorem Slot.ofFields_clean (key : String) :
    ofFields key (fields.clean known) = ofFields key fields := by
  rw [ofFields, fields.text?_clean rfl, fields.text?_clean rfl]
  rfl

end Parts

/-- Nothing that is not looked for has an influence on the document: the clean report describes
the same one. -/
theorem Document.ofJson_clean (fields : Json.Fields) :
    Document.ofJson (.obj (fields.clean Document.known)) = Document.ofJson (.obj fields) := by
  have htags : ((fields.clean known).get "tags").fields = _ := fields.fields_clean rfl
  have hexamples (inner : Json.Fields) :
      ((inner.clean [("examples", .list (.object Example.known))]).get "examples").objects = _ :=
    inner.objects_clean rfl
  have hprops : ((fields.clean known).get "props").fields.describe Property.ofFields = _ :=
    fields.describe_clean rfl _
  have hslots : ((fields.clean known).get "slots").fields.describe Slot.ofFields = _ :=
    fields.describe_clean rfl _
  have hexpose : ((fields.clean known).get "expose").objects = _ := fields.objects_clean rfl
  have hevents : ((fields.clean known).get "events").objects = _ := fields.objects_clean rfl
  rw [ofJson, ofJson, ofFields, ofFields, htags, hexamples, hprops, hslots, hexpose, hevents,
    fields.text?_clean rfl, fields.text?_clean rfl]
  simp only [List.map_map, Function.comp_def, Example.ofFields_clean, Property.ofFields_clean,
    Slot.ofFields_clean, Member.ofFields_clean, Event.ofFields_clean]

example : Json.Fields.clean Document.known
      [("displayName", .str "A"), ("version", .int 3), ("description", .arr []),
        ("slots", .obj [("a", .null), ("b", .obj [("name", .str ""), ("scoped", .bool true)])])] =
    [("displayName", .str "A"), ("slots", .obj [("b", .obj [])])] := by
  rfl

end ComponentReference
