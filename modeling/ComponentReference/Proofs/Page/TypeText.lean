import ComponentReference.Proofs.Page.Agreement

/-!
# The text of a type in a report

The text that a page shows for a type is made of the names in the report, with the format's
sign between them.  Unions in unions are taken apart into their names, in the order of the
report and without a loss, up to a depth of 32; one that lies deeper is shown as a word.

## Strategy

`Json.leaves` reads the names off the report itself, with no type in between.  A type of its
own is written as its names with a sign between them already (`PropType.textAt_eq`), so what
remains is that the type which is read from a value has the names of the value
(`PropType.leaves_ofJson`).  This is an induction along `Json.leaves`: a union that is read
has elements, one for each in the report, and they lie in the object, so that they are
smaller.
-/

namespace ComponentReference

/-! ## Names in a report -/

/-- What lies in a list of an object is smaller than the object. -/
theorem Json.sizeOf_lt_obj {fields : Json.Fields} {key : String} {j : Json}
    (h : j ∈ (Fields.get fields key).items) : sizeOf j < sizeOf (Json.obj fields) := by
  obtain ⟨items, hget, hj⟩ : ∃ items, fields.lookup key = some (.arr items) ∧ j ∈ items := by
    rw [Fields.get, Fields.get?] at h
    cases hvalue : fields.lookup key with
    | none =>
        rw [hvalue] at h
        cases h
    | some value =>
        rw [hvalue] at h
        cases value with
        | arr items => exact ⟨items, rfl, h⟩
        | _ => cases h
  obtain ⟨before, after, hfields, -⟩ := List.lookup_eq_some_iff.mp hget
  have hitem := List.sizeOf_lt_of_mem hj
  have hfield : sizeOf (key, Json.arr items) < sizeOf fields :=
    List.sizeOf_lt_of_mem (by simp [hfields])
  simp only [Prod.mk.sizeOf_spec, Json.arr.sizeOf_spec] at hfield
  simp only [Json.obj.sizeOf_spec]
  omega

/-- The names of which the type in a value is made up, inside `depth` unions.  An object that is
named as a union and has elements has theirs. -/
def Json.leaves (depth : Nat) : Json → List String
  | .obj fields =>
    if (Fields.get fields "name").str? = some "union" ∧
        (Fields.get fields "elements").items ≠ [] then
      if depth < 32 then
        (Fields.get fields "elements").items.attach.flatMap fun e => e.1.leaves (depth + 1)
      else ["union"]
    else [(Fields.get fields "name").text?.getD ""]
  | .null | .bool _ | .int _ | .double _ | .str _ | .arr _ => [""]
termination_by j => sizeOf j
decreasing_by exact sizeOf_lt_obj e.2

theorem Json.leaves_obj (depth : Nat) (fields : Json.Fields) : (obj fields).leaves depth =
    if (Fields.get fields "name").str? = some "union" ∧
        (Fields.get fields "elements").items ≠ [] then
      if depth < 32 then (Fields.get fields "elements").items.flatMap (leaves (depth + 1))
      else ["union"]
    else [(Fields.get fields "name").text?.getD ""] := by
  rw [leaves, List.flatMap_subtype fun _ _ => rfl, List.unattach_attach]

/-! ## Types that are read -/

namespace PropType

/-- The type that a value describes; what describes none is the type without a name. -/
def ofJson (j : Json) : PropType :=
  (ofJson? j).getD (.simple "")

theorem listed_eq_map (items : List Json) : listed items = items.map ofJson := by
  induction items with
  | nil => rw [listed, List.map_nil]
  | cons j rest ih => rw [listed, List.map_cons, ih, ofJson]

theorem membersOf_eq_map (j : Json) : membersOf j = j.items.map ofJson := by
  cases j with
  | arr items => exact listed_eq_map items
  | _ => simp [membersOf, Json.items]

/-- The members of a union are those that its elements describe. -/
theorem unionMembers_eq_map (fields : Json.Fields) :
    unionMembers fields = (Json.Fields.get fields "elements").items.map ofJson := by
  induction fields with
  | nil => rw [unionMembers]; rfl
  | cons field rest ih =>
      obtain ⟨key, value⟩ := field
      rw [unionMembers, Json.Fields.get, Json.Fields.get?, List.lookup_cons]
      by_cases hkey : key = "elements"
      · rw [if_pos hkey, membersOf_eq_map, hkey]
        rfl
      · have hbeq : ("elements" == key) = false := beq_eq_false_iff_ne.mpr fun h => hkey h.symm
        rw [if_neg hkey, ih, hbeq]
        rfl

theorem leavesOf_eq_flatMap (depth : Nat) (members : List PropType) :
    leavesOf depth members = members.flatMap (leaves depth) := by
  induction members with
  | nil => rw [leavesOf, List.flatMap_nil]
  | cons t rest ih => rw [leavesOf, List.flatMap_cons, ih]

/-- An object describes a union if it is named as one and has elements. -/
theorem ofJson_obj (fields : Json.Fields) : ofJson (.obj fields) =
    if (Json.Fields.get fields "name").str? = some "union" ∧
        (Json.Fields.get fields "elements").items ≠ [] then
      .union ((Json.Fields.get fields "elements").items.map ofJson)
    else .simple ((Json.Fields.get fields "name").text?.getD "") := by
  have hname : (Json.Fields.get fields "name").text? = some "union" ↔
      (Json.Fields.get fields "name").str? = some "union" := by
    rw [Json.text?_eq_union_iff]
    cases Json.Fields.get fields "name" <;> simp [Json.str?]
  rw [ofJson, ofJson?, unionMembers_eq_map]
  split
  · next first rest hunion hmembers =>
      have hne : (Json.Fields.get fields "elements").items ≠ [] := by
        intro hnil
        rw [hnil] at hmembers
        cases hmembers
      rw [if_pos ⟨hname.mp hunion, hne⟩, hmembers]
      rfl
  · next hnot =>
      rw [if_neg]
      · rfl
      rintro ⟨hunion, hne⟩
      obtain ⟨first, rest, hitems⟩ := List.exists_cons_of_ne_nil hne
      exact hnot _ _ (hname.mpr hunion) (by rw [hitems, List.map_cons])

theorem leaves_union {members : List PropType} (hne : members ≠ []) (depth : Nat) :
    (union members).leaves depth =
      if depth < 32 then members.flatMap (leaves (depth + 1)) else ["union"] := by
  obtain ⟨first, rest, rfl⟩ := List.exists_cons_of_ne_nil hne
  rw [leaves, leavesOf_eq_flatMap]
  by_cases hdepth : depth < 32
  · rw [if_neg (show ¬ maxDepth ≤ depth from Nat.not_le.mpr hdepth), if_pos hdepth]
  · rw [if_pos (show maxDepth ≤ depth from Nat.not_lt.mp hdepth), if_neg hdepth]

/-- The type that is read from a value has the names of the value. -/
theorem leaves_ofJson (depth : Nat) (j : Json) : (ofJson j).leaves depth = j.leaves depth := by
  induction depth, j using Json.leaves.induct with
  | case1 depth fields hunion hdepth ih =>
      rw [ofJson_obj, if_pos hunion, leaves_union (by simpa using hunion.2), Json.leaves_obj,
        if_pos hunion, if_pos hdepth, if_pos hdepth, List.flatMap_map]
      exact List.flatMap_congr fun e he => ih ⟨e, he⟩
  | case2 depth fields hunion hdepth =>
      rw [ofJson_obj, if_pos hunion, leaves_union (by simpa using hunion.2), Json.leaves_obj,
        if_pos hunion, if_neg hdepth, if_neg hdepth]
  | case3 depth fields hunion =>
      rw [ofJson_obj, if_neg hunion, Json.leaves_obj, if_neg hunion, leaves]
  | _ =>
      -- no type is read from what is no object, and it counts as one without a name
      rw [Json.leaves]
      rfl

end PropType

/-! ## The text of a type -/

/-- The text of the type that is read from a value is the value's names with the format's sign
for unions between them.  In Markdown that is an escaped pipe, and in HTML a pipe. -/
theorem typeText_eq_leaves (j : Json) :
    (∀ f : Format, f.typeText (PropType.ofJson? j) =
      f.unionSeparator.intercalate (j.leaves 0)) ∧
    Format.markdown.unionSeparator = " \\| " ∧ Format.html.unionSeparator = " | " := by
  refine ⟨fun f => ?_, rfl, rfl⟩
  rw [← PropType.leaves_ofJson, ← PropType.textAt_eq, PropType.ofJson]
  cases PropType.ofJson? j with
  | some t => rfl
  | none => rw [Format.typeText, Option.getD_none, PropType.textAt]

end ComponentReference
