import ComponentReference.Proofs.Document.WellFormed
import Mathlib.Data.List.Basic
import Mathlib.Data.List.Induction

/-!
# Several entries under one name

A report may describe several properties, or several slots, of one name: an object may have
a name of its own beside the key that it stands under, and that name may come up anywhere
else.  Then the last one counts, and it stands where the first one stood.  Nothing of the
others is left, and no name is lost or changes its place.

## Strategy

What is left of a list of candidates is told by `Keyed.LastOfEach`, which looks at the
candidates alone.  A keyed list grows by one entry at a time, so the proof is an induction
over the candidates from their end: one more of them either takes the place of the entry of
its name, or has a new name and goes to the end (`LastOfEach.put`).
-/

namespace ComponentReference

/-! ## The last of each name -/

namespace Keyed

variable {α γ κ : Type} [DecidableEq κ]

/-- The entries are made of the candidates, one for each name. -/
structure LastOfEach (name : γ → κ) (read : γ → α) (key : α → κ) (candidates : List γ)
    (entries : List α) : Prop where
  /-- The entries stand in the order in which their names first come up, so no two of them
  have one name. -/
  order : (entries.map key).Pairwise fun k l =>
    (candidates.map name).idxOf k < (candidates.map name).idxOf l
  names : ∀ k, k ∈ entries.map key ↔ k ∈ candidates.map name
  /-- An entry is made of the last candidate of its name. -/
  last : ∀ e ∈ entries, ∃ before c after, candidates = before ++ c :: after ∧ e = read c ∧
    name c = key e ∧ ∀ later ∈ after, name later ≠ key e

theorem ofList_concat (key : α → κ) (entries : List α) (a : α) :
    ofList key (entries ++ [a]) = put key a (ofList key entries) := by
  simp [ofList]

/-- Where keys differ, what is entered drives out what had its key. -/
theorem mem_put (key : α → κ) {a x : α} {l : List α} (hkeys : (l.map key).Nodup) :
    x ∈ put key a l ↔ x = a ∨ x ∈ l ∧ key x ≠ key a := by
  induction l with
  | nil => simp [put]
  | cons b rest ih =>
      obtain ⟨hb, hrest⟩ := List.nodup_cons.mp hkeys
      rw [put]
      split
      · next heq =>
          have hne : ∀ y ∈ rest, key y ≠ key a :=
            fun y hy hya => hb (heq ▸ hya ▸ List.mem_map_of_mem hy)
          grind
      · grind

variable {name : γ → κ} {read : γ → α} {key : α → κ} {candidates : List γ} {entries : List α}

/-- One more candidate. -/
theorem LastOfEach.put (h : LastOfEach name read key candidates entries) {c : γ}
    (hname : key (read c) = name c) :
    LastOfEach name read key (candidates ++ [c]) (Keyed.put key (read c) entries) := by
  have hkeys : (entries.map key).Nodup := h.order.imp fun hlt heq => by simp [heq] at hlt
  have hkept : (entries.map key).Pairwise fun k l =>
      ((candidates ++ [c]).map name).idxOf k < ((candidates ++ [c]).map name).idxOf l := by
    refine h.order.imp_of_mem fun hk hl hlt => ?_
    rw [List.map_append, List.idxOf_append_of_mem ((h.names _).mp hk),
      List.idxOf_append_of_mem ((h.names _).mp hl)]
    exact hlt
  refine ⟨?_, fun k => ?_, fun e he => ?_⟩
  · rw [map_put]
    split
    · exact hkept
    · next hnew =>
        refine List.pairwise_append.mpr ⟨hkept, List.pairwise_singleton .., fun k hk l hl => ?_⟩
        rw [List.mem_singleton.mp hl, hname, List.map_append,
          List.idxOf_append_of_mem ((h.names _).mp hk), List.idxOf_append_of_notMem
            fun hmem => hnew (hname ▸ (h.names _).mpr hmem)]
        exact Nat.lt_add_right _ (List.idxOf_lt_length_of_mem ((h.names _).mp hk))
  · rw [map_put, List.map_append, List.mem_append, ← h.names, List.map_singleton,
      List.mem_singleton, ← hname]
    split
    · next hold => exact ⟨.inl, fun hk => hk.elim id fun heq => heq ▸ hold⟩
    · rw [List.mem_append, List.mem_singleton]
  · rcases (mem_put key hkeys).mp he with rfl | ⟨hold, hne⟩
    · exact ⟨candidates, c, [], rfl, rfl, hname.symm, by simp⟩
    · obtain ⟨before, c', after, hsplit, hread, hc', hlater⟩ := h.last e hold
      refine ⟨before, c', after ++ [c], by simp [hsplit], hread, hc', fun later hmem => ?_⟩
      rcases List.mem_append.mp hmem with hafter | hlast
      · exact hlater later hafter
      · rw [List.mem_singleton.mp hlast, ← hname]
        exact hne.symm

theorem lastOfEach_ofList (hname : ∀ c, key (read c) = name c) (candidates : List γ) :
    LastOfEach name read key candidates (ofList key (candidates.map read)) := by
  induction candidates using List.reverseRecOn with
  | nil => exact ⟨List.Pairwise.nil, by simp [ofList], by simp [ofList]⟩
  | append_singleton before c ih =>
      rw [List.map_append, List.map_singleton, ofList_concat]
      exact ih.put (hname c)

end Keyed

/-! ## Candidates -/

namespace Json.Fields

/-- The entries of the mapping under a key that are objects, each with its own key, in order.
Where there is no mapping there are none. -/
def candidates (fields : Json.Fields) (key : String) : List (String × Json.Fields) :=
  match fields.lookup key with
  | some (.obj entries) =>
    entries.filterMap fun
      | (key, .obj inner) => some (key, inner)
      | _ => none
  | _ => []

/-- The name that a candidate goes by: its own, if that is a string that is not empty, a number
or a truth value, and else the key that it stands under. -/
def effectiveName (candidate : String × Json.Fields) : String :=
  match candidate.2.lookup "name" with
  | some (.str s) => if s = "" then candidate.1 else s
  | some (.int n) => n.repr
  | some (.double x) => Json.numberLayout.text x
  | some (.bool b) => if b then "true" else "false"
  | _ => candidate.1

theorem storedName_eq (key : String) (inner : Json.Fields) :
    storedName key inner = effectiveName (key, inner) := by
  unfold storedName effectiveName Json.Fields.text? get get?
  dsimp only
  rcases inner.lookup "name" with _ | value
  · rfl
  cases value with
  | str s => by_cases hs : s = "" <;> simp [Json.text?, hs]
  | _ => rfl

/-- What objects are read for are the candidates. -/
theorem describe_eq_map {α : Type} (read : String → Json.Fields → α) (fields : Json.Fields)
    (key : String) : (fields.get key).fields.describe read =
      (fields.candidates key).map fun c => read c.1 c.2 := by
  unfold candidates get get?
  rcases fields.lookup key with _ | value
  · rfl
  cases value with
  | obj entries =>
      simp only [Option.getD_some, Json.fields, describe, List.map_filterMap]
      refine List.filterMap_congr ?_
      rintro ⟨k, entry⟩ -
      cases entry <;> rfl
  | _ => rfl

/-- The keyed list of what the objects under a key describe is that of the last of each name, if
all are named as they are stored. -/
theorem lastOfEach_candidates {α : Type} (key : α → String) (read : String → Json.Fields → α)
    (hname : ∀ k inner, key (read k inner) = storedName k inner) (fields : Json.Fields)
    (mapping : String) :
    Keyed.LastOfEach effectiveName (fun c : String × Json.Fields => read c.1 c.2) key
      (fields.candidates mapping)
      (Keyed.ofList key ((fields.get mapping).fields.describe read)) := by
  rw [describe_eq_map]
  refine Keyed.lastOfEach_ofList (fun c => ?_) _
  rw [hname, storedName_eq]

end Json.Fields

/-! ## Properties and slots -/

namespace Document

/-- Of the objects that a report has for properties, and of those that it has for slots, the
last of each name is kept, at the place of the first.  All that a property or slot consists of
comes from that one object. -/
theorem ofJson_last_of_each (fields : Json.Fields) :
    ∃ d, Document.ofJson (.obj fields) = .ok d ∧
      Keyed.LastOfEach Json.Fields.effectiveName
        (fun c : String × Json.Fields =>
          { name := Json.Fields.effectiveName c
            type := PropType.ofJson? (c.2.get "type")
            defaultValue := (c.2.get "defaultValue").fields.text? "value"
            description := c.2.text? "description" })
        Property.name (fields.candidates "props") d.properties ∧
      Keyed.LastOfEach Json.Fields.effectiveName
        (fun c : String × Json.Fields =>
          { name := Json.Fields.effectiveName c
            description := c.2.text? "description" })
        Slot.name (fields.candidates "slots") d.slots := by
  have hproperty : (fun c : String × Json.Fields => Property.ofFields c.1 c.2) = fun c =>
      { name := Json.Fields.effectiveName c
        type := PropType.ofJson? (c.2.get "type")
        defaultValue := (c.2.get "defaultValue").fields.text? "value"
        description := c.2.text? "description" } := by
    funext c
    rw [← Json.Fields.storedName_eq]
    rfl
  have hslot : (fun c : String × Json.Fields => Slot.ofFields c.1 c.2) = fun c =>
      { name := Json.Fields.effectiveName c, description := c.2.text? "description" } := by
    funext c
    rw [← Json.Fields.storedName_eq]
    rfl
  rw [← hproperty, ← hslot]
  refine ⟨.ofFields fields, rfl, ?_, ?_⟩
  · exact Json.Fields.lastOfEach_candidates Property.name Property.ofFields (fun _ _ => rfl) _ _
  · exact Json.Fields.lastOfEach_candidates Slot.name Slot.ofFields (fun _ _ => rfl) _ _

end Document

end ComponentReference
