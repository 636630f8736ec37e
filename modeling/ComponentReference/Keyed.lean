import ComponentReference.Number.Standard

/-!
# Keyed lists

A list of entries that carry their own keys, in the order in which the keys
first came up.  `Keyed.put` is how such a list grows: an entry under a new key
goes to the end, an entry under a known key takes the place of the old one.
-/

namespace ComponentReference.Keyed

variable {α κ : Type} [DecidableEq κ]

/-- The list with `a` entered under its key. -/
def put (key : α → κ) (a : α) : List α → List α
  | [] => [a]
  | b :: rest => if key b = key a then a :: rest else b :: put key a rest

/-- The keyed list that the entries make up, entered one after the other. -/
def ofList (key : α → κ) (entries : List α) : List α :=
  entries.foldl (fun kept a => put key a kept) []

/-- An entry under a new key goes to the end. -/
theorem put_of_not_mem (key : α → κ) {a : α} {l : List α} (h : key a ∉ l.map key) :
    put key a l = l ++ [a] := by
  induction l with
  | nil => rfl
  | cons b rest ih =>
    rw [List.map_cons, List.mem_cons, not_or] at h
    rw [put, if_neg fun heq => h.1 heq.symm, ih h.2, List.cons_append]

/-- The keys after an entry: the old ones, and the new one at the end unless it
was there. -/
theorem map_put (key : α → κ) (a : α) (l : List α) :
    (put key a l).map key = if key a ∈ l.map key then l.map key else l.map key ++ [key a] := by
  induction l with
  | nil => simp [put]
  | cons b rest ih =>
    by_cases h : key b = key a
    · simp [put, h]
    · have h' : key a ≠ key b := fun e => h e.symm
      by_cases hmem : key a ∈ rest.map key <;> simp_all [put]

theorem nodup_put (key : α → κ) (a : α) {l : List α} (h : (l.map key).Nodup) :
    ((put key a l).map key).Nodup := by
  rw [map_put]
  split
  · exact h
  · next hmem =>
    rw [List.nodup_append]
    refine ⟨h, by simp, ?_⟩
    intro x hx y hy
    rintro rfl
    rw [List.mem_singleton] at hy
    exact hmem (hy ▸ hx)

theorem mem_of_mem_put (key : α → κ) {a x : α} {l : List α} (h : x ∈ put key a l) :
    x = a ∨ x ∈ l := by
  induction l with
  | nil => simpa [put] using h
  | cons b rest ih =>
    rw [put] at h
    split at h <;> rcases List.mem_cons.mp h with h | h
    · exact .inl h
    · exact .inr (List.mem_cons_of_mem _ h)
    · exact .inr (h ▸ List.mem_cons_self ..)
    · exact (ih h).imp_right (List.mem_cons_of_mem _)

theorem mem_of_mem_ofList (key : α → κ) {x : α} {entries : List α}
    (h : x ∈ ofList key entries) : x ∈ entries := by
  have hkept : ∀ (entries kept : List α),
      x ∈ entries.foldl (fun kept a => put key a kept) kept → x ∈ kept ∨ x ∈ entries := by
    intro entries
    induction entries with
    | nil => exact fun kept hmem => .inl hmem
    | cons a rest ih =>
      intro kept hmem
      rcases ih _ hmem with hput | hrest
      · rcases mem_of_mem_put key hput with rfl | hold
        · exact .inr (List.mem_cons_self ..)
        · exact .inl hold
      · exact .inr (List.mem_cons_of_mem a hrest)
  exact (hkept entries [] h).resolve_left List.not_mem_nil

/-- No two entries have the same key. -/
theorem nodup_ofList (key : α → κ) (entries : List α) : ((ofList key entries).map key).Nodup := by
  have hkept : ∀ (entries kept : List α), (kept.map key).Nodup →
      ((entries.foldl (fun kept a => put key a kept) kept).map key).Nodup := by
    intro entries
    induction entries with
    | nil => exact fun kept hkept => hkept
    | cons a rest ih => exact fun kept hkept => ih _ (nodup_put key a hkept)
  exact hkept entries [] List.nodup_nil

/-- Entries whose keys differ make up a keyed list as they are. -/
theorem ofList_of_nodup (key : α → κ) {entries : List α} (h : (entries.map key).Nodup) :
    ofList key entries = entries := by
  have hkept : ∀ (rest kept : List α), ((kept ++ rest).map key).Nodup →
      rest.foldl (fun kept a => put key a kept) kept = kept ++ rest := by
    intro rest
    induction rest with
    | nil => exact fun kept _ => (List.append_nil kept).symm
    | cons a rest ih =>
      intro kept hkept
      have hnew : key a ∉ kept.map key := by
        rw [List.map_append, List.map_cons] at hkept
        exact fun hmem => (List.nodup_append.mp hkept).2.2 _ hmem _ (List.mem_cons_self ..) rfl
      rw [List.foldl_cons, put_of_not_mem key hnew, ih _ (by simpa using hkept)]
      simp
  exact hkept entries [] h

/-! ## Keys that stand beside the entries -/

theorem put_pair (key : α → κ) (a : α) (l : List α) :
    put Prod.fst (key a, a) (l.map fun b => (key b, b)) =
      (put key a l).map fun b => (key b, b) := by
  induction l with
  | nil => rfl
  | cons b rest ih =>
    by_cases h : key b = key a
    · simp [put, h]
    · simp [put, h, ih]

/-- It does not matter whether the key of an entry is told by the entry or stands beside it. -/
theorem ofList_pairs (key : α → κ) (entries : List α) :
    ofList Prod.fst (entries.map fun a => (key a, a)) =
      (ofList key entries).map fun a => (key a, a) := by
  have hkept : ∀ (entries kept : List α),
      (entries.map fun a => (key a, a)).foldl (fun kept p => put Prod.fst p kept)
          (kept.map fun a => (key a, a)) =
        (entries.foldl (fun kept a => put key a kept) kept).map fun a => (key a, a) := by
    intro entries
    induction entries with
    | nil => exact fun _ => rfl
    | cons a rest ih =>
      intro kept
      rw [List.map_cons, List.foldl_cons, List.foldl_cons, put_pair, ih]
  exact hkept entries []

/-- What is found under a key once a value has been entered under `k`. -/
theorem lookup_put [BEq κ] [LawfulBEq κ] {β : Type} (k l : κ) (b : β) (pairs : List (κ × β)) :
    (put Prod.fst (k, b) pairs).lookup l = if l = k then some b else pairs.lookup l := by
  induction pairs with
  | nil =>
    by_cases h : l = k
    · simp [put, h]
    · simp [put, List.lookup_cons, h, beq_eq_false_iff_ne.2 h]
  | cons pair rest ih =>
    obtain ⟨k', b'⟩ := pair
    by_cases hk : k' = k
    · subst hk
      by_cases h : l = k'
      · simp [put, h]
      · simp [put, List.lookup_cons, h, beq_eq_false_iff_ne.2 h]
    · by_cases h : l = k'
      · simp [put, hk, h]
      · simp [put, List.lookup_cons, hk, beq_eq_false_iff_ne.2 h, ih]

end ComponentReference.Keyed
