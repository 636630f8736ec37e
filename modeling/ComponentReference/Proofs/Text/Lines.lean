import ComponentReference.Text.Basic
import Mathlib.Data.List.Basic
import Mathlib.Data.List.TakeDrop

/-!
# Lines

A text is split into pieces at the occurrences of a character, and into lines at its line
feeds.  What texts are joined to has the lines of the texts (`lines_intercalate_flatMap`), so
that single lines are the lines of what they are joined to.

What is joined is its first piece and then, for every other one, what is put between and the
piece (`intercalate_cons_eq`).  Pages are joined at several levels, of blocks that are joined of
lines.  All levels can be taken at once, since blocks with an empty line between any two make up
one list of lines (`intercalate_blocks`), and what is looked for in it is found block by block
(`filter_intercalate`).  Where every line is ended by a line feed, pages are put together as
their parts stand (`unlines_append`); joining comes to the same but for the last line
(`intercalate_concat`).
-/

namespace ComponentReference.Text

/-! ## Splitting -/

theorem split_ne_nil (c : Char) (s : List Char) : split c s ≠ [] := by
  cases s with
  | nil => simp [split]
  | cons x rest =>
      rw [split]
      split
      · simp
      · split <;> simp

theorem split_append_cons (c : Char) (s t : List Char) :
    split c (s ++ c :: t) = split c s ++ split c t := by
  induction s with
  | nil => simp [split]
  | cons x rest ih =>
      rw [List.cons_append, split, split]
      by_cases hx : x = c
      · simp [hx, ih]
      · rw [if_neg hx, if_neg hx, ih]
        rcases hrest : split c rest with _ | ⟨piece, pieces⟩
        · exact absurd hrest (split_ne_nil c rest)
        · rfl

theorem split_of_not_mem {c : Char} {s : List Char} (h : c ∉ s) : split c s = [s] := by
  induction s with
  | nil => rfl
  | cons x rest ih =>
      rw [List.mem_cons, not_or] at h
      rw [split, if_neg (Ne.symm h.1), ih h.2]

theorem not_mem_of_mem_split {c : Char} {s piece : List Char} (h : piece ∈ split c s) :
    c ∉ piece := by
  induction s generalizing piece with
  | nil => simp_all [split]
  | cons x rest ih =>
      rw [split] at h
      split at h
      · rcases List.mem_cons.mp h with rfl | h
        · simp
        · exact ih h
      · next hx =>
          rcases hrest : split c rest with _ | ⟨first, pieces⟩
          · exact absurd hrest (split_ne_nil c rest)
          · rw [hrest] at h ih
            rcases List.mem_cons.mp h with rfl | h
            · rw [List.mem_cons, not_or]
              exact ⟨Ne.symm hx, ih (List.mem_cons_self ..)⟩
            · exact ih (List.mem_cons_of_mem _ h)

/-- The first `c` ends what comes before it. -/
theorem span_append_cons {c : Char} {s : List Char} (h : c ∉ s) (t : List Char) :
    (s ++ c :: t).span (· ≠ c) = (s, c :: t) := by
  have hbefore : ∀ x ∈ s, decide (x ≠ c) = true := fun x hx =>
    decide_eq_true fun heq => h (heq ▸ hx)
  rw [List.span_eq_takeWhile_dropWhile, List.takeWhile_append_of_pos hbefore,
    List.dropWhile_append_of_pos hbefore]
  simp

theorem cutAt?_append {c : Char} {before : String} (h : c ∉ before.toList) (after : String) :
    cutAt? c (before ++ String.singleton c ++ after) = some (before, after) := by
  have hlist : (before ++ String.singleton c ++ after).toList =
      before.toList ++ c :: after.toList := by
    simp [String.toList_append]
  rw [cutAt?, hlist, span_append_cons h]
  simp

/-! ## Joining -/

/-- Behind the first piece, every other one comes with what is put between. -/
theorem intercalate_cons_eq {α : Type} (between piece : List α) (more : List (List α)) :
    between.intercalate (piece :: more) = piece ++ more.flatMap (between ++ ·) := by
  induction more generalizing piece with
  | nil => rw [List.intercalate_singleton, List.flatMap_nil, List.append_nil]
  | cons piece' more ih =>
      rw [List.intercalate_cons_cons, ih, List.flatMap_cons, List.append_assoc, List.append_assoc]

theorem mem_of_mem_intercalate {α : Type} {x : α} {between : List α} {pieces : List (List α)}
    (h : x ∈ between.intercalate pieces) : x ∈ between ∨ ∃ piece ∈ pieces, x ∈ piece := by
  cases pieces with
  | nil => cases h
  | cons piece more =>
      rw [intercalate_cons_eq, List.mem_append, List.mem_flatMap] at h
      obtain hpiece | ⟨later, hlater, hmem⟩ := h
      · exact .inr ⟨piece, List.mem_cons_self, hpiece⟩
      · exact (List.mem_append.mp hmem).imp_right fun hmem =>
          ⟨later, List.mem_cons_of_mem _ hlater, hmem⟩

theorem not_mem_intercalate {α : Type} {x : α} {between : List α} {pieces : List (List α)}
    (hbetween : x ∉ between) (h : ∀ piece ∈ pieces, x ∉ piece) :
    x ∉ between.intercalate pieces := by
  intro hmem
  obtain hmem | ⟨piece, hpiece, hmem⟩ := mem_of_mem_intercalate hmem
  · exact hbetween hmem
  · exact h piece hpiece hmem

/-- What is not between the pieces is found in the pieces, one after the other. -/
theorem filter_intercalate {α : Type} {p : α → Bool} {between : List α}
    (hbetween : between.filter p = []) (pieces : List (List α)) :
    (between.intercalate pieces).filter p = pieces.flatMap fun piece => piece.filter p := by
  cases pieces with
  | nil => rfl
  | cons piece more =>
      have hpiece : ∀ piece : List α, (between ++ piece).filter p = piece.filter p := by
        intro piece
        rw [List.filter_append, hbetween, List.nil_append]
      rw [intercalate_cons_eq, List.filter_append, List.filter_flatMap, funext hpiece,
        List.flatMap_cons]

theorem intercalate_ne_nil {α : Type} (between : List α) {piece : List α} (h : piece ≠ [])
    (more : List (List α)) : between.intercalate (piece :: more) ≠ [] := by
  rw [intercalate_cons_eq]
  exact List.append_ne_nil_of_left_ne_nil h _

/-- Blocks of lines, joined with an empty line between any two. -/
theorem intercalate_blocks {blocks : List (List String)} (h : ∀ block ∈ blocks, block ≠ []) :
    "\n\n".intercalate (blocks.map "\n".intercalate) =
      "\n".intercalate ([""].intercalate blocks) := by
  induction blocks with
  | nil => rfl
  | cons block more ih =>
      rw [List.forall_mem_cons] at h
      cases more with
      | nil => simp
      | cons block' more =>
          have hmore : [""].intercalate (block' :: more) ≠ [] :=
            intercalate_ne_nil _ (h.2 _ List.mem_cons_self) _
          rw [List.map_cons, String.intercalate_cons_of_ne_nil (by simp), ih h.2,
            List.intercalate_cons_cons, List.append_assoc,
            String.intercalate_append_of_ne_nil h.1 (by simp), List.singleton_append,
            String.intercalate_cons_of_ne_nil hmore, String.empty_append]
          show _ ++ ("\n" ++ "\n") ++ _ = _
          simp only [String.append_assoc]

/-! ## Lines -/

/-- The text is a single line. -/
def IsLine (s : String) : Prop :=
  '\n' ∉ s.toList

instance (s : String) : Decidable (IsLine s) :=
  inferInstanceAs (Decidable (_ ∉ _))

theorem IsLine.append {s t : String} (hs : IsLine s) (ht : IsLine t) : IsLine (s ++ t) := by
  rw [IsLine, String.toList_append, List.mem_append, not_or]
  exact ⟨hs, ht⟩

theorem IsLine.intercalate {separator : String} {texts : List String}
    (hseparator : IsLine separator) (h : ∀ s ∈ texts, IsLine s) :
    IsLine (separator.intercalate texts) := by
  rw [IsLine, String.toList_intercalate]
  exact not_mem_intercalate hseparator (List.forall_mem_map.mpr h)

theorem IsLine.getD {s? : Option String} {placeholder : String} (hplaceholder : IsLine placeholder)
    (h : ∀ s ∈ s?, IsLine s) : IsLine (s?.getD placeholder) := by
  cases s? with
  | none => exact hplaceholder
  | some s => exact h s rfl

theorem IsLine.presentOr {s? : Option String} {placeholder : String}
    (hplaceholder : IsLine placeholder) (h : ∀ s ∈ s?, IsLine s) :
    IsLine (presentOr placeholder s?) := by
  cases s? with
  | none => exact hplaceholder
  | some s =>
      rw [Text.presentOr]
      split
      · exact hplaceholder
      · exact h s rfl

/-- The lines of a text: the pieces between its line feeds. -/
def lines (s : String) : List String :=
  (split '\n' s.toList).map String.ofList

theorem IsLine.lines_eq {s : String} (h : IsLine s) : lines s = [s] := by
  rw [lines, split_of_not_mem h, List.map_singleton, String.ofList_toList]

theorem lines_append (s t : String) : lines (s ++ "\n" ++ t) = lines s ++ lines t := by
  have hlist : (s ++ "\n" ++ t).toList = s.toList ++ '\n' :: t.toList := by
    simp [String.toList_append]
  rw [lines, hlist, split_append_cons, List.map_append, lines, lines]

/-- What texts are joined to has the lines of the texts, one after the other. -/
theorem lines_intercalate_flatMap {texts : List String} (hne : texts ≠ []) :
    lines ("\n".intercalate texts) = texts.flatMap lines := by
  induction texts with
  | nil => exact absurd rfl hne
  | cons s more ih =>
      rw [List.flatMap_cons]
      cases more with
      | nil => rw [String.intercalate_singleton, List.flatMap_nil, List.append_nil]
      | cons s' more =>
          have hmore : s' :: more ≠ [] := List.cons_ne_nil s' more
          rw [String.intercalate_cons_of_ne_nil hmore, lines_append, ih hmore]

/-- Single lines are the lines of what they are joined to. -/
theorem lines_intercalate {texts : List String} (hne : texts ≠ []) (h : ∀ s ∈ texts, IsLine s) :
    lines ("\n".intercalate texts) = texts := by
  rw [lines_intercalate_flatMap hne, List.flatMap_congr fun s hs => (h s hs).lines_eq,
    List.flatMap_singleton']

/-! ## Lines that are ended -/

/-- Lines, each of them ended by a line feed. -/
def unlines (lines : List String) : String :=
  String.join (lines.map (· ++ "\n"))

@[simp]
theorem unlines_nil : unlines [] = "" := rfl

@[simp]
theorem unlines_cons (l : String) (more : List String) :
    unlines (l :: more) = l ++ "\n" ++ unlines more :=
  String.join_cons

@[simp]
theorem unlines_append (lines more : List String) :
    unlines (lines ++ more) = unlines lines ++ unlines more := by
  rw [unlines, List.map_append, String.join_append, unlines, unlines]

theorem unlines_flatMap {α : Type} (items : List α) (linesOf : α → List String) :
    unlines (items.flatMap linesOf) = String.join (items.map fun x => unlines (linesOf x)) := by
  induction items with
  | nil => rfl
  | cons x more ih =>
      rw [List.flatMap_cons, unlines_append, ih, List.map_cons, String.join_cons]

/-- Lines are joined to what they are if each of them is ended, but for the last one. -/
theorem intercalate_concat (lines : List String) (last : String) :
    "\n".intercalate (lines ++ [last]) = unlines lines ++ last := by
  induction lines with
  | nil => rw [List.nil_append, String.intercalate_singleton, unlines_nil, String.empty_append]
  | cons l more ih =>
      have hmore : more ++ [last] ≠ [] :=
        List.append_ne_nil_of_right_ne_nil _ (List.cons_ne_nil _ _)
      rw [List.cons_append, String.intercalate_cons_of_ne_nil hmore, ih, unlines_cons,
        ← String.append_assoc]

theorem intercalate_append_feed {lines : List String} (h : lines ≠ []) :
    "\n".intercalate lines ++ "\n" = unlines lines := by
  have hlines : lines.dropLast ++ [lines.getLast h] = lines := List.dropLast_concat_getLast h
  rw [← hlines, intercalate_concat, unlines_append, unlines_cons, unlines_nil,
    String.append_empty, String.append_assoc]

/-! ## Beginnings -/

theorem beginsWith_of_beginsWith_append {beginning more s : String}
    (h : beginsWith (beginning ++ more) s = true) : beginsWith beginning s = true := by
  rw [beginsWith, List.isPrefixOf_iff_prefix, String.toList_append] at h
  rw [beginsWith, List.isPrefixOf_iff_prefix]
  exact (List.prefix_append _ _).trans h

end ComponentReference.Text
