import ComponentReference.Proofs.Page.Agreement

/-!
# The rows of Markdown tables

A row of a table is cut into cells by the pipes in it that no backslash stands before, and
it ends with its line.  So a row is a single line with as many cells as there are columns
exactly if no text that it shows has a line feed or such a pipe: the page adds none of its
own but those that border the cells.

## Strategy

`weight` counts both things at once, each with a weight of its own, so that every step below
is taken once and not twice.  It adds up over texts one after the other, as long as the seam
does not put a backslash before a pipe (`weight_append`).  No seam on a page does, since
all that a page puts between the texts of a document begins with something else than a pipe
and ends with something else than a backslash.
-/

namespace ComponentReference

namespace Markdown

/-! ## Counting line feeds and bare pipes -/

/-- The weight of a text behind the character `before`: that of its line feeds, and of its
pipes that are not right behind a backslash. -/
def weightBehind (pipe feed : Nat) : (before : Char) → List Char → Nat
  | _, [] => 0
  | before, c :: rest =>
    (if c = '\n' then feed else if c = '|' ∧ before ≠ '\\' then pipe else 0) +
      weightBehind pipe feed c rest

/-- The weight of a text that begins a line. -/
def weight (pipe feed : Nat) (s : String) : Nat :=
  weightBehind pipe feed '\n' s.toList

/-- How many pipes of the text are not right behind a backslash. -/
def barePipes (s : String) : Nat := weight 1 0 s

theorem weightBehind_feed_eq_zero_iff (before : Char) (s : List Char) :
    weightBehind 0 1 before s = 0 ↔ '\n' ∉ s := by
  induction s generalizing before with
  | nil => simp [weightBehind]
  | cons c rest ih =>
      rw [weightBehind, Nat.add_eq_zero_iff, ih, List.mem_cons, not_or]
      refine and_congr_left fun _ => ?_
      by_cases hc : c = '\n'
      · simp [hc]
      · simp [hc, Ne.symm hc]

theorem weight_feed_eq_zero_iff (s : String) : weight 0 1 s = 0 ↔ '\n' ∉ s.toList :=
  weightBehind_feed_eq_zero_iff '\n' s.toList

variable {pipe feed : Nat}

/-- What stands before a text bears on its weight only if it is a backslash before a pipe. -/
theorem weightBehind_congr {before before' : Char} {s : List Char}
    (h : s.head? ≠ some '|' ∨ before ≠ '\\' ∧ before' ≠ '\\') :
    weightBehind pipe feed before s = weightBehind pipe feed before' s := by
  cases s with
  | nil => rfl
  | cons c rest =>
      obtain hhead | ⟨hbefore, hbefore'⟩ := h
      · have hc : c ≠ '|' := fun hc => hhead (congrArg some hc)
        simp [weightBehind, hc]
      · simp [weightBehind, hbefore, hbefore']

theorem weightBehind_append (before : Char) (s t : List Char) :
    weightBehind pipe feed before (s ++ t) =
      weightBehind pipe feed before s + weightBehind pipe feed (s.getLastD before) t := by
  induction s generalizing before with
  | nil => simp [weightBehind]
  | cons c rest ih =>
      rw [List.cons_append, weightBehind, weightBehind, ih, Nat.add_assoc, List.getLastD_cons]

/-- The weights of two texts add up, unless the first ends in a backslash and the second
begins with a pipe. -/
theorem weight_append {s t : String}
    (h : s.toList.getLast? ≠ some '\\' ∨ t.toList.head? ≠ some '|') :
    weight pipe feed (s ++ t) = weight pipe feed s + weight pipe feed t := by
  rw [weight, String.toList_append, weightBehind_append]
  refine congrArg _ (weightBehind_congr ?_)
  refine h.symm.imp id fun hlast => ⟨fun heq => ?_, by decide⟩
  rw [List.getLastD_eq_getLast?] at heq
  cases hs : s.toList.getLast? with
  | none =>
      rw [hs] at heq
      exact absurd heq (by decide)
  | some c =>
      rw [hs, Option.getD_some] at heq
      exact hlast (hs.trans (congrArg some heq))

/-- The weights of the texts together. -/
def weights (pipe feed : Nat) (texts : List String) : Nat :=
  (texts.map (weight pipe feed)).sum

@[simp] theorem weights_nil : weights pipe feed [] = 0 := rfl

@[simp] theorem weights_cons (s : String) (texts : List String) :
    weights pipe feed (s :: texts) = weight pipe feed s + weights pipe feed texts := by
  rw [weights, List.map_cons, List.sum_cons, weights]

@[simp] theorem weights_append (texts more : List String) :
    weights pipe feed (texts ++ more) = weights pipe feed texts + weights pipe feed more := by
  rw [weights, List.map_append, List.sum_append, weights, weights]

theorem weights_eq_zero_iff (texts : List String) :
    weights pipe feed texts = 0 ↔ ∀ s ∈ texts, weight pipe feed s = 0 := by
  rw [weights, List.sum_eq_zero_iff_forall_eq_nat, List.forall_mem_map]

/-- Texts that are each made of others weigh as much as those together. -/
theorem weights_map {α : Type} {text : α → String} {parts : α → List String} (items : List α)
    (h : ∀ a, weight pipe feed (text a) = weights pipe feed (parts a)) :
    weights pipe feed (items.map text) = weights pipe feed (items.flatMap parts) := by
  induction items with
  | nil => rfl
  | cons a more ih => rw [List.map_cons, List.flatMap_cons, weights_cons, weights_append, h, ih]

/-- A text that may stand between any two others: no backslash comes before a pipe by it. -/
structure Separates (s : String) : Prop where
  nonempty : s.toList ≠ []
  first : s.toList.head? ≠ some '|'
  last : s.toList.getLast? ≠ some '\\'

variable {separator : String}

theorem Separates.weight_between (h : Separates separator) (s t : String) :
    weight pipe feed (s ++ separator ++ t) =
      weight pipe feed s + weight pipe feed separator + weight pipe feed t := by
  have hlast : (s ++ separator).toList.getLast? ≠ some '\\' := by
    rw [String.toList_append, List.getLast?_append_of_ne_nil _ h.nonempty]
    exact h.last
  rw [weight_append (.inl hlast), weight_append (.inr h.first)]

/-- Of texts with a separator between them, the weight is that of the texts and of one
separator less than there are texts. -/
theorem Separates.weight_intercalate (h : Separates separator) (s : String) (texts : List String) :
    weight pipe feed (separator.intercalate (s :: texts)) =
      texts.length * weight pipe feed separator + weights pipe feed (s :: texts) := by
  induction texts generalizing s with
  | nil => simp
  | cons s' more ih =>
      rw [String.intercalate_cons_of_ne_nil (List.cons_ne_nil s' more), h.weight_between, ih,
        weights_cons s, List.length_cons, Nat.succ_mul]
      omega

/-- A separator without weight adds none to the texts that it stands between. -/
theorem Separates.weight_intercalate_of_eq_zero (h : Separates separator)
    (hzero : weight pipe feed separator = 0) (texts : List String) :
    weight pipe feed (separator.intercalate texts) = weights pipe feed texts := by
  cases texts with
  | nil => rfl
  | cons s more => rw [h.weight_intercalate, hzero, Nat.mul_zero, Nat.zero_add]

/-! ## What a cell shows -/

/-- Only the bars at its two ends and those between the cells are added to a row. -/
theorem weight_row (cell : String) (cells : List String) :
    weight pipe feed (row (cell :: cells)) =
      ((cell :: cells).length + 1) * pipe + weights pipe feed (cell :: cells) := by
  have hbar : weight pipe feed " | " = pipe := by simp [weight, weightBehind]
  have hfirst : weight pipe feed "| " = pipe := by simp [weight, weightBehind]
  have hlast : weight pipe feed " |" = pipe := by simp [weight, weightBehind]
  rw [row, weight_append (.inr (by decide)), weight_append (.inl (by decide)), hfirst, hlast,
    (Separates.mk (by decide) (by decide) (by decide)).weight_intercalate, hbar, List.length_cons,
    Nat.succ_mul, Nat.succ_mul]
  omega

theorem weight_emptyCell : weight pipe feed Page.emptyCell = 0 := by
  simp [Page.emptyCell, weight, weightBehind]

theorem weight_presentOr (s : Option String) :
    weight pipe feed (Text.presentOr Page.emptyCell s) = weights pipe feed s.toList := by
  cases s with
  | none => exact weight_emptyCell
  | some s =>
      rw [Text.presentOr, Option.toList_some, weights_cons, weights_nil, Nat.add_zero]
      split
      · next hs =>
          rw [String.isEmpty_iff.mp hs]
          exact weight_emptyCell
      · rfl

theorem weight_code (s : String) : weight pipe feed ("`" ++ s ++ "`") = weight pipe feed s := by
  have hmark : weight pipe feed "`" = 0 := by simp [weight, weightBehind]
  rw [weight_append (.inr (by decide)), weight_append (.inl (by decide)), hmark, Nat.zero_add,
    Nat.add_zero]

/-- A backslash before every backtick changes no weight, as it stands before no pipe. -/
theorem weightBehind_backticks (before : Char) (s : List Char) :
    weightBehind pipe feed before (s.flatMap fun c => if c = '`' then "\\`".toList else [c]) =
      weightBehind pipe feed before s := by
  induction s generalizing before with
  | nil => rfl
  | cons c rest ih =>
      rw [List.flatMap_cons]
      by_cases hc : c = '`'
      · show weightBehind pipe feed before ((if c = '`' then ['\\', '`'] else [c]) ++ _) = _
        rw [if_pos hc, List.cons_append, List.singleton_append, weightBehind, weightBehind,
          weightBehind, ih, hc]
        simp
      · rw [if_neg hc, List.singleton_append, weightBehind, weightBehind, ih]

theorem weight_quoteMarkdownCode (value : String) :
    weight pipe feed (quoteMarkdownCode value) = weight pipe feed value := by
  rw [quoteMarkdownCode, weight_code, weight, Text.toList_substitute, weightBehind_backticks,
    weight]

theorem separates_unionSeparator : Separates Format.markdown.unionSeparator :=
  ⟨by decide, by decide, by decide⟩

/-- The sign between the members of a union holds a pipe behind a backslash and no other. -/
theorem weight_intercalate_union (names : List String) :
    weight pipe feed (Format.markdown.unionSeparator.intercalate names) =
      weights pipe feed names :=
  separates_unionSeparator.weight_intercalate_of_eq_zero
    (by simp [Format.unionSeparator, weight, weightBehind]) names

end Markdown

/-- The texts that the item of an event's parameter shows. -/
def Parameter.texts (p : Parameter) : List String :=
  p.name.toList ++ p.typeNames ++ p.description.toList

/-- The texts that a cell shows, as the document has them. -/
def Cell.texts : Cell → List String
  | .text s => [s]
  | .propType t => t.elim [] (PropType.leaves 0)
  | .defaultValue value => value.toList
  | .memberType label => [label]
  | .parameters ps => ps.flatMap Parameter.texts

namespace Markdown

theorem weight_typeText (t : Option PropType) :
    weight pipe feed (Format.markdown.typeText t) =
      weights pipe feed (Cell.propType t).texts := by
  cases t with
  | none => rfl
  | some t =>
      rw [Format.typeText, PropType.textAt_eq, weight_intercalate_union]
      rfl

theorem weight_shownTypes (p : Parameter) :
    weights pipe feed p.shownTypes = weights pipe feed p.typeNames := by
  unfold Parameter.shownTypes
  cases p.typeNames with
  | nil => simp [weight_emptyCell]
  | cons name more => rfl

theorem weight_parameterText (p : Parameter) :
    weight pipe feed (Format.markdown.parameterText p) = weights pipe feed p.texts := by
  have hcolon : Separates ": " := ⟨by decide, by decide, by decide⟩
  have hdash : Separates " - " := ⟨by decide, by decide, by decide⟩
  have hcolonzero : weight pipe feed ": " = 0 := by simp [weight, weightBehind]
  have hdashzero : weight pipe feed " - " = 0 := by simp [weight, weightBehind]
  have htyped : weight pipe feed (Text.presentOr Page.emptyCell p.name ++ ": " ++
      Format.markdown.code (Format.markdown.unionSeparator.intercalate p.shownTypes)) =
        weights pipe feed (p.name.toList ++ p.typeNames) := by
    rw [hcolon.weight_between, hcolonzero, Nat.add_zero, weight_presentOr, Format.code, weight_code,
      weight_intercalate_union, weight_shownTypes, weights_append]
  rw [Format.parameterText_eq, Parameter.textWith, Parameter.texts, weights_append, ← htyped]
  cases p.description with
  | none => rw [String.append_empty, Option.toList_none, weights_nil, Nat.add_zero]
  | some s =>
      rw [Option.toList_some, weights_cons, weights_nil, Nat.add_zero]
      dsimp only
      by_cases hs : s.isEmpty
      · rw [if_pos hs, String.append_empty, String.isEmpty_iff.mp hs]
        rfl
      · rw [if_neg hs, ← String.append_assoc, hdash.weight_between, hdashzero, Nat.add_zero]

theorem weight_parametersText (ps : List Parameter) :
    weight pipe feed (Format.markdown.parametersText ps) =
      weights pipe feed (ps.flatMap Parameter.texts) := by
  have hbreak : Separates "<br>" := ⟨by decide, by decide, by decide⟩
  have hzero : weight pipe feed "<br>" = 0 := by simp [weight, weightBehind]
  cases ps with
  | nil => exact weight_emptyCell
  | cons p more =>
      rw [← weights_map (p :: more) weight_parameterText]
      exact hbreak.weight_intercalate_of_eq_zero hzero _

theorem weight_cell (c : Cell) :
    weight pipe feed (Format.markdown.cell c) = weights pipe feed c.texts := by
  cases c with
  | text s => simp [Format.cell, Cell.texts]
  | propType t =>
      rw [← weight_typeText, Format.cell]
      split
      · next hs =>
          rw [String.isEmpty_iff.mp hs, weight_emptyCell]
          rfl
      · exact weight_code _
  | defaultValue value =>
      cases value with
      | none => exact weight_emptyCell
      | some s => simp [Format.cell, Cell.texts, weight_quoteMarkdownCode]
  | memberType label =>
      rw [Format.cell, Cell.texts, weights_cons, weights_nil, Nat.add_zero]
      split
      · next hlabel => rw [hlabel]
      · exact weight_code label
  | parameters ps => exact weight_parametersText ps

/-! ## A row -/

/-- The row is a single line with as many cells as are asked for. -/
def IsRow (cells : Nat) (s : String) : Prop :=
  '\n' ∉ s.toList ∧ barePipes s = cells + 1

instance (cells : Nat) (s : String) : Decidable (IsRow cells s) :=
  inferInstanceAs (Decidable (_ ∧ _))

/-- The text has no line feed and no pipe but such as are right behind a backslash. -/
def Plain (s : String) : Prop :=
  '\n' ∉ s.toList ∧ barePipes s = 0

instance (s : String) : Decidable (Plain s) :=
  inferInstanceAs (Decidable (_ ∧ _))

theorem isRow_row_iff {cells : List Cell} (hcells : cells ≠ []) :
    IsRow cells.length (row (cells.map Format.markdown.cell)) ↔
      ∀ c ∈ cells, ∀ s ∈ c.texts, Plain s := by
  have hweight : ∀ pipe feed : Nat, weight pipe feed (row (cells.map Format.markdown.cell)) =
      (cells.length + 1) * pipe + weights pipe feed (cells.flatMap Cell.texts) := by
    intro pipe feed
    obtain ⟨c, more, rfl⟩ := List.exists_cons_of_ne_nil hcells
    rw [← weights_map _ weight_cell, List.map_cons, weight_row, List.length_cons, List.length_map,
      List.length_cons]
  have hpipes : barePipes (row (cells.map Format.markdown.cell)) = cells.length + 1 ↔
      weights 1 0 (cells.flatMap Cell.texts) = 0 := by
    rw [barePipes, hweight, Nat.mul_one]
    exact Nat.add_eq_left
  have hfeeds : '\n' ∉ (row (cells.map Format.markdown.cell)).toList ↔
      weights 0 1 (cells.flatMap Cell.texts) = 0 := by
    rw [← weight_feed_eq_zero_iff, hweight, Nat.mul_zero, Nat.zero_add]
  rw [IsRow, hpipes, hfeeds, weights_eq_zero_iff, weights_eq_zero_iff, ← forall₂_and]
  simp only [weight_feed_eq_zero_iff, List.mem_flatMap, forall_exists_index, and_imp]
  exact ⟨fun h c hc s hs => h s c hc hs, fun h s c hc hs => h c hc s hs⟩

/-! ## Where the rows stand -/

/-- The text is one or more whole lines of the page, behind the first. -/
def StandsIn (s page : String) : Prop :=
  ∃ before after : String, page = before ++ "\n" ++ s ++ "\n" ++ after

/-- Texts with a separator that begins with a line feed between them: behind each of them
comes a line feed, if one comes behind them all. -/
theorem exists_intercalate_feed (more s : String) (texts : List String) :
    ∃ after : String,
      ("\n" ++ more).intercalate (s :: texts) ++ "\n" = s ++ "\n" ++ after := by
  cases texts with
  | nil => exact ⟨"", by rw [String.intercalate_singleton, String.append_empty]⟩
  | cons s' rest =>
      refine ⟨more ++ ("\n" ++ more).intercalate (s' :: rest) ++ "\n", ?_⟩
      rw [String.intercalate_cons_of_ne_nil (List.cons_ne_nil s' rest)]
      simp only [String.append_assoc]

/-- Each text but the first stands between a separator that begins with a line feed and
another line feed. -/
theorem exists_intercalate_cut (more first : String) {s : String} {texts : List String}
    (hs : s ∈ texts) :
    ∃ before after : String,
      ("\n" ++ more).intercalate (first :: texts) ++ "\n" =
        before ++ "\n" ++ more ++ s ++ "\n" ++ after := by
  obtain ⟨front, back, rfl⟩ := List.append_of_mem hs
  obtain ⟨after, hafter⟩ := exists_intercalate_feed more s back
  refine ⟨("\n" ++ more).intercalate (first :: front), after, ?_⟩
  rw [← List.cons_append, String.intercalate_append_of_ne_nil (List.cons_ne_nil first front)
    (List.cons_ne_nil s back), String.append_assoc, hafter]
  simp only [String.append_assoc]

theorem tableBlock_standsIn {d : Document} {t : Table} (ht : t ∈ d.tables) :
    StandsIn (tableBlock (t.grid .markdown)) (componentPage d) := by
  have hblock : tableBlock (t.grid .markdown) ∈ (blocks d).tail := by
    rw [blocks, List.cons_append, List.cons_append, List.tail_cons, tables_eq]
    exact List.mem_append_right _ (List.mem_map_of_mem (List.mem_map_of_mem ht))
  obtain ⟨before, after, hpage⟩ := exists_intercalate_cut "\n" (pageTitle d) hblock
  refine ⟨before ++ "\n", after, ?_⟩
  rw [← hpage]
  rfl

theorem row_standsIn {d : Document} {t : Table} {cells : List Cell} (ht : t ∈ d.tables)
    (hcells : cells ∈ t.rows) :
    StandsIn (row (cells.map Format.markdown.cell)) (componentPage d) := by
  have hrow : row (cells.map Format.markdown.cell) ∈ (tableLines (t.grid .markdown)).tail :=
    List.mem_cons_of_mem _ (List.mem_map_of_mem (List.mem_map_of_mem hcells))
  obtain ⟨before, after, hpage⟩ := tableBlock_standsIn ht
  obtain ⟨above, below, hlines⟩ := exists_intercalate_cut ""
    (row (t.columns.map Page.Column.title)) hrow
  refine ⟨before ++ "\n" ++ heading t.title ++ "\n\n" ++ above, below ++ after, ?_⟩
  have hblock : tableBlock (t.grid .markdown) ++ "\n" = heading t.title ++ "\n\n" ++
      (above ++ "\n" ++ "" ++ row (cells.map Format.markdown.cell) ++ "\n" ++ below) := by
    rw [← hlines]
    exact String.append_assoc
  calc componentPage d
      = before ++ "\n" ++ (tableBlock (t.grid .markdown) ++ "\n") ++ after := by
        rw [hpage]
        simp only [String.append_assoc]
    _ = _ := by
        rw [hblock]
        simp only [String.append_assoc, String.empty_append]

end Markdown

/-- Every row of a table has a cell for each of its columns, and there are columns. -/
theorem Document.length_of_mem_rows {d : Document} {t : Table} {cells : List Cell}
    (ht : t ∈ d.tables) (hcells : cells ∈ t.rows) :
    cells ≠ [] ∧ cells.length = t.columns.length := by
  have htable := List.mem_of_mem_filter ht
  simp only [List.mem_cons, List.not_mem_nil, or_false] at htable
  obtain rfl | rfl | rfl | rfl := htable
  all_goals
    obtain ⟨item, -, rfl⟩ := List.mem_map.mp hcells
    exact ⟨List.cons_ne_nil _ _, rfl⟩

/-- In the Markdown page of the document that a report describes, the row of each property,
member, event and slot stands on lines of its own, and it is a single line with a cell for
each column exactly if the texts that it shows are plain. -/
theorem Markdown.rows_componentPage (fields : Json.Fields) :
    ∃ d : Document, Document.ofJson (.obj fields) = .ok d ∧
      ∀ t ∈ d.tables, ∀ cells ∈ t.rows,
        StandsIn (row (cells.map Format.markdown.cell)) (componentPage d) ∧
          (IsRow t.columns.length (row (cells.map Format.markdown.cell)) ↔
            ∀ c ∈ cells, ∀ s ∈ c.texts, Plain s) := by
  refine ⟨.ofFields fields, rfl, fun t ht cells hcells => ⟨row_standsIn ht hcells, ?_⟩⟩
  obtain ⟨hne, hlength⟩ := Document.length_of_mem_rows ht hcells
  rw [← hlength]
  exact isRow_row_iff hne

/-- A report about a property with a type of two names, and with a default value that has
backticks and a pipe behind a backslash. -/
def Markdown.unionReport : Json.Fields :=
  [("displayName", .str "T"),
    ("props", .obj [("tpl", .obj
      [("type", .obj [("name", .str "union"),
          ("elements", .arr [.obj [("name", .str "a")], .obj [("name", .str "b")]])]),
        ("defaultValue", .obj [("value", .str "`x\\|`")])])])]

theorem Markdown.rows_componentPage_union :
    ∃ d : Document, Document.ofJson (.obj unionReport) = .ok d ∧
      StandsIn "| tpl | `a \\| b` | `\\`x\\|\\`` | - |" (componentPage d) ∧
        IsRow 4 "| tpl | `a \\| b` | `\\`x\\|\\`` | - |" := by
  obtain ⟨d, hd, hrows⟩ := Markdown.rows_componentPage unionReport
  obtain rfl : Document.ofFields unionReport = d := Except.ok.inj hd
  obtain ⟨hstands, hrow⟩ := hrows _ (.head _) _ (.head _)
  refine ⟨_, hd, hstands, hrow.mpr ?_⟩
  decide +kernel

/-- A report about a slot. -/
def Markdown.slotReport (description : String) : Json.Fields :=
  [("slots", .obj [("s", .obj [("description", .str description)])])]

/-- The row of a slot is split by a bare pipe in its description, and by a line feed. -/
theorem Markdown.not_isRow_slot :
    (∃ d : Document, Document.ofJson (.obj (slotReport "a|b")) = .ok d ∧
      ∃ t ∈ d.tables, ∃ cells ∈ t.rows,
        ¬IsRow t.columns.length (row (cells.map Format.markdown.cell))) ∧
    ∃ d : Document, Document.ofJson (.obj (slotReport "a\nb")) = .ok d ∧
      ∃ t ∈ d.tables, ∃ cells ∈ t.rows,
        ¬IsRow t.columns.length (row (cells.map Format.markdown.cell)) := by
  refine ⟨⟨_, rfl, _, .head _, _, .head _, ?_⟩, ⟨_, rfl, _, .head _, _, .head _, ?_⟩⟩
  all_goals decide +kernel

end ComponentReference
