import ComponentReference.Proofs.Page.Rows
import ComponentReference.Proofs.Text.Lines

/-!
# The headings of Markdown pages

A page in Markdown begins with its title.  Behind it each part of the document that is not
empty has a heading, once and in the order of the page, and so has each example.  Nothing else
on the page looks like a heading, as long as the texts of the document have no line feeds,
and those that begin a line of the page do not begin with the mark of headings.

## Strategy

Blocks, examples and the lines of tables are joined in three different ways.  The page is
brought back to one list of lines (`componentPage_eq_lines`), none of which has a line feed in
it (`isLine_of_mem_pageLines`), so that these are the lines that a reader finds.  Those with the
mark of headings are found block by block (`filter_mark_pageLines`).  Which level each of them
has can then be seen at its beginning.
-/

namespace ComponentReference

/-! ## The parts of a document -/

/-- The texts that the page of a document shows. -/
def Document.texts (d : Document) : List String :=
  d.displayName.toList ++ d.description.toList ++
    d.examples.flatMap (fun e => e.title.toList ++ [e.content]) ++
    d.tables.flatMap fun t => t.rows.flatMap fun cells => cells.flatMap Cell.texts

/-- The parts that the page of a component can have, in their order. -/
def Page.parts : List Page.Section :=
  [.description, .examples, .properties, .members, .events, .slots]

/-- Whether a part of the document is not empty. -/
def Document.shows (d : Document) : Page.Section → Bool
  | .description => !(d.description.getD "").isEmpty
  | .examples => !d.examples.isEmpty
  | .properties => !d.properties.isEmpty
  | .members => !d.members.isEmpty
  | .events => !d.events.isEmpty
  | .slots => !d.slots.isEmpty
  | .components => false

/-- The tables are those of the parts that are not empty. -/
theorem Document.map_title_tables (d : Document) :
    d.tables.map Table.title =
      [Page.Section.properties, .members, .events, .slots].filter d.shows := by
  have hshows : ∀ t ∈ [⟨.properties, [.name, .type, .default, .description],
        d.properties.map Property.row⟩,
      ⟨.members, [.name, .type, .description], d.members.map Member.row⟩,
      ⟨.events, [.name, .parameters, .description], d.events.map Event.row⟩,
      (⟨.slots, [.name, .description], d.slots.map Slot.row⟩ : Table)],
      (!t.rows.isEmpty) = (d.shows ∘ Table.title) t := by
    simp [shows]
  rw [tables, List.filter_congr hshows, ← List.filter_map]
  rfl

namespace Markdown

/-! ## The lines of a page -/

/-- The lines of the block of examples. -/
def examplesBlockLines (examples : List (String × String)) : List String :=
  [""].intercalate ([heading .examples] :: examples.flatMap fun (title, content) =>
    [["### " ++ title], ["```html", content, "```"]])

/-- The lines of a table's block. -/
def tableBlockLines (t : Table) : List String :=
  heading t.title :: "" :: tableLines (t.grid .markdown)

/-- The lines of the blocks of a page. -/
def blockLines (d : Document) : List (List String) :=
  [pageTitle d] ::
    (if d.shows .description then [[heading .description, d.description.getD ""]] else []) ++
    (if d.shows .examples then [examplesBlockLines d.titledExamples] else []) ++
    d.tables.map tableBlockLines

/-- The lines of a page. -/
def pageLines (d : Document) : List String :=
  [""].intercalate (blockLines d) ++ [""]

theorem intercalate_examplesBlockLines (examples : List (String × String)) :
    "\n".intercalate (examplesBlockLines examples) = examplesBlock examples := by
  have hfence : ∀ content : String,
      "\n".intercalate ["```html", content, "```"] = "```html\n" ++ content ++ "\n```" := by
    intro content
    rw [← String.toList_inj]
    simp
  have hblocks : ∀ block ∈ [heading .examples] :: examples.flatMap fun (title, content) =>
      [["### " ++ title], ["```html", content, "```"]], block ≠ [] := by
    simp only [List.mem_cons, List.mem_flatMap, List.not_mem_nil, or_false]
    rintro block (rfl | ⟨e, -, rfl | rfl⟩) <;> exact List.cons_ne_nil _ _
  rw [examplesBlockLines, ← Text.intercalate_blocks hblocks, examplesBlock, List.map_cons,
    String.intercalate_singleton, List.map_flatMap]
  simp only [exampleLines, List.map_cons, List.map_nil, String.intercalate_singleton, hfence]

theorem intercalate_tableBlockLines (t : Table) :
    "\n".intercalate (tableBlockLines t) = tableBlock (t.grid .markdown) := by
  have hlines : tableLines (t.grid .markdown) ≠ [] := List.cons_ne_nil _ _
  rw [tableBlockLines, String.intercalate_cons_of_ne_nil (List.cons_ne_nil _ _),
    String.intercalate_cons_of_ne_nil hlines, tableBlock, ← String.toList_inj]
  simp [Table.grid]

theorem exists_pageLines_cons (d : Document) : ∃ rest, pageLines d = pageTitle d :: rest := by
  rw [pageLines, blockLines, List.cons_append, List.cons_append, Text.intercalate_cons_eq]
  exact ⟨_, rfl⟩

theorem map_blockLines (d : Document) : (blockLines d).map "\n".intercalate = blocks d := by
  have htables : (d.tables.map tableBlockLines).map "\n".intercalate =
      (tables d).map tableBlock := by
    rw [tables_eq, List.map_map, List.map_map]
    exact List.map_congr_left fun t _ => intercalate_tableBlockLines t
  have hdescription : ∀ s : String, "\n".intercalate [heading .description, s] =
      heading .description ++ "\n" ++ s := by
    simp [String.append_assoc]
  unfold blockLines blocks Document.shows Document.titledExamples
  rw [List.map_append, List.map_append, List.map_cons, String.intercalate_singleton, htables]
  congr 2
  · cases d.description with
    | none => rfl
    | some s => by_cases hs : s.isEmpty <;> simp [hs, hdescription]
  · cases d.examples with
    | nil => rfl
    | cons e more =>
        rw [List.mapIdx_cons]
        exact congrArg (fun block => [block]) (intercalate_examplesBlockLines _)

theorem mem_blockLines {d : Document} {block : List String} (h : block ∈ blockLines d) :
    block = [pageTitle d] ∨ block = [heading .description, d.description.getD ""] ∨
      block = examplesBlockLines d.titledExamples ∨ ∃ t ∈ d.tables, block = tableBlockLines t := by
  simp only [blockLines, List.cons_append, List.mem_cons, List.mem_append,
    List.mem_ite_nil_right, List.not_mem_nil, or_false, List.mem_map] at h
  obtain htitle | (⟨-, hdescription⟩ | ⟨-, hexamples⟩) | ⟨t, ht, hblock⟩ := h
  · exact .inl htitle
  · exact .inr (.inl hdescription)
  · exact .inr (.inr (.inl hexamples))
  · exact .inr (.inr (.inr ⟨t, ht, hblock.symm⟩))

theorem ne_nil_of_mem_blockLines {d : Document} {block : List String}
    (h : block ∈ blockLines d) : block ≠ [] := by
  obtain rfl | rfl | rfl | ⟨t, -, rfl⟩ := mem_blockLines h
  · exact List.cons_ne_nil _ _
  · exact List.cons_ne_nil _ _
  · exact Text.intercalate_ne_nil _ (List.cons_ne_nil _ _) _
  · exact List.cons_ne_nil _ _

/-- A page is made of its lines. -/
theorem componentPage_eq_lines (d : Document) :
    componentPage d = "\n".intercalate (pageLines d) := by
  have hlines : [""].intercalate (blockLines d) ≠ [] :=
    Text.intercalate_ne_nil _ (List.cons_ne_nil _ _) _
  rw [componentPage, ← map_blockLines, Text.intercalate_blocks fun _ => ne_nil_of_mem_blockLines,
    pageLines, String.intercalate_append_of_ne_nil hlines (List.cons_ne_nil _ _),
    String.intercalate_singleton, String.append_empty]

/-! ## Every line is a single line -/

theorem isLine_heading (part : Page.Section) : Text.IsLine (heading part) := by
  cases part <;> decide +kernel

theorem isLine_cell_iff (c : Cell) :
    Text.IsLine (Format.markdown.cell c) ↔ ∀ s ∈ c.texts, Text.IsLine s := by
  rw [Text.IsLine, ← weight_feed_eq_zero_iff, weight_cell, weights_eq_zero_iff]
  simp only [weight_feed_eq_zero_iff, Text.IsLine]

theorem isLine_row {cells : List String} (h : ∀ s ∈ cells, Text.IsLine s) :
    Text.IsLine (row cells) :=
  (Text.IsLine.append (by decide) (.intercalate (by decide) h)).append (by decide)

theorem isLine_of_mem_tableLines {t : Table} {l : String}
    (hl : l ∈ tableLines (t.grid .markdown))
    (h : ∀ cells ∈ t.rows, ∀ c ∈ cells, ∀ s ∈ c.texts, Text.IsLine s) : Text.IsLine l := by
  have htitle : ∀ c : Page.Column, Text.IsLine c.title := by
    intro c
    cases c <;> decide +kernel
  have hrule : ∀ c : Page.Column, Text.IsLine (rule c) := by
    intro c
    cases c <;> decide +kernel
  rw [tableLines, Table.grid, List.mem_cons, List.mem_cons, List.map_map, List.mem_map] at hl
  obtain rfl | rfl | ⟨cells, hcells, rfl⟩ := hl
  · exact isLine_row (List.forall_mem_map.mpr fun c _ => htitle c)
  · exact (Text.IsLine.append (by decide) (.intercalate (by decide)
      (List.forall_mem_map.mpr fun c _ => hrule c))).append (by decide)
  · exact isLine_row (List.forall_mem_map.mpr fun c hc =>
      (isLine_cell_iff c).mpr (h cells hcells c hc))

theorem mem_examplesBlockLines {examples : List (String × String)} {l : String}
    (h : l ∈ examplesBlockLines examples) :
    l = "" ∨ l = heading .examples ∨ l = "```html" ∨ l = "```" ∨
      ∃ e ∈ examples, l = "### " ++ e.1 ∨ l = e.2 := by
  obtain hbetween | ⟨piece, hpiece, hl⟩ := Text.mem_of_mem_intercalate h
  · exact .inl (List.mem_singleton.mp hbetween)
  simp only [List.mem_cons, List.mem_flatMap, List.not_mem_nil, or_false] at hpiece
  obtain rfl | ⟨e, he, rfl | rfl⟩ := hpiece
  · exact .inr (.inl (List.mem_singleton.mp hl))
  · exact .inr (.inr (.inr (.inr ⟨e, he, .inl (List.mem_singleton.mp hl)⟩)))
  · simp only [List.mem_cons, List.not_mem_nil, or_false] at hl
    obtain hopen | hcontent | hclose := hl
    · exact .inr (.inr (.inl hopen))
    · exact .inr (.inr (.inr (.inr ⟨e, he, .inr hcontent⟩)))
    · exact .inr (.inr (.inr (.inl hclose)))

theorem isLine_of_mem_titledExamples {d : Document} {e : String × String}
    (he : e ∈ d.titledExamples)
    (h : ∀ e ∈ d.examples, (∀ s ∈ e.title, Text.IsLine s) ∧ Text.IsLine e.content) :
    Text.IsLine e.1 ∧ Text.IsLine e.2 := by
  obtain ⟨i, hi, rfl⟩ := List.mem_mapIdx.mp he
  obtain ⟨htitle, hcontent⟩ := h _ (List.getElem_mem hi)
  have hnumbered : Text.IsLine (Page.exampleTitle (i + 1)) :=
    Text.IsLine.append (by decide) (not_mem_intRepr (by decide) (by decide) _)
  exact ⟨hnumbered.presentOr htitle, hcontent⟩

/-- The texts of a document stand on the lines of its page, and no line feed comes into them. -/
theorem isLine_of_mem_pageLines {d : Document} (h : ∀ s ∈ d.texts, Text.IsLine s) :
    ∀ l ∈ pageLines d, Text.IsLine l := by
  simp only [Document.texts, List.mem_append, List.mem_flatMap, Option.mem_toList] at h
  have hempty : Text.IsLine "" := by decide
  intro l hl
  rw [pageLines, List.mem_append, List.mem_singleton] at hl
  obtain hl | rfl := hl
  swap
  · exact hempty
  obtain hbetween | ⟨block, hblock, hmem⟩ := Text.mem_of_mem_intercalate hl
  · rw [List.mem_singleton.mp hbetween]
    exact hempty
  obtain rfl | rfl | rfl | ⟨t, ht, rfl⟩ := mem_blockLines hblock
  · rw [List.mem_singleton.mp hmem]
    exact .append (by decide) (.getD (by decide) fun s hs => h s (.inl (.inl (.inl hs))))
  · rw [List.mem_cons, List.mem_singleton] at hmem
    obtain rfl | rfl := hmem
    · exact isLine_heading .description
    · exact hempty.getD fun s hs => h s (.inl (.inl (.inr hs)))
  · have hexamples : ∀ e ∈ d.titledExamples, Text.IsLine e.1 ∧ Text.IsLine e.2 := by
      refine fun e he => isLine_of_mem_titledExamples he fun e he => ⟨fun s hs => ?_, ?_⟩
      · exact h s (.inl (.inr ⟨e, he, .inl hs⟩))
      · exact h _ (.inl (.inr ⟨e, he, .inr (List.mem_singleton.mpr rfl)⟩))
    obtain rfl | rfl | rfl | rfl | ⟨e, he, rfl | rfl⟩ := mem_examplesBlockLines hmem
    · exact hempty
    · exact isLine_heading .examples
    · decide
    · decide
    · exact .append (by decide) (hexamples e he).1
    · exact (hexamples e he).2
  · rw [tableBlockLines, List.mem_cons, List.mem_cons] at hmem
    obtain rfl | rfl | hrow := hmem
    · exact isLine_heading t.title
    · exact hempty
    · exact isLine_of_mem_tableLines hrow fun cells hcells c hc s hs =>
        h s (.inr ⟨t, ht, cells, hcells, c, hc, hs⟩)

/-! ## The lines with the mark of headings -/

/-- The headings of a page, with its title and the titles of its examples. -/
def headings (d : Document) : List String :=
  pageTitle d ::
    (if d.shows .description then [heading .description] else []) ++
    (if d.shows .examples
      then heading .examples :: d.titledExamples.map fun e => "### " ++ e.1 else []) ++
    d.tables.map fun t => heading t.title

theorem filter_examplesBlockLines {examples : List (String × String)}
    (h : ∀ e ∈ examples, Text.beginsWith "#" e.2 = false) :
    (examplesBlockLines examples).filter (Text.beginsWith "#") =
      heading .examples :: examples.map fun e => "### " ++ e.1 := by
  have hheading : [heading .examples].filter (Text.beginsWith "#") = [heading .examples] := by
    decide +kernel
  have hlines : ∀ e ∈ examples,
      [["### " ++ e.1], ["```html", e.2, "```"]].flatMap (·.filter (Text.beginsWith "#")) =
        ["### " ++ e.1] := by
    intro e he
    have htitle : Text.beginsWith "#" ("### " ++ e.1) = true := by
      simp [Text.beginsWith]
    have hopen : Text.beginsWith "#" "```html" = false := by decide
    have hclose : Text.beginsWith "#" "```" = false := by decide
    simp [htitle, hopen, h e he, hclose]
  rw [examplesBlockLines, Text.filter_intercalate (by decide), List.flatMap_cons, hheading,
    List.flatMap_assoc, List.flatMap_congr hlines, ← List.map_eq_flatMap]
  rfl

theorem filter_tableBlockLines (t : Table) :
    (tableBlockLines t).filter (Text.beginsWith "#") = [heading t.title] := by
  have hheading : Text.beginsWith "#" (heading t.title) = true := by
    simp [Text.beginsWith, heading]
  have hbar : ∀ l ∈ tableLines (t.grid .markdown), ¬Text.beginsWith "#" l = true := by
    rw [tableLines, List.forall_mem_cons, List.forall_mem_cons, List.forall_mem_map]
    refine ⟨?_, ?_, fun cells _ => ?_⟩ <;> simp [Text.beginsWith, row, List.isPrefixOf]
  have hempty : ¬Text.beginsWith "#" "" = true := by decide
  rw [tableBlockLines, List.filter_cons_of_pos hheading, List.filter_cons_of_neg hempty,
    List.filter_eq_nil_iff.mpr hbar]

/-- The lines that begin with the mark of headings are the headings of the page. -/
theorem filter_mark_pageLines {d : Document}
    (hdescription : Text.beginsWith "#" (d.description.getD "") = false)
    (hexamples : ∀ e ∈ d.examples, Text.beginsWith "#" e.content = false) :
    (pageLines d).filter (Text.beginsWith "#") = headings d := by
  have htitle : [pageTitle d].filter (Text.beginsWith "#") = [pageTitle d] := by
    simp [Text.beginsWith, pageTitle]
  have hdescriptionLines : [heading .description, d.description.getD ""].filter
      (Text.beginsWith "#") = [heading .description] := by
    have hheading : Text.beginsWith "#" (heading .description) = true := by decide +kernel
    simp [hheading, hdescription]
  have hcontents : ∀ e ∈ d.titledExamples, Text.beginsWith "#" e.2 = false := by
    intro e he
    obtain ⟨i, hi, rfl⟩ := List.mem_mapIdx.mp he
    exact hexamples _ (List.getElem_mem hi)
  have htables : (d.tables.map tableBlockLines).flatMap (·.filter (Text.beginsWith "#")) =
      d.tables.map fun t => heading t.title := by
    rw [List.flatMap_map, List.map_eq_flatMap]
    exact List.flatMap_congr fun t _ => filter_tableBlockLines t
  have hempty : [""].filter (Text.beginsWith "#") = [] := by decide
  rw [pageLines, List.filter_append, Text.filter_intercalate hempty, hempty, List.append_nil,
    blockLines, List.flatMap_append, List.flatMap_append, List.flatMap_cons, htitle, htables,
    headings]
  congr 2
  · cases d.shows .description with
    | false => simp
    | true => simpa using hdescriptionLines
  · cases d.shows .examples with
    | false => rfl
    | true => simpa using filter_examplesBlockLines hcontents

/-! ## The levels of headings -/

section Levels

variable (d : Document) (part : Page.Section) (title : String)

theorem levels_pageTitle : Text.beginsWith "# " (pageTitle d) = true ∧
    Text.beginsWith "## " (pageTitle d) = false ∧ Text.beginsWith "### " (pageTitle d) = false := by
  simp [Text.beginsWith, pageTitle, List.isPrefixOf]

theorem levels_heading : Text.beginsWith "# " (heading part) = false ∧
    Text.beginsWith "## " (heading part) = true ∧
    Text.beginsWith "### " (heading part) = false := by
  simp [Text.beginsWith, heading, List.isPrefixOf]

theorem levels_exampleTitle : Text.beginsWith "# " ("### " ++ title) = false ∧
    Text.beginsWith "## " ("### " ++ title) = false ∧
    Text.beginsWith "### " ("### " ++ title) = true := by
  simp [Text.beginsWith, List.isPrefixOf]

end Levels

theorem filter_title_headings (d : Document) :
    (headings d).filter (Text.beginsWith "# ") = [pageTitle d] := by
  have hpart : ∀ part, Text.beginsWith "# " (heading part) = false := fun part =>
    (levels_heading part).1
  have hexample : ∀ title, Text.beginsWith "# " ("### " ++ title) = false := fun title =>
    (levels_exampleTitle title).1
  rw [headings, List.cons_append, List.cons_append,
    List.filter_cons_of_pos (levels_pageTitle d).1, List.cons_eq_cons, List.filter_eq_nil_iff]
  refine ⟨rfl, fun l hl => ?_⟩
  simp only [List.mem_append, List.mem_ite_nil_right, List.mem_cons, List.mem_map,
    List.not_mem_nil, or_false] at hl
  obtain (⟨-, rfl⟩ | ⟨-, rfl | ⟨e, -, rfl⟩⟩) | ⟨t, -, rfl⟩ := hl <;> simp [hpart, hexample]

/-- Those of the second level are the headings of the parts, in order. -/
theorem filter_heading_headings (d : Document) :
    (headings d).filter (Text.beginsWith "## ") = (Page.parts.filter d.shows).map heading := by
  have htitle := (levels_pageTitle d).2.1
  have hpart : ∀ part, Text.beginsWith "## " (heading part) = true := fun part =>
    (levels_heading part).2.1
  have hexample : ∀ title, Text.beginsWith "## " ("### " ++ title) = false := fun title =>
    (levels_exampleTitle title).2.1
  have htables : d.tables.map (fun t => heading t.title) =
      ([Page.Section.properties, .members, .events, .slots].filter d.shows).map heading := by
    rw [← d.map_title_tables, List.map_map]
    rfl
  have hparts : Page.parts.filter d.shows =
      (if d.shows .description then [.description] else []) ++
        (if d.shows .examples then [.examples] else []) ++
        [Page.Section.properties, .members, .events, .slots].filter d.shows := by
    rw [Page.parts, List.filter_cons, List.filter_cons]
    split <;> split <;> rfl
  rw [headings, htables, hparts]
  cases d.shows .description <;> cases d.shows .examples <;>
    simp [List.filter_map, Function.comp_def, htitle, hpart, hexample]

/-- Those of the third level are the titles of the examples, in order. -/
theorem filter_exampleTitle_headings (d : Document) :
    (headings d).filter (Text.beginsWith "### ") =
      d.examples.mapIdx fun i e =>
        "### " ++ Text.presentOr (Page.exampleTitle (i + 1)) e.title := by
  have htitle := (levels_pageTitle d).2.2
  have hpart : ∀ part, Text.beginsWith "### " (heading part) = false := fun part =>
    (levels_heading part).2.2
  have hexample : ∀ title, Text.beginsWith "### " ("### " ++ title) = true := fun title =>
    (levels_exampleTitle title).2.2
  have htitles : d.titledExamples.map (fun e => "### " ++ e.1) =
      d.examples.mapIdx fun i e =>
        "### " ++ Text.presentOr (Page.exampleTitle (i + 1)) e.title :=
    List.ext_getElem (by simp [Document.titledExamples]) fun i _ _ => by
      simp [Document.titledExamples]
  have hexamples : (if d.shows .examples
      then heading .examples :: d.titledExamples.map fun e => "### " ++ e.1 else []).filter
        (Text.beginsWith "### ") = d.titledExamples.map fun e => "### " ++ e.1 := by
    unfold Document.shows Document.titledExamples
    cases d.examples with
    | nil => rfl
    | cons e more => simp [List.filter_map, Function.comp_def, hpart, hexample]
  rw [headings, List.filter_append, List.filter_append, hexamples, htitles]
  cases d.shows .description <;> simp [List.filter_map, Function.comp_def, htitle, hpart]

theorem filter_beginsWith_pageLines {d : Document}
    (hdescription : Text.beginsWith "#" (d.description.getD "") = false)
    (hexamples : ∀ e ∈ d.examples, Text.beginsWith "#" e.content = false) (more : String) :
    (pageLines d).filter (Text.beginsWith ("#" ++ more)) =
      (headings d).filter (Text.beginsWith ("#" ++ more)) := by
  rw [← filter_mark_pageLines hdescription hexamples, List.filter_filter]
  refine List.filter_congr fun l _ => ?_
  cases hmore : Text.beginsWith ("#" ++ more) l with
  | false => rfl
  | true => rw [Text.beginsWith_of_beginsWith_append hmore]; rfl

end Markdown

/-- Behind its title, the Markdown page of a document has a heading for each part that is not
empty, once and in order, and under that of the examples a title for each of them.  No other line
looks like a heading. -/
theorem Markdown.headings_componentPage {d : Document} (h : ∀ s ∈ d.texts, Text.IsLine s)
    (hdescription : Text.beginsWith "#" (d.description.getD "") = false)
    (hexamples : ∀ e ∈ d.examples, Text.beginsWith "#" e.content = false) :
    (∃ rest, Text.lines (componentPage d) = pageTitle d :: rest ∧
      Text.beginsWith "# " (pageTitle d) = true ∧ ∀ l ∈ rest, Text.beginsWith "# " l = false) ∧
    (Text.lines (componentPage d)).filter (Text.beginsWith "## ") =
      (Page.parts.filter d.shows).map heading ∧
    (Text.lines (componentPage d)).filter (Text.beginsWith "### ") =
      d.examples.mapIdx fun i e =>
        "### " ++ Text.presentOr (Page.exampleTitle (i + 1)) e.title := by
  have hlines : Text.lines (componentPage d) = pageLines d := by
    rw [componentPage_eq_lines]
    exact Text.lines_intercalate (List.append_ne_nil_of_right_ne_nil _ (List.cons_ne_nil _ _))
      (isLine_of_mem_pageLines h)
  have hmarked := filter_beginsWith_pageLines hdescription hexamples
  have htitle : (pageLines d).filter (Text.beginsWith "# ") = [pageTitle d] :=
    (hmarked " ").trans (filter_title_headings d)
  rw [hlines]
  refine ⟨?_, (hmarked "# ").trans (filter_heading_headings d),
    (hmarked "## ").trans (filter_exampleTitle_headings d)⟩
  obtain ⟨rest, hrest⟩ := exists_pageLines_cons d
  rw [hrest, List.filter_cons_of_pos (levels_pageTitle d).1, List.cons_eq_cons,
    List.filter_eq_nil_iff] at htitle
  exact ⟨rest, hrest, (levels_pageTitle d).1, fun l hl => by simpa using htitle.2 l hl⟩

/-- A document whose texts have the marks of headings in them, but none at the beginning of a
line. -/
def Markdown.markedDocument : Document where
  displayName := some "# A"
  description := some " ## not a heading"
  examples := [⟨"<a>\t### </a>", none⟩, ⟨"`# `", some "## B"⟩]
  properties := [⟨"## p", some (.union [.simple "# a", .simple "|## b"]), some "### ", none⟩]
  slots := [⟨"# s", some "## "⟩]

theorem Markdown.headings_componentPage_marked :
    (∃ rest, Text.lines (componentPage markedDocument) = "# # A" :: rest ∧
      ∀ l ∈ rest, Text.beginsWith "# " l = false) ∧
    (Text.lines (componentPage markedDocument)).filter (Text.beginsWith "## ") =
      ["## 组件描述", "## 组件示例", "## Props", "## Slots"] ∧
    (Text.lines (componentPage markedDocument)).filter (Text.beginsWith "### ") =
      ["### 示例 1", "### ## B"] := by
  obtain ⟨⟨rest, hlines, -, hrest⟩, hparts, htitles⟩ :=
    @Markdown.headings_componentPage markedDocument (by decide +kernel) (by decide +kernel)
      (by decide +kernel)
  exact ⟨⟨rest, hlines, hrest⟩, hparts, htitles.trans (by decide +kernel)⟩

end ComponentReference
