import ComponentReference.Proofs.Page.Headings
import Mathlib.Data.List.TakeWhile

/-!
# The code of examples in Markdown

The code of an example stands on a Markdown page between the line that opens it and a fence, a
line of backticks alone.  The code is put there as it is, and the fence has the same length for
all of them.  So a reader, for whom the code ends at the first fence, finds all of the code, and
nothing else, exactly if the code has no fence among its own lines.

## Strategy

Lines, blocks and examples are joined with line feeds or with empty lines between them.  What is
joined is its first piece and then, for each of the others, what is put between and the piece
(`Text.intercalate_cons_eq`).  In this form the page is one list of texts (`pageLines_eq`), in
which the examples can be told from what is above and below, and the lines of the page are those
of the texts, one after the other (`Text.lines_intercalate_flatMap`).
-/

namespace ComponentReference

namespace Markdown

/-! ## Where the code stands -/

/-- The texts that an example adds to a page. -/
def exampleTexts (e : String × String) : List String :=
  ["", "### " ++ e.1, "", "```html", e.2, "```"]

/-- The texts on a page above its examples, if it has any. -/
def textsAboveExamples (d : Document) : List String :=
  pageTitle d ::
    (if d.shows .description then ["", heading .description, d.description.getD ""] else []) ++
    ["", heading .examples]

/-- The texts on a page below its examples. -/
def textsBelowExamples (d : Document) : List String :=
  (d.tables.flatMap fun t => "" :: tableBlockLines t) ++ [""]

/-- A page with examples is made of these texts, with line feeds between them. -/
theorem pageLines_eq {d : Document} (h : d.shows .examples = true) :
    pageLines d = textsAboveExamples d ++ d.titledExamples.flatMap exampleTexts ++
      textsBelowExamples d := by
  have hexamples : examplesBlockLines d.titledExamples =
      heading .examples :: d.titledExamples.flatMap exampleTexts := by
    rw [examplesBlockLines, Text.intercalate_cons_eq, List.flatMap_assoc]
    rfl
  rw [pageLines, blockLines, if_pos h, hexamples, List.cons_append, List.cons_append,
    Text.intercalate_cons_eq, List.flatMap_append, List.flatMap_append, List.flatMap_map,
    textsAboveExamples, textsBelowExamples]
  cases d.shows .description <;> simp

section

variable (d : Document) (i : Fin d.examples.length)

/-- The title under which an example is shown. -/
def exampleTitle : String :=
  Text.presentOr (Page.exampleTitle (i + 1)) d.examples[i].title

/-- The lines of a page above the line that opens the code of an example. -/
def linesAbove : List String :=
  (textsAboveExamples d ++ (d.titledExamples.take i).flatMap exampleTexts ++
    ["", "### " ++ exampleTitle d i, ""]).flatMap Text.lines

/-- The lines of a page below the fence that ends the code of an example. -/
def linesBelow : List String :=
  ((d.titledExamples.drop (i + 1)).flatMap exampleTexts ++ textsBelowExamples d).flatMap Text.lines

theorem titledExamples_eq : d.titledExamples = d.titledExamples.take i ++
    (exampleTitle d i, d.examples[i].content) :: d.titledExamples.drop (i + 1) := by
  have hi : i < d.titledExamples.length := by
    simp [Document.titledExamples]
  have hget : d.titledExamples[(i : ℕ)] = (exampleTitle d i, d.examples[i].content) := by
    simp [Document.titledExamples, exampleTitle]
  rw [← hget, ← List.drop_eq_getElem_cons hi, List.take_append_drop]

/-- All the lines of an example's code stand between the line that opens it and a fence. -/
theorem lines_componentPage : Text.lines (componentPage d) =
    linesAbove d i ++
      "```html" :: (Text.lines d.examples[i].content ++ "```" :: linesBelow d i) := by
  have hne : d.examples ≠ [] := List.ne_nil_of_length_pos (Nat.zero_lt_of_lt i.isLt)
  have hshows : d.shows .examples = true := by
    simp [Document.shows, hne]
  have htexts : pageLines d ≠ [] :=
    List.append_ne_nil_of_right_ne_nil _ (List.cons_ne_nil _ _)
  have hexample : (exampleTexts (exampleTitle d i, d.examples[i].content)).flatMap Text.lines =
      ["", "### " ++ exampleTitle d i, ""].flatMap Text.lines ++
        "```html" :: (Text.lines d.examples[i].content ++ ["```"]) := by
    have hopen : Text.lines "```html" = ["```html"] := Text.IsLine.lines_eq (by decide)
    have hclose : Text.lines "```" = ["```"] := Text.IsLine.lines_eq (by decide)
    simp [exampleTexts, hopen, hclose]
  have hexamples : d.titledExamples.flatMap exampleTexts =
      (d.titledExamples.take i).flatMap exampleTexts ++
        (exampleTexts (exampleTitle d i, d.examples[i].content) ++
          (d.titledExamples.drop (i + 1)).flatMap exampleTexts) := by
    rw [← List.flatMap_cons, ← List.flatMap_append, ← titledExamples_eq]
  calc Text.lines (componentPage d)
      = (pageLines d).flatMap Text.lines := by
        rw [componentPage_eq_lines, Text.lines_intercalate_flatMap htexts]
    _ = (textsAboveExamples d ++ d.titledExamples.flatMap exampleTexts ++
          textsBelowExamples d).flatMap Text.lines := by
        rw [pageLines_eq hshows]
    _ = _ := by
        rw [hexamples, linesAbove, linesBelow]
        simp only [List.flatMap_append, hexample, List.append_assoc, List.cons_append,
          List.nil_append]

end

/-! ## Where the code ends -/

/-- The line consists of three or more backticks and nothing else. -/
def IsFence (l : String) : Prop :=
  3 ≤ l.toList.length ∧ l.toList.all (· = '`')

instance (l : String) : Decidable (IsFence l) :=
  inferInstanceAs (Decidable (_ ∧ _))

/-- The lines of the code that is read from these lines: those before the first fence. -/
def codeLines (lines : List String) : List String :=
  lines.takeWhile fun l => ¬IsFence l

theorem codeLines_eq_self_iff {lines : List String} :
    codeLines lines = lines ↔ ∀ l ∈ lines, ¬IsFence l := by
  rw [codeLines, List.takeWhile_eq_self_iff]
  simp only [decide_eq_true_eq]

/-- What is below a fence is not read. -/
theorem codeLines_append_fence (lines : List String) {fence : String} (h : IsFence fence)
    (below : List String) : codeLines (lines ++ fence :: below) = codeLines lines := by
  rw [codeLines, List.takeWhile_append, List.takeWhile_cons_of_neg (by simpa using h),
    List.append_nil]
  split
  · next hall => exact ((List.takeWhile_prefix _).eq_of_length hall).symm
  · rfl

/-- The code of an example stands whole on the page, between the line that opens it and the fence
that ends it.  What is read there is the code up to its own first fence: all of it if it has none,
and then the first fence behind the opening line is the one that ends the example. -/
theorem codeLines_componentPage (d : Document) (i : Fin d.examples.length) :
    Text.lines (componentPage d) = linesAbove d i ++
        "```html" :: (Text.lines d.examples[i].content ++ "```" :: linesBelow d i) ∧
      codeLines (Text.lines d.examples[i].content ++ "```" :: linesBelow d i) =
        codeLines (Text.lines d.examples[i].content) ∧
      (codeLines (Text.lines d.examples[i].content ++ "```" :: linesBelow d i) =
          Text.lines d.examples[i].content ↔
        ∀ l ∈ Text.lines d.examples[i].content, ¬IsFence l) := by
  have hfence : IsFence "```" := by decide
  have hend := codeLines_append_fence (Text.lines d.examples[i].content) hfence (linesBelow d i)
  refine ⟨lines_componentPage d i, hend, ?_⟩
  rw [hend]
  exact codeLines_eq_self_iff

/-- A document with an example that has a fence in its code. -/
def fencedDocument : Document where
  displayName := some "A"
  examples := [⟨"<a>\n```\n<b>", none⟩]

/-- Of the three lines of this example's code only the first is read. -/
theorem codeLines_fencedDocument :
    Text.lines (componentPage fencedDocument) = linesAbove fencedDocument (0 : Fin 1) ++
        "```html" :: ["<a>", "```", "<b>", "```", ""] ∧
      Text.lines fencedDocument.examples[(0 : Fin 1)].content = ["<a>", "```", "<b>"] ∧
      codeLines ["<a>", "```", "<b>", "```", ""] = ["<a>"] := by
  decide +kernel

end Markdown

end ComponentReference
