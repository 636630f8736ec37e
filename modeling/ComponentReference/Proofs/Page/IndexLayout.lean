import ComponentReference.Page.Basic
import ComponentReference.Proofs.Text.Lines

/-!
# The layout of the index page

The index page is what stands before its items, one item for each component, and what stands
behind them.  An item says nothing of the other components, and the rest of the page says
nothing of any.

The formats build this page in different ways, but differ only in what they write around the
texts that the page shows.  An `IndexLayout` has just that, and `Page.body_index` says how the
page is made up from it.  A text that may be missing stands in a `Frame`, which is there only
if the text is.
-/

namespace ComponentReference

/-! ## Parts with a text in them -/

/-- What is written around a text that may be missing. -/
structure Frame where
  front : String
  back : String
deriving DecidableEq, Repr

/-- The part of a page with the text in it.  Without a text there is no such part. -/
def Frame.around (f : Frame) (s : String) : String :=
  if s.isEmpty then "" else f.front ++ s ++ f.back

theorem Frame.around_eq_empty_iff (f : Frame) (s : String) : f.around s = "" ↔ s = "" := by
  rw [around]
  split
  · next h => exact iff_of_true rfl (String.isEmpty_iff.mp h)
  · next h => simp_all [String.append_eq_empty_iff]

/-- Lines for a text by itself are such a part. -/
theorem Frame.unlines_linesOf {f : Frame} {s : String} {lines : List String}
    (h : Text.unlines lines = f.front ++ s ++ f.back) :
    Text.unlines (linesOf s lines) = f.around s := by
  rw [linesOf, around]
  split
  · rfl
  · exact h

/-! ## Layouts -/

/-- What a format writes around the texts of an index page. -/
structure IndexLayout where
  /-- The title of the page and all that comes before it. -/
  title : (name : String) → String
  description : Frame
  custom : Frame
  listHeading : String
  /-- The link to the page of a component. -/
  link : (name : String) → String
  itemDescription : Frame
  itemEnd : String
  /-- What comes behind the items. -/
  tail : String

/-- What comes before the items. -/
def IndexLayout.head (l : IndexLayout) (config : Config) (custom : String) : String :=
  l.title config.docName ++ l.description.around config.docDescription ++
    l.custom.around custom ++ l.listHeading

/-- The item for a component. -/
def IndexLayout.item (l : IndexLayout) (e : IndexEntry) : String :=
  l.link e.name ++ l.itemDescription.around e.description ++ l.itemEnd

namespace Markdown

def indexLayout : IndexLayout where
  title name := "# " ++ name ++ "\n\n"
  description := ⟨"", "\n\n"⟩
  custom := ⟨"", "\n\n"⟩
  listHeading := heading .components ++ "\n\n"
  link name := "- [" ++ name ++ "](" ++ name ++ ".md)\n"
  itemDescription := ⟨"  ", "\n"⟩
  itemEnd := "\n"
  tail := ""

theorem unlines_indexHead (config : Config) (custom : String) :
    Text.unlines (indexHead config custom) = indexLayout.head config custom := by
  have hdescription : Text.unlines (linesOf config.docDescription [config.docDescription, ""]) =
      indexLayout.description.around config.docDescription :=
    Frame.unlines_linesOf (by simp [indexLayout, String.append_assoc])
  have hcustom : Text.unlines (linesOf custom [custom, ""]) = indexLayout.custom.around custom :=
    Frame.unlines_linesOf (by simp [indexLayout, String.append_assoc])
  rw [indexHead, Text.unlines_append, Text.unlines_append, Text.unlines_append, hdescription,
    hcustom, IndexLayout.head]
  simp [indexLayout, String.append_assoc]

theorem unlines_indexItem (e : IndexEntry) :
    Text.unlines (indexItem e) = indexLayout.item e := by
  have hdescription : Text.unlines (linesOf e.description ["  " ++ e.description]) =
      indexLayout.itemDescription.around e.description :=
    Frame.unlines_linesOf (by simp [indexLayout, String.append_assoc])
  rw [indexItem, List.cons_append, Text.unlines_cons, Text.unlines_append, hdescription,
    IndexLayout.item]
  simp [indexLayout, String.append_assoc]

/-- Every line of the page is ended, so that the page is head, items and nothing behind them. -/
theorem indexPage_eq (config : Config) (entries : List IndexEntry) (custom : String) :
    indexPage config entries custom =
      indexLayout.head config custom ++ String.join (entries.map indexLayout.item) ++
        indexLayout.tail := by
  have hlines : indexHead config custom ++ entries.flatMap indexItem ≠ [] := by
    simp [indexHead]
  rw [indexPage, Text.intercalate_append_feed hlines, Text.unlines_append, unlines_indexHead,
    Text.unlines_flatMap, funext unlines_indexItem, indexLayout, String.append_empty]

end Markdown

namespace Html

/-- The lines of a page before those of its body. -/
def frontLines (title : String) (rules : List String) : List String :=
  ["<!DOCTYPE html>",
    "<html lang=\"en\">",
    "<head>",
    "    <meta charset=\"UTF-8\">",
    "    <meta name=\"viewport\" content=\"width=device-width, initial-scale=1.0\">",
    "    <title>" ++ title ++ "</title>",
    "    <style>"] ++
  rules ++
  ["    </style>",
    "</head>",
    "<body>"]

theorem page_eq (title : String) (rules body : List String) :
    page title rules body =
      Text.unlines (frontLines title rules) ++ Text.unlines body ++ "</body>\n</html>" := by
  have hlines : page title rules body =
      "\n".intercalate (frontLines title rules ++ body ++ ["</body>"] ++ ["</html>"]) :=
    congrArg "\n".intercalate (List.append_assoc _ ["</body>"] ["</html>"]).symm
  rw [hlines, Text.intercalate_concat, Text.unlines_append, Text.unlines_append]
  simp [String.append_assoc]

def indexLayout : IndexLayout where
  title name := Text.unlines (frontLines name indexStyle) ++ "    <h1>" ++ name ++ "</h1>\n"
  description := ⟨"    <p class=\"doc-description\">", "</p>\n"⟩
  custom := ⟨"", "\n"⟩
  listHeading := heading .components ++ "\n    <ul class=\"components-list\">\n"
  link name :=
    Text.unlines ["        <li class=\"component-item\">",
      "            <a href=\"" ++ name ++ ".html\" class=\"component-link\">" ++ name ++ "</a>"]
  itemDescription := ⟨"            <p class=\"component-desc\">", "</p>\n"⟩
  itemEnd := "        </li>\n"
  tail := "    </ul>\n</body>\n</html>"

theorem unlines_indexHead (config : Config) (custom : String) :
    Text.unlines (frontLines config.docName indexStyle) ++
        Text.unlines (indexHead config custom) =
      indexLayout.head config custom := by
  have hdescription : Text.unlines (linesOf config.docDescription
        ["    <p class=\"doc-description\">" ++ config.docDescription ++ "</p>"]) =
      indexLayout.description.around config.docDescription :=
    Frame.unlines_linesOf (by simp [indexLayout, String.append_assoc])
  have hcustom : Text.unlines (linesOf custom [custom]) = indexLayout.custom.around custom :=
    Frame.unlines_linesOf (by simp [indexLayout])
  rw [indexHead, Text.unlines_append, Text.unlines_append, Text.unlines_append, hdescription,
    hcustom, IndexLayout.head]
  simp [indexLayout, String.append_assoc]

theorem unlines_indexItem (e : IndexEntry) :
    Text.unlines (indexItem e) = indexLayout.item e := by
  have hdescription : Text.unlines (linesOf e.description
        ["            <p class=\"component-desc\">" ++ e.description ++ "</p>"]) =
      indexLayout.itemDescription.around e.description :=
    Frame.unlines_linesOf (by simp [indexLayout, String.append_assoc])
  rw [indexItem, Text.unlines_append, Text.unlines_append, hdescription, IndexLayout.item]
  simp [indexLayout, String.append_assoc]

theorem indexPage_eq (config : Config) (entries : List IndexEntry) (custom : String) :
    indexPage config entries custom =
      indexLayout.head config custom ++ String.join (entries.map indexLayout.item) ++
        indexLayout.tail := by
  have htail : indexLayout.tail = Text.unlines ["    </ul>"] ++ "</body>\n</html>" := by
    simp [indexLayout]
  rw [indexPage, page_eq, Text.unlines_append, Text.unlines_append, Text.unlines_flatMap,
    funext unlines_indexItem, htail, ← unlines_indexHead]
  simp only [String.append_assoc]

end Html

/-! ## The index page -/

/-- What the format writes around the texts of an index page. -/
def Format.indexLayout : Format → IndexLayout
  | .markdown => Markdown.indexLayout
  | .html => Html.indexLayout

/-- The index page is its head, the items for its components in their order, and its tail.  The
descriptions and the content of the user's own have a part of the page if and only if they are
not empty. -/
theorem Page.body_index (config : Config) (entries : List IndexEntry) (custom : String) :
    (index config entries custom).body =
        config.format.indexLayout.head config custom ++
          String.join (entries.map config.format.indexLayout.item) ++
          config.format.indexLayout.tail ∧
      (config.format.indexLayout.description.around config.docDescription = "" ↔
        config.docDescription = "") ∧
      (config.format.indexLayout.custom.around custom = "" ↔ custom = "") ∧
      ∀ e ∈ entries, config.format.indexLayout.itemDescription.around e.description = "" ↔
        e.description = "" := by
  refine ⟨?_, Frame.around_eq_empty_iff _ _, Frame.around_eq_empty_iff _ _,
    fun e _ => Frame.around_eq_empty_iff _ _⟩
  unfold index
  cases config.format with
  | markdown => rw [Format.indexLayout, ← Markdown.indexPage_eq]
  | html => rw [Format.indexLayout, ← Html.indexPage_eq]

end ComponentReference
