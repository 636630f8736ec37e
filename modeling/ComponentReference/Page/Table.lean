import ComponentReference.Page.Format

/-!
# What pages are made of

The tables and examples of a page, before they are laid out.  A table belongs to one part
of a document, and a part without items has none.
-/

namespace ComponentReference

namespace Page

/-- A table with its cells as they are written. -/
structure Grid where
  title : Section
  columns : List Column
  rows : List (List String)

/-- The table of a part with a row for each of its items; none without items. -/
def grids {α : Type} (title : Section) (columns : List Column) (row : α → List String)
    (items : List α) : List Grid :=
  if items.isEmpty then [] else [⟨title, columns, items.map row⟩]

end Page

/-- The examples with their titles; one without is numbered by its place. -/
def Document.titledExamples (d : Document) : List (String × String) :=
  d.examples.mapIdx fun i e => (Text.presentOr (Page.exampleTitle (i + 1)) e.title, e.content)

end ComponentReference
