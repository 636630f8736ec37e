import ComponentReference.Page.Html
import ComponentReference.Page.Markdown

/-!
# The tables of both formats

Each format builds the tables of its pages in its own way: it decides for itself what stands in
a cell that has nothing to show, and when a table is left out.  Here is what they have in common.
`Document.tables` lists the tables of a document before any format, with a `Cell` for what is
shown, and `Format.cell` says how a format writes a cell.  The tables of either format are these
tables, written in the format (`Markdown.tables_eq`, `Html.tables_eq`).
-/

namespace ComponentReference

/-! ## What tables show -/

/-- What one cell of a table shows. -/
inductive Cell where
  /-- A text as it is. -/
  | text (s : String)
  /-- The type of a property. -/
  | propType (t : Option PropType)
  /-- The default value of a property. -/
  | defaultValue (value : Option String)
  /-- The type of an exposed member. -/
  | memberType (label : String)
  /-- The parameters of an event. -/
  | parameters (ps : List Parameter)

/-- A text that may be missing. -/
def Cell.optional (s : Option String) : Cell :=
  .text (Text.presentOr Page.emptyCell s)

/-- A table under its heading. -/
structure Table where
  title : Page.Section
  columns : List Page.Column
  rows : List (List Cell)

def Property.row (p : Property) : List Cell :=
  [.text p.name, .propType p.type, .defaultValue p.defaultValue, .optional p.description]

def Member.row (m : Member) : List Cell :=
  [.text m.name, .memberType m.typeLabel, .optional m.description]

def Event.row (e : Event) : List Cell :=
  [.optional e.name, .parameters e.parameters, .optional e.description]

def Slot.row (s : Slot) : List Cell :=
  [.text s.name, .optional s.description]

/-- The tables of a document, without those that would have no rows. -/
def Document.tables (d : Document) : List Table :=
  [⟨.properties, [.name, .type, .default, .description], d.properties.map Property.row⟩,
    ⟨.members, [.name, .type, .description], d.members.map Member.row⟩,
    ⟨.events, [.name, .parameters, .description], d.events.map Event.row⟩,
    ⟨.slots, [.name, .description], d.slots.map Slot.row⟩].filter (!·.rows.isEmpty)

/-- A cell as the format writes it.  Where there is nothing to show as code, the
cell is filled with a dash. -/
def Format.cell (f : Format) : Cell → String
  | .text s => s
  | .propType t =>
    let s := f.typeText t
    if s.isEmpty then Page.emptyCell else f.code s
  | .defaultValue none => Page.emptyCell
  | .defaultValue (some value) =>
    match f with
    | .markdown => quoteMarkdownCode value
    | .html => if value.isEmpty then Page.emptyCell else htmlCode value
  | .memberType label => if label = Page.emptyCell then Page.emptyCell else f.code label
  | .parameters ps => f.parametersText ps

/-- The table as the format writes it. -/
def Table.grid (t : Table) (f : Format) : Page.Grid where
  title := t.title
  columns := t.columns
  rows := t.rows.map (·.map f.cell)

/-! ## Both formats show the same tables -/

/-- The rows of a part are written in the format if each row is. -/
theorem Page.grids_eq {α : Type} {f : Format} {title : Page.Section} {columns : List Page.Column}
    {row : α → List String} {cells : α → List Cell} {items : List α}
    (hrow : ∀ a, row a = (cells a).map f.cell) :
    Page.grids title columns row items =
      ([Table.mk title columns (items.map cells)].filter (!·.rows.isEmpty)).map (·.grid f) := by
  cases items with
  | nil => rfl
  | cons a more =>
      have hrows : (a :: more).map row = ((a :: more).map cells).map (·.map f.cell) := by
        rw [List.map_map]
        exact List.map_congr_left fun a _ => hrow a
      rw [Page.grids, hrows]
      rfl

/-- The tables of a document, part by part. -/
theorem Document.tables_eq_append (d : Document) : d.tables =
    [Table.mk .properties [.name, .type, .default, .description]
        (d.properties.map Property.row)].filter (!·.rows.isEmpty) ++
      [Table.mk .members [.name, .type, .description] (d.members.map Member.row)].filter
        (!·.rows.isEmpty) ++
      [Table.mk .events [.name, .parameters, .description] (d.events.map Event.row)].filter
        (!·.rows.isEmpty) ++
      [Table.mk .slots [.name, .description] (d.slots.map Slot.row)].filter (!·.rows.isEmpty) := by
  rw [← List.filter_append, ← List.filter_append, ← List.filter_append]
  rfl

theorem Member.typeLabel_ne_empty (m : Member) : m.typeLabel ≠ "" := by
  intro hempty
  unfold typeLabel typeText at hempty
  split at hempty
  · next tag _ =>
      rcases hdescription : tag.description.filter (!·.isEmpty) with _ | s
      · rw [hdescription] at hempty
        exact absurd hempty (by decide)
      · rw [hdescription] at hempty
        obtain ⟨-, hs⟩ := Option.filter_eq_some_iff.mp hdescription
        rw [show s = "" from hempty] at hs
        exact absurd hs (by decide)
  · exact absurd hempty (by decide)

namespace Markdown

theorem propertyRow_eq (p : Property) : propertyRow p = p.row.map Format.markdown.cell := by
  rw [propertyRow, Property.row]
  cases p.defaultValue <;> rfl

/-- The tables of a Markdown page show those of the document. -/
theorem tables_eq (d : Document) : tables d = d.tables.map (·.grid .markdown) := by
  rw [tables, Page.grids_eq propertyRow_eq,
    Page.grids_eq (show ∀ m : Member, memberRow m = m.row.map Format.markdown.cell from
      fun _ => rfl),
    Page.grids_eq (show ∀ e : Event, eventRow e = e.row.map Format.markdown.cell from
      fun _ => rfl),
    Page.grids_eq (show ∀ s : Slot, slotRow s = s.row.map Format.markdown.cell from
      fun _ => rfl), d.tables_eq_append, List.map_append, List.map_append, List.map_append]

end Markdown

namespace Html

theorem propertyRow_eq (p : Property) : propertyRow p = p.row.map Format.html.cell := by
  rw [propertyRow, Property.row]
  cases p.defaultValue <;> rfl

/-- The type of a member is never empty, so that it is shown as code unless it is a dash. -/
theorem memberRow_eq (m : Member) : memberRow m = m.row.map Format.html.cell := by
  have hlabel : ¬m.typeLabel.isEmpty := fun h => m.typeLabel_ne_empty (String.isEmpty_iff.mp h)
  rw [memberRow, codeOrDash, if_neg hlabel]
  rfl

/-- The tables of an HTML page show those of the document. -/
theorem tables_eq (d : Document) : tables d = d.tables.map (·.grid .html) := by
  rw [tables, Page.grids_eq propertyRow_eq, Page.grids_eq memberRow_eq,
    Page.grids_eq (show ∀ e : Event, eventRow e = e.row.map Format.html.cell from
      fun _ => rfl),
    Page.grids_eq (show ∀ s : Slot, slotRow s = s.row.map Format.html.cell from
      fun _ => rfl), d.tables_eq_append, List.map_append, List.map_append, List.map_append]

end Html

end ComponentReference
