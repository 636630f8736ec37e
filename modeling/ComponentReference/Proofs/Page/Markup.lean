import ComponentReference.Proofs.Page.Escaping
import ComponentReference.Proofs.Page.Tables
import Mathlib.Data.List.Forall2

/-!
# Code adds no markup to a page

Tags, attributes and their values are told apart by the characters `<`, `>`, `"` and `'`.
What a document shows as code has no say in where these stand on its page: documents that
differ in code alone have pages with the same markup characters in the same order.

## Strategy

Escaping replaces every character by itself (`htmlEntity`), in spite of its five passes, so
that no escaped text has a markup character (`markup_escapeHtml`).  Everything else is
congruence.  `SameMarkup` is kept by putting texts one after the other, hence by the lines
of a page, and the differences that `Document.SameButCode` admits are followed from the
cells to the rows, the tables and the page.  Where code is missing there is a dash, which is
not marked as code; so the two documents have to miss the same.
-/

namespace ComponentReference

namespace Html

/-- The characters by which HTML tells tags, attributes and their values apart. -/
def markupCharacters : List Char := ['<', '>', '"', '\'']

/-- The markup characters of a text, in order. -/
def markup (s : String) : List Char :=
  s.toList.filter (· ∈ markupCharacters)

theorem not_mem_htmlEntity {c x : Char} (hx : x ∈ markupCharacters) : x ∉ htmlEntity c := by
  by_cases hc : c ∈ htmlReplaced
  · have hreplaced : htmlReplaced.all fun c => markupCharacters.all (· ∉ htmlEntity c) := by
      decide +kernel
    exact of_decide_eq_true (List.all_eq_true.mp (List.all_eq_true.mp hreplaced c hc) x hx)
  · have hmarkup : x ∈ htmlReplaced :=
      mem_htmlReplaced_iff.mpr (.inr (by simpa [markupCharacters] using hx))
    rw [htmlEntity_of_not_mem hc, List.mem_singleton]
    rintro rfl
    exact hc hmarkup

@[simp] theorem markup_escapeHtml (s : String) : markup (escapeHtml s) = [] := by
  rw [markup, toList_escapeHtml, List.filter_eq_nil_iff]
  intro x hx hmarkup
  obtain ⟨c, -, hx⟩ := List.mem_flatMap.mp hx
  exact not_mem_htmlEntity (of_decide_eq_true hmarkup) hx

@[simp] theorem markup_append (s t : String) : markup (s ++ t) = markup s ++ markup t := by
  rw [markup, String.toList_append, List.filter_append]
  rfl

/-- The texts have the same markup characters in the same order. -/
def SameMarkup (s t : String) : Prop := markup s = markup t

theorem SameMarkup.append {s s' t t' : String} (hs : SameMarkup s s') (ht : SameMarkup t t') :
    SameMarkup (s ++ t) (s' ++ t') := by
  rw [SameMarkup, markup_append, markup_append, hs, ht]

/-- Code has no markup but its own tags. -/
theorem sameMarkup_htmlCode (s t : String) : SameMarkup (htmlCode s) (htmlCode t) := by
  simp [SameMarkup, htmlCode]

/-! ## Texts one after the other -/

theorem sameMarkup_intercalate (between : String) {texts texts' : List String}
    (h : List.Forall₂ SameMarkup texts texts') :
    SameMarkup (between.intercalate texts) (between.intercalate texts') := by
  induction h with
  | nil => rfl
  | cons hfirst hrest ih =>
      cases hrest with
      | nil => simpa using hfirst
      | cons _ _ =>
          rw [String.intercalate_cons_cons, String.intercalate_cons_cons]
          exact (hfirst.append rfl).append ih

theorem sameMarkup_refl (texts : List String) : List.Forall₂ SameMarkup texts texts :=
  List.forall₂_same.mpr fun _ _ => rfl

end Html

/-! ## Documents that differ in code alone -/

/-- The parameters have the same name and description. -/
structure Parameter.SameButCode (p p' : Parameter) : Prop where
  name : p.name = p'.name
  description : p.description = p'.description

/-- The events have the same name and description, and their parameters differ in their
types alone. -/
structure Event.SameButCode (e e' : Event) : Prop where
  name : e.name = e'.name
  description : e.description = e'.description
  parameters : List.Forall₂ Parameter.SameButCode e.parameters e'.parameters

/-- The members have the same name and description, and the same type unless both show one. -/
structure Member.SameButCode (m m' : Member) : Prop where
  name : m.name = m'.name
  description : m.description = m'.description
  type : m.typeLabel = m'.typeLabel ∨ m.typeLabel ≠ "-" ∧ m'.typeLabel ≠ "-"

/-- The properties have the same name and description, the same type unless the text of
neither is empty, and the same default value unless both have one that is not empty. -/
structure Property.SameButCode (p p' : Property) : Prop where
  name : p.name = p'.name
  description : p.description = p'.description
  type : p.type = p'.type ∨
    Format.html.typeText p.type ≠ "" ∧ Format.html.typeText p'.type ≠ ""
  defaultValue : p.defaultValue = p'.defaultValue ∨
    ∃ value value', p.defaultValue = some value ∧ p'.defaultValue = some value' ∧
      value ≠ "" ∧ value' ≠ ""

/-- The documents differ in what they show as code alone: the contents of examples, the types
of properties, members and parameters, and default values. -/
structure Document.SameButCode (d d' : Document) : Prop where
  displayName : d.displayName = d'.displayName
  description : d.description = d'.description
  examples : List.Forall₂ (fun e e' => e.title = e'.title) d.examples d'.examples
  properties : List.Forall₂ Property.SameButCode d.properties d'.properties
  members : List.Forall₂ Member.SameButCode d.members d'.members
  events : List.Forall₂ Event.SameButCode d.events d'.events
  slots : d.slots = d'.slots

namespace Html

/-! ## Cells -/

/-- The texts of the cells have the same markup. -/
def SameCell (c c' : Cell) : Prop :=
  SameMarkup (Format.html.cell c) (Format.html.cell c')

theorem sameCell_of_code {c c' : Cell} {s s' : String} (h : Format.html.cell c = htmlCode s)
    (h' : Format.html.cell c' = htmlCode s') : SameCell c c' := by
  rw [SameCell, h, h']
  exact sameMarkup_htmlCode s s'

theorem sameCell_propType {t t' : Option PropType}
    (h : t = t' ∨ Format.html.typeText t ≠ "" ∧ Format.html.typeText t' ≠ "") :
    SameCell (.propType t) (.propType t') := by
  obtain rfl | ⟨ht, ht'⟩ := h
  · rfl
  · exact sameCell_of_code (if_neg (mt String.isEmpty_iff.mp ht))
      (if_neg (mt String.isEmpty_iff.mp ht'))

theorem sameCell_defaultValue {v v' : Option String}
    (h : v = v' ∨ ∃ value value', v = some value ∧ v' = some value' ∧ value ≠ "" ∧ value' ≠ "") :
    SameCell (.defaultValue v) (.defaultValue v') := by
  obtain rfl | ⟨value, value', rfl, rfl, hvalue, hvalue'⟩ := h
  · rfl
  · exact sameCell_of_code (if_neg (mt String.isEmpty_iff.mp hvalue))
      (if_neg (mt String.isEmpty_iff.mp hvalue'))

theorem sameCell_memberType {label label' : String}
    (h : label = label' ∨ label ≠ "-" ∧ label' ≠ "-") :
    SameCell (.memberType label) (.memberType label') := by
  obtain rfl | ⟨hlabel, hlabel'⟩ := h
  · rfl
  · exact sameCell_of_code (if_neg hlabel) (if_neg hlabel')

/-- Parameters show their types as code, even if they have none. -/
theorem sameMarkup_parameterText {p p' : Parameter} (h : p.SameButCode p') :
    SameMarkup (Format.html.parameterText p) (Format.html.parameterText p') := by
  unfold Format.parameterText
  rw [h.name, h.description]
  exact (SameMarkup.append rfl (sameMarkup_htmlCode _ _)).append rfl

theorem sameCell_parameters {ps ps' : List Parameter}
    (h : List.Forall₂ Parameter.SameButCode ps ps') :
    SameCell (.parameters ps) (.parameters ps') := by
  cases h with
  | nil => rfl
  | cons hp hps =>
      refine sameMarkup_intercalate _ (List.rel_map ?_ (List.Forall₂.cons hp hps))
      exact fun _ _ hsame => sameMarkup_parameterText hsame

/-! ## Rows and tables -/

/-- The tables have the same heading and columns, and cells with the same markup. -/
structure SameTable (t t' : Table) : Prop where
  title : t.title = t'.title
  columns : t.columns = t'.columns
  rows : List.Forall₂ (List.Forall₂ SameCell) t.rows t'.rows

/-- Tables of items are the same up to code if the rows of the items are. -/
theorem sameTable_of_rows {α : Type} {related : α → α → Prop} (row : α → List Cell)
    (hrow : ∀ a a', related a a' → List.Forall₂ SameCell (row a) (row a'))
    {title : Page.Section} {columns : List Page.Column} {items items' : List α}
    (h : List.Forall₂ related items items') :
    SameTable ⟨title, columns, items.map row⟩ ⟨title, columns, items'.map row⟩ :=
  ⟨rfl, rfl, List.rel_map (fun a a' ha => hrow a a' ha) h⟩

theorem sameCell_row_property {p p' : Property} (h : p.SameButCode p') :
    List.Forall₂ SameCell p.row p'.row := by
  unfold Property.row
  rw [h.name, h.description]
  exact .cons rfl (.cons (sameCell_propType h.type)
    (.cons (sameCell_defaultValue h.defaultValue) (.cons rfl .nil)))

theorem sameCell_row_member {m m' : Member} (h : m.SameButCode m') :
    List.Forall₂ SameCell m.row m'.row := by
  unfold Member.row
  rw [h.name, h.description]
  exact .cons rfl (.cons (sameCell_memberType h.type) (.cons rfl .nil))

theorem sameCell_row_event {e e' : Event} (h : e.SameButCode e') :
    List.Forall₂ SameCell e.row e'.row := by
  unfold Event.row
  rw [h.name, h.description]
  exact .cons rfl (.cons (sameCell_parameters h.parameters) (.cons rfl .nil))

theorem SameTable.isEmpty_rows {t t' : Table} (h : SameTable t t') :
    t.rows.isEmpty = t'.rows.isEmpty := by
  have hrows := h.rows
  generalize t.rows = rows, t'.rows = rows' at hrows
  cases hrows <;> rfl

theorem sameTable_tables {d d' : Document} (h : d.SameButCode d') :
    List.Forall₂ SameTable d.tables d'.tables := by
  have hslots : List.Forall₂ Eq d.slots d'.slots := h.slots ▸ List.forall₂_same.mpr fun _ _ => rfl
  have hslot : ∀ s s' : Slot, s = s' → List.Forall₂ SameCell s.row s'.row := by
    rintro s _ rfl
    exact List.forall₂_same.mpr fun _ _ => rfl
  refine List.rel_filter (fun t t' ht => iff_of_eq ?_) ?_
  · exact congrArg (fun isEmpty => (!isEmpty) = true) ht.isEmpty_rows
  exact .cons (sameTable_of_rows Property.row (fun _ _ => sameCell_row_property) h.properties)
    (.cons (sameTable_of_rows Member.row (fun _ _ => sameCell_row_member) h.members)
      (.cons (sameTable_of_rows Event.row (fun _ _ => sameCell_row_event) h.events)
        (.cons (sameTable_of_rows Slot.row hslot hslots) .nil)))

/-- The lines of a table have the markup of its headings and cells, and that of its own. -/
theorem sameMarkup_tableLines {t t' : Table} (h : SameTable t t') :
    List.Forall₂ SameMarkup (tableLines (t.grid .html)) (tableLines (t'.grid .html)) := by
  have hrow : ∀ cells cells', List.Forall₂ SameCell cells cells' →
      List.Forall₂ SameMarkup (cells.map Format.html.cell) (cells'.map Format.html.cell) :=
    fun cells cells' h => List.forall₂_map_left_iff.mpr (List.forall₂_map_right_iff.mpr h)
  have hrows : List.Forall₂ (List.Forall₂ SameMarkup) (t.grid .html).rows (t'.grid .html).rows :=
    List.rel_map hrow h.rows
  have hcell : ∀ cell cell', SameMarkup cell cell' →
      SameMarkup ("            <td>" ++ cell ++ "</td>") ("            <td>" ++ cell' ++ "</td>") :=
    fun cell cell' hc => (SameMarkup.append rfl hc).append rfl
  have htitle : (t.grid .html).title = (t'.grid .html).title := h.title
  have hcolumns : (t.grid .html).columns = (t'.grid .html).columns := h.columns
  unfold tableLines
  rw [htitle, hcolumns]
  refine List.rel_append (List.rel_append (sameMarkup_refl _) ?_) (sameMarkup_refl _)
  refine List.rel_flatMap hrows fun cells cells' hcells => .cons rfl ?_
  exact List.rel_append (List.rel_map (fun c c' hc => hcell c c' hc) hcells) (sameMarkup_refl _)

/-! ## Pages -/

/-- Examples have the same titles, and as many lines. -/
theorem sameMarkup_examples {d d' : Document} (h : d.SameButCode d') :
    List.Forall₂ (fun e e' : String × String => e.1 = e'.1) d.titledExamples d'.titledExamples := by
  have hlength := h.examples.length_eq
  refine List.forall₂_iff_get.mpr ⟨by simpa [Document.titledExamples] using hlength, ?_⟩
  intro i hi hi'
  simp only [Document.titledExamples, List.length_mapIdx] at hi hi'
  have htitle := h.examples.get hi hi'
  simp only [List.get_eq_getElem] at htitle
  simp [Document.titledExamples, htitle]

theorem sameMarkup_exampleLines (title content content' : String) :
    List.Forall₂ SameMarkup (exampleLines title content) (exampleLines title content') :=
  .cons rfl (.cons rfl (.cons ((SameMarkup.append rfl (sameMarkup_htmlCode _ _)).append rfl)
    (sameMarkup_refl _)))

theorem sameMarkup_bodyLines {d d' : Document} (h : d.SameButCode d') :
    List.Forall₂ SameMarkup (bodyLines d) (bodyLines d') := by
  have hexamples := sameMarkup_examples h
  unfold bodyLines
  rw [h.displayName, h.description]
  refine List.rel_append (List.rel_append (sameMarkup_refl _) ?_) ?_
  · generalize d.titledExamples = examples, d'.titledExamples = examples' at hexamples
    cases hexamples with
    | nil => exact .nil
    | cons hfirst hrest =>
        have hall : List.Forall₂ (fun e e' : String × String => e.1 = e'.1) _ _ :=
          .cons hfirst hrest
        refine .cons rfl (List.rel_flatMap hall ?_)
        rintro ⟨title, content⟩ ⟨_, content'⟩ rfl
        exact sameMarkup_exampleLines title content content'
  · rw [tables_eq, tables_eq, List.flatMap_map, List.flatMap_map]
    exact List.rel_flatMap (sameTable_tables h) fun t t' ht => sameMarkup_tableLines ht

theorem sameMarkup_page (title : String) (rules : List String) {body body' : List String}
    (h : List.Forall₂ SameMarkup body body') :
    SameMarkup (page title rules body) (page title rules body') :=
  sameMarkup_intercalate _ (List.rel_append (List.rel_append (sameMarkup_refl _) h)
    (sameMarkup_refl _))

/-- Documents that differ in code alone have pages with the same markup characters, in the
same order. -/
theorem markup_componentPage {d d' : Document} (h : d.SameButCode d')
    (libraryName componentName : String) :
    markup (componentPage d libraryName componentName) =
      markup (componentPage d' libraryName componentName) :=
  sameMarkup_page _ _ (sameMarkup_bodyLines h)

end Html

/-! ## Hostile code -/

/-- A document that shows the text `code` wherever a document shows code, between a nested
union, a name with markup of its own and a description that is markup. -/
def Sample.coded (code : String) : Document where
  displayName := some "A<b>"
  description := some "<em>\"'</em>"
  examples := [⟨code, none⟩, ⟨code, some "<i>"⟩]
  properties :=
    [⟨"p", some (.union [.simple "", .union [.simple code, .simple ""]]), some code, none⟩]
  slots := [⟨"s", some "<br>"⟩]
  members := [⟨"m", [⟨"since", some "<1>"⟩, ⟨"type", some code⟩], none⟩]
  events := [⟨some "e", none, [⟨some "x", [code, code], some "\"x\""⟩, ⟨none, [], none⟩]⟩]

theorem Html.markup_componentPage_script :
    (Sample.coded "x").SameButCode (Sample.coded "</code><script src='x'>\"&lt;") ∧
      markup (componentPage (Sample.coded "x") "Docs" "A<b>") =
        markup (componentPage (Sample.coded "</code><script src='x'>\"&lt;") "Docs" "A<b>") := by
  have hsame : (Sample.coded "x").SameButCode (Sample.coded "</code><script src='x'>\"&lt;") := by
    refine ⟨rfl, rfl, .cons rfl (.cons rfl .nil), .cons ⟨rfl, rfl, ?_, ?_⟩ .nil,
      .cons ⟨rfl, rfl, ?_⟩ .nil, .cons ⟨rfl, rfl, .cons ⟨rfl, rfl⟩ (.cons ⟨rfl, rfl⟩ .nil)⟩ .nil,
      rfl⟩
    · exact .inr (by decide +kernel)
    · exact .inr ⟨_, _, rfl, rfl, by decide, by decide⟩
    · exact .inr (by decide +kernel)
  exact ⟨hsame, markup_componentPage hsame "Docs" "A<b>"⟩

end ComponentReference
