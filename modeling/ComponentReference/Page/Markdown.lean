import ComponentReference.Page.Table

/-!
# Component pages in Markdown

A page is a sequence of blocks with an empty line between any two.  Every block
but the first begins with the heading of its part.
-/

namespace ComponentReference.Markdown

/-! ## The cells of tables -/

def propertyRow (p : Property) : List String :=
  let type := Format.markdown.typeText p.type
  [p.name,
    if type.isEmpty then Page.emptyCell else Format.markdown.code type,
    match p.defaultValue with
    | some value => quoteMarkdownCode value
    | none => Page.emptyCell,
    Text.presentOr Page.emptyCell p.description]

def memberRow (m : Member) : List String :=
  [m.name,
    if m.typeLabel = Page.emptyCell then Page.emptyCell else Format.markdown.code m.typeLabel,
    Text.presentOr Page.emptyCell m.description]

def eventRow (e : Event) : List String :=
  [Text.presentOr Page.emptyCell e.name, Format.markdown.parametersText e.parameters,
    Text.presentOr Page.emptyCell e.description]

def slotRow (s : Slot) : List String :=
  [s.name, Text.presentOr Page.emptyCell s.description]

/-- The tables of a page. -/
def tables (d : Document) : List Page.Grid :=
  Page.grids .properties [.name, .type, .default, .description] propertyRow d.properties ++
    Page.grids .members [.name, .type, .description] memberRow d.members ++
    Page.grids .events [.name, .parameters, .description] eventRow d.events ++
    Page.grids .slots [.name, .description] slotRow d.slots

/-! ## The layout -/

/-- The cells of a table's row between pipes. -/
def row (cells : List String) : String :=
  "| " ++ " | ".intercalate cells ++ " |"

/-- The dashes under a column's heading. -/
def rule : Page.Column → String
  | .default => "--------"
  | _ => "------"

/-- The lines of a table. -/
def tableLines (g : Page.Grid) : List String :=
  row (g.columns.map Page.Column.title) ::
    ("|" ++ "|".intercalate (g.columns.map rule) ++ "|") :: g.rows.map row

/-- The heading of a part. -/
def heading (title : Page.Section) : String :=
  "## " ++ title.title

def tableBlock (g : Page.Grid) : String :=
  heading g.title ++ "\n\n" ++ "\n".intercalate (tableLines g)

/-- An example: its title and its code inside a fence. -/
def exampleLines (title content : String) : List String :=
  ["### " ++ title, "```html\n" ++ content ++ "\n```"]

/-- All examples under one heading. -/
def examplesBlock (examples : List (String × String)) : String :=
  "\n\n".intercalate
    (heading .examples :: examples.flatMap fun (title, content) => exampleLines title content)

/-- The name that heads the page. -/
def pageTitle (d : Document) : String :=
  "# " ++ d.displayName.getD "None"

/-- The blocks of a page. -/
def blocks (d : Document) : List String :=
  pageTitle d ::
    (match d.description with
      | some s => if s.isEmpty then [] else [heading .description ++ "\n" ++ s]
      | none => []) ++
    (match d.titledExamples with
      | [] => []
      | examples => [examplesBlock examples]) ++
    (tables d).map tableBlock

/-- The page of a component. -/
def componentPage (d : Document) : String :=
  "\n\n".intercalate (blocks d) ++ "\n"

end ComponentReference.Markdown
