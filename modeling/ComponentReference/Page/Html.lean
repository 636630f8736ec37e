import ComponentReference.Page.Table

/-!
# Component pages in HTML

A page is a list of lines.  The texts of a document stand in them as they are,
except for code, which is escaped.
-/

namespace ComponentReference.Html

/-! ## The cells of tables -/

/-- A text as code; a dash if it is empty. -/
def codeOrDash (s : String) : String :=
  if s.isEmpty then Page.emptyCell else htmlCode s

def propertyRow (p : Property) : List String :=
  [p.name, codeOrDash (Format.html.typeText p.type),
    match p.defaultValue with
    | some value => codeOrDash value
    | none => Page.emptyCell,
    Text.presentOr Page.emptyCell p.description]

def memberRow (m : Member) : List String :=
  [m.name,
    if m.typeLabel = Page.emptyCell then Page.emptyCell else codeOrDash m.typeLabel,
    Text.presentOr Page.emptyCell m.description]

def eventRow (e : Event) : List String :=
  [Text.presentOr Page.emptyCell e.name, Format.html.parametersText e.parameters,
    Text.presentOr Page.emptyCell e.description]

def slotRow (s : Slot) : List String :=
  [s.name, Text.presentOr Page.emptyCell s.description]

/-- The tables of a page. -/
def tables (d : Document) : List Page.Grid :=
  Page.grids .properties [.name, .type, .default, .description] propertyRow d.properties ++
    Page.grids .members [.name, .type, .description] memberRow d.members ++
    Page.grids .events [.name, .parameters, .description] eventRow d.events ++
    Page.grids .slots [.name, .description] slotRow d.slots

/-! ## The layout -/

/-- A rule of a style sheet. -/
def styleRule (selector declarations : String) : String :=
  "        " ++ selector ++ " \x7b " ++ declarations ++ " \x7d"

/-- The lines of a page: head, title and style rules, and the lines of its body. -/
def page (title : String) (rules : List String) (body : List String) : String :=
  "\n".intercalate <|
    ["<!DOCTYPE html>",
      "<html lang=\"en\">",
      "<head>",
      "    <meta charset=\"UTF-8\">",
      "    <meta name=\"viewport\" content=\"width=device-width, initial-scale=1.0\">",
      "    <title>" ++ title ++ "</title>",
      "    <style>"] ++
    rules ++
    ["    </style>",
      "</head>",
      "<body>"] ++
    body ++
    ["</body>",
      "</html>"]

/-- The style of a component's page. -/
def componentStyle : List String :=
  [styleRule "body"
      "font-family: Arial, sans-serif; max-width: 800px; margin: 0 auto; padding: 20px;",
    styleRule "h1" "color: #2c3e50; border-bottom: 2px solid #3498db; padding-bottom: 10px;",
    styleRule "h2" "color: #3498db; margin-top: 30px;",
    styleRule "h3" "color: #2c3e50; margin-top: 20px;",
    styleRule ".description"
      ("font-size: 1.1em; line-height: 1.6; margin: 20px 0; padding: 15px; " ++
        "background-color: #f8f9fa; border-left: 4px solid #3498db;"),
    styleRule ".example-container" "margin: 20px 0;",
    styleRule ".example-title" "font-weight: bold; margin-bottom: 10px;",
    styleRule ".code-block"
      ("font-family: monospace; background-color: #f8f9fa; padding: 15px; " ++
        "border-radius: 4px; overflow-x: auto; font-size: 0.9em;"),
    styleRule "table" "width: 100%; border-collapse: collapse; margin: 16px 0;",
    styleRule "td, th" "padding: 12px 8px; text-align: left; border: 1px solid #ddd;",
    styleRule "th" "background-color: #f2f2f2; font-weight: bold;",
    styleRule "tr:nth-child(even)" "background-color: #f9f9f9;",
    styleRule ".back-link" "margin-bottom: 20px; display: inline-block;",
    styleRule "code" "background-color: #f0f0f0; padding: 2px 4px; border-radius: 3px;"]

/-- A heading of the second level. -/
def heading (title : Page.Section) : String :=
  "    <h2>" ++ title.title ++ "</h2>"

def exampleLines (title content : String) : List String :=
  ["    <div class=\"example-container\">",
    "        <h3 class=\"example-title\">" ++ title ++ "</h3>",
    "        <pre class=\"code-block\">" ++ htmlCode content ++ "</pre>",
    "    </div>"]

def tableLines (g : Page.Grid) : List String :=
  [heading g.title, "    <table>", "        <tr>"] ++
    g.columns.map (fun c => "            <th>" ++ c.title ++ "</th>") ++
    ["        </tr>"] ++
    g.rows.flatMap (fun cells =>
      "        <tr>" :: cells.map (fun cell => "            <td>" ++ cell ++ "</td>") ++
        ["        </tr>"]) ++
    ["    </table>"]

/-- The lines between the body's tags. -/
def bodyLines (d : Document) : List String :=
  ["    <div class=\"back-link\"><a href=\"index.html\">" ++ Page.backLinkText ++ "</a></div>",
    "    <h1>" ++ d.displayName.getD "None" ++ "</h1>"] ++
  (match d.description with
    | some s => if s.isEmpty then [] else ["    <div class=\"description\">" ++ s ++ "</div>"]
    | none => []) ++
  (match d.titledExamples with
    | [] => []
    | examples =>
      heading .examples :: examples.flatMap fun (title, content) => exampleLines title content) ++
  (tables d).flatMap tableLines

/-- The page of a component: the library's and the component's name stand in the
title, the document's own name in the heading. -/
def componentPage (d : Document) (libraryName componentName : String) : String :=
  page (componentName ++ " - " ++ libraryName) componentStyle (bodyLines d)

end ComponentReference.Html
