import ComponentReference.Document.Basic
import ComponentReference.Page.Labels
import ComponentReference.Text.Basic

/-!
# Formats and the text of types

The two formats of a page, and what they write differently inside a cell: the
sign between the members of a union, and the marks around code.
-/

namespace ComponentReference

/-- The formats in which pages are written. -/
inductive Format where
  | markdown
  | html
deriving DecidableEq, Repr

/-- The ending of the names of the files, which is also the format's own name. -/
def Format.extension : Format → String
  | .markdown => "md"
  | .html => "html"

/-- What stands between the members of a union.  A bare pipe would end the cell
of a Markdown table. -/
def Format.unionSeparator : Format → String
  | .markdown => " \\| "
  | .html => " | "

/-! ## Types -/

/-- A union inside this many unions is not taken apart any more. -/
def PropType.maxDepth : Nat := 32

mutual

/-- The text of a type inside `depth` unions: its members in order, joined. -/
def PropType.textAt (separator : String) (depth : Nat) : PropType → String
  | .simple name => name
  | .union members =>
    if maxDepth ≤ depth then "union"
    else separator.intercalate (textsAt separator (depth + 1) members)

/-- The texts of the members of a union. -/
def PropType.textsAt (separator : String) (depth : Nat) : List PropType → List String
  | [] => []
  | t :: rest => textAt separator depth t :: textsAt separator depth rest

end

/-- The text of a type; no type has no text. -/
def Format.typeText (f : Format) : Option PropType → String
  | some t => t.textAt f.unionSeparator 0
  | none => ""

/-! ## Code -/

/-- The characters that mean something in HTML, with what stands for them there,
in the order in which they are replaced: the ampersand of an entity must not be
replaced again. -/
def htmlEntities : List (Char × String) :=
  [('&', "&amp;"), ('<', "&lt;"), ('>', "&gt;"), ('"', "&quot;"), ('\'', "&#039;")]

/-- The text with the characters that mean something in HTML replaced. -/
def escapeHtml (s : String) : String :=
  htmlEntities.foldl (fun s (c, entity) => Text.substitute c entity s) s

/-- A value as Markdown code, with a backslash before every backtick in it. -/
def quoteMarkdownCode (value : String) : String :=
  "`" ++ Text.substitute '`' "\\`" value ++ "`"

/-- A text as HTML code. -/
def htmlCode (s : String) : String :=
  "<code>" ++ escapeHtml s ++ "</code>"

/-- The text of a type as code. -/
def Format.code : Format → String → String
  | .markdown, s => "`" ++ s ++ "`"
  | .html, s => htmlCode s

/-! ## Event parameters -/

/-- One parameter: its name, its types as code, and its description if it has one. -/
def Format.parameterText (f : Format) (p : Parameter) : String :=
  let types := match p.typeNames with
    | [] => Page.emptyCell
    | names => f.unionSeparator.intercalate names
  let description := match p.description with
    | some d => if d.isEmpty then "" else " - " ++ d
    | none => ""
  Text.presentOr Page.emptyCell p.name ++ ": " ++ f.code types ++ description

/-- What stands between two parameters. -/
def Format.parameterSeparator : Format → String
  | .markdown => "<br>"
  | .html => ", "

/-- The parameters of an event. -/
def Format.parametersText (f : Format) : List Parameter → String
  | [] => Page.emptyCell
  | ps => f.parameterSeparator.intercalate (ps.map f.parameterText)

/-- The type of a member as a cell shows it. -/
def Member.typeLabel (m : Member) : String :=
  m.typeText.getD Page.emptyCell

end ComponentReference
