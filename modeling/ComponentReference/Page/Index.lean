import ComponentReference.Config.Basic
import ComponentReference.Page.Html
import ComponentReference.Page.Markdown

/-!
# The index page

One page that names the library, says what it is, shows content of the user's
own, and links to the page of every component.  In both formats it is a head
that does not depend on the components, an item for each of them, and a tail.
-/

namespace ComponentReference

/-- A component as the index lists it. -/
structure IndexEntry where
  name : String
  description : String := ""
deriving DecidableEq, Repr

/-- A text in a list by itself, unless it is empty. -/
def linesOf (s : String) (lines : List String) : List String :=
  if s.isEmpty then [] else lines

namespace Markdown

/-- The lines before the items. -/
def indexHead (config : Config) (custom : String) : List String :=
  ["# " ++ config.docName, ""] ++
    linesOf config.docDescription [config.docDescription, ""] ++
    linesOf custom [custom, ""] ++
    [heading .components, ""]

/-- The lines of one item. -/
def indexItem (e : IndexEntry) : List String :=
  ("- [" ++ e.name ++ "](" ++ e.name ++ ".md)") ::
    linesOf e.description ["  " ++ e.description] ++ [""]

/-- The index page. -/
def indexPage (config : Config) (entries : List IndexEntry) (custom : String) : String :=
  "\n".intercalate (indexHead config custom ++ entries.flatMap indexItem) ++ "\n"

end Markdown

namespace Html

/-- The style of the index page. -/
def indexStyle : List String :=
  [styleRule "body"
      "font-family: Arial, sans-serif; max-width: 800px; margin: 0 auto; padding: 20px;",
    styleRule "h1" "color: #2c3e50;",
    styleRule "h2" "color: #3498db;",
    styleRule ".components-list" "list-style: none; padding: 0;",
    styleRule ".component-item"
      "margin: 20px 0; padding: 15px; border-radius: 4px; background-color: #f9f9f9;",
    styleRule ".component-link"
      "color: #3498db; text-decoration: none; font-size: 1.2em; font-weight: bold;",
    styleRule ".component-link:hover" "text-decoration: underline;",
    styleRule ".component-desc" "margin: 8px 0 0 0; color: #555; line-height: 1.5;",
    styleRule ".doc-description"
      "font-size: 1.1em; line-height: 1.6; color: #333; margin: 10px 0 20px 0;"]

/-- The lines of the body before the items. -/
def indexHead (config : Config) (custom : String) : List String :=
  ["    <h1>" ++ config.docName ++ "</h1>"] ++
    linesOf config.docDescription
      ["    <p class=\"doc-description\">" ++ config.docDescription ++ "</p>"] ++
    linesOf custom [custom] ++
    [heading .components, "    <ul class=\"components-list\">"]

/-- The lines of one item. -/
def indexItem (e : IndexEntry) : List String :=
  ["        <li class=\"component-item\">",
    "            <a href=\"" ++ e.name ++ ".html\" class=\"component-link\">" ++ e.name ++ "</a>"] ++
    linesOf e.description
      ["            <p class=\"component-desc\">" ++ e.description ++ "</p>"] ++
    ["        </li>"]

/-- The index page. -/
def indexPage (config : Config) (entries : List IndexEntry) (custom : String) : String :=
  page config.docName indexStyle
    (indexHead config custom ++ entries.flatMap indexItem ++ ["    </ul>"])

end Html

end ComponentReference
