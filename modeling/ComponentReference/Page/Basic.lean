import ComponentReference.Page.Index

/-!
# Pages

A page has a name and a body in some format; the name of its file follows from
the name and the format.
-/

namespace ComponentReference

/-- A page that is ready to be written. -/
structure Page where
  docType : String
  name : String
  body : String
deriving DecidableEq, Repr

namespace Page

/-- The name of the page's file. -/
def filename (p : Page) : String :=
  p.name ++ "." ++ p.docType

/-- The name of the index page. -/
def indexName : String := "index"

/-- The page of a component in the configured format. -/
def ofDocument (d : Document) (config : Config) : Page where
  docType := config.extension
  name := d.displayName.getD ""
  body :=
    match config.format with
    | .markdown => Markdown.componentPage d
    | .html => Html.componentPage d config.docName (d.displayName.getD "")

/-- The index page in the configured format. -/
def index (config : Config) (entries : List IndexEntry) (custom : String) : Page where
  docType := config.extension
  name := indexName
  body :=
    match config.format with
    | .markdown => Markdown.indexPage config entries custom
    | .html => Html.indexPage config entries custom

/-- Whether a component of that name has a page of its own, directly inside the
output directory. -/
def isSafeName (name : String) : Bool :=
  name ≠ "" && name ≠ "." && name ≠ ".." &&
    name.toList.all fun c => c ≠ '/' && c ≠ '\\' && c ≠ Char.ofNat 0

end Page

end ComponentReference
