import ComponentReference.Json.Display
import ComponentReference.Log.Record
import ComponentReference.Page.Format

/-!
# Configuration

The settings of a run.  They start from `Config.standard` and are changed by
layers of JSON objects; `Config.merge` applies one layer and `Config.validate`
settles the format at the end.  What a layer does and what it is told about are
kept apart: `mergeRecords` and `validateRecords` list the warnings.
-/

namespace ComponentReference

/-- Files with content for the index page, one for each format; an empty path
stands for none. -/
structure CustomContent where
  md : String := ""
  html : String := ""
deriving DecidableEq, Repr

/-- The settings of a run. -/
structure Config where
  docType : String := "html"
  docName : String := "Vue Component API Documentation"
  docDescription : String := ""
  componentsDir : String := "src/components"
  outDir : String := "dist/component-doc"
  customContent : CustomContent := {}
  nodeExecutable : String := "node"
deriving DecidableEq, Repr

namespace Config

/-- The settings that hold when nothing else is said. -/
def standard : Config := {}

/-- The format in which pages are written: everything but `md` is HTML. -/
def format (c : Config) : Format :=
  if c.docType = "md" then .markdown else .html

/-- The ending of the names of the pages. -/
def extension (c : Config) : String :=
  c.format.extension

/-- The file with content for the index page in the configured format. -/
def customPath (c : Config) : String :=
  match c.format with
  | .markdown => c.customContent.md
  | .html => c.customContent.html

/-- The settings as a JSON object, under the keys of a configuration file. -/
def toJson (c : Config) : Json :=
  .obj [("docType", .str c.docType), ("docName", .str c.docName),
    ("docDescription", .str c.docDescription), ("componentsDir", .str c.componentsDir),
    ("outDir", .str c.outDir),
    ("customContent", .obj [("md", .str c.customContent.md), ("html", .str c.customContent.html)]),
    ("nodeExecutable", .str c.nodeExecutable)]

/-! ## Layers -/

/-- The string under a key, or else the value from below. -/
def stringOr (layer : Json.Fields) (key below : String) : String :=
  ((layer.get key).str?).getD below

/-- The format under `docType`: one that is no string is HTML. -/
def docTypeOr (layer : Json.Fields) (below : String) : String :=
  match layer.get? "docType" with
  | some (.str s) => s
  | some _ => Format.html.extension
  | none => below

/-- The program under `nodeExecutable`, unless it has no name. -/
def nodeOr (layer : Json.Fields) (below : String) : String :=
  match layer.get "nodeExecutable" with
  | .str s => if s.isEmpty then below else s
  | _ => below

/-- The settings with one layer on top.  Values of the wrong type and unknown
keys change nothing, except that a `docType` of the wrong type falls back to
HTML; the two files of `customContent` are replaced one by one. -/
def merge (c : Config) (layer : Json.Fields) : Config where
  docType := docTypeOr layer c.docType
  docName := stringOr layer "docName" c.docName
  docDescription := stringOr layer "docDescription" c.docDescription
  componentsDir := stringOr layer "componentsDir" c.componentsDir
  outDir := stringOr layer "outDir" c.outDir
  customContent :=
    let files := (layer.get "customContent").fields
    { md := stringOr files "md" c.customContent.md
      html := stringOr files "html" c.customContent.html }
  nodeExecutable := nodeOr layer c.nodeExecutable

/-- The warning about a format that is not known. -/
def formatWarning (shown : String) : Record :=
  ⟨.warning, .config,
    "Invalid docType " ++ shown ++ " in configuration; falling back to " ++
      Format.html.extension⟩

/-- What is said when a layer is applied. -/
def mergeRecords (layer : Json.Fields) : List Record :=
  match layer.get? "docType" with
  | some (.str _) | none => []
  | some value => [formatWarning value.display]

/-! ## Validation -/

/-- The format of that name or alias. -/
def format? (name : String) : Option Format :=
  if name = "html" then some .html
  else if name = "md" ∨ name = "markdown" then some .markdown
  else none

/-- The settings with the format's own name; an unknown format becomes HTML. -/
def validate (c : Config) : Config :=
  { c with docType := ((format? c.docType).getD .html).extension }

/-- What is said when settings are validated. -/
def validateRecords (c : Config) : List Record :=
  if (format? c.docType).isSome then [] else [formatWarning (Text.quoted c.docType)]

end Config

end ComponentReference
