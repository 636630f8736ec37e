import ComponentReference.Proofs.Actions
import ComponentReference.Site.Run

/-!
# A small project

Worlds and reports for the concrete runs that stand beside the general theorems.
-/

namespace ComponentReference.Sample

/-- A file system with nothing in it. -/
def bare : FileSystem where
  entries := []
  nodup := List.nodup_nil

/-- A world in which the entries are at their places, for one who works in the directory
`w`. -/
def world (entries : List (Location × Entry)) (attributes : List (Location × Attributes)) :
    World where
  files :=
    { entries.foldl (fun fs entry => fs.put entry.1 entry.2) bare with attributes }
  directory := ["w"]

/-- The directories of a project, one for its components and one around it. -/
def directories : List (Location × Entry) :=
  [(["w"], .directory), (["w", "c"], .directory)]

/-- A file with a text. -/
def file (text : String) : Entry :=
  .file (Utf8.encode text.toList)

/-- Home is the root, and no character stands for anything else. -/
def env : Environment where
  home := "/"
  half? := fun _ => none

/-- The settings of the project. -/
def overrides : Json.Fields :=
  [("componentsDir", .str "c"), ("outDir", .str "o"), ("docType", .str "md")]

/-- What is said of a component with a name and a description. -/
def fields (name description : String) : Json.Fields :=
  [("displayName", .str name), ("description", .str description)]

/-- The report on such a component. -/
def report (name description : String) : Except Fault Json :=
  .ok (.obj (fields name description))

/-- The reports on files of the project, by the name of the file. -/
def reports (named : List (String × Except Fault Json)) (file : Path) : Except Fault Json :=
  ((named.lookup (file.names.getLast?.getD "")).getD (.error .reportNotAnObject))

/-- The paths of component files with these names. -/
def files (names : List String) : List Path :=
  names.map fun name => ⟨.slash, ["w", "c", name]⟩

/-- The run in the project, as it is planned. -/
def run : Run where
  config := { docType := "md", componentsDir := "c", outDir := "o" }
  outDir := ⟨.slash, ["w", "o"]⟩

/-- The page of a component, as it is in its file. -/
def page (name description : String) : Entry :=
  file (Page.ofDocument (.ofFields (fields name description)) run.config).body

/-- The world in which a run in the project has come to its component files, which are
given. -/
def found (files : List Path) : World :=
  ((Run.start env (fun _ => pure files) "." overrides).exec (world directories [])).2

theorem exec_start {files : List Path} (h : ((Run.start env (fun _ => pure files) "."
      overrides).exec (world directories [])).1 = .ok (⟨.slash, ["w"]⟩, run, files)) :
    (Run.start env (fun _ => pure files) "." overrides).exec (world directories []) =
      (.ok (⟨.slash, ["w"]⟩, run, files), found files) :=
  Action.exec_eq_of_fst h

end ComponentReference.Sample
