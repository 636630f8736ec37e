import ComponentReference.Json.Printer
import ComponentReference.Site.CustomContent
import ComponentReference.Site.Discovery
import ComponentReference.Site.Extraction
import ComponentReference.Site.Output

/-!
# A documentation run

A run loads the configuration of a project, makes the output directory, discovers
the component files, writes a page for each component that can be documented, and
at the end the index page of those.  It is made of steps that can be looked at one by
one: `Run.plan` changes nothing yet, `Run.start` goes on up to the discovered files,
and `Run.document` does the rest for any list of files.
-/

namespace ComponentReference

/-- What a run has done. -/
structure Run where
  config : Config
  outDir : Path
  /-- The paths of the components' pages, in the order in which they were written. -/
  written : List Path := []
  /-- The component files without a page. -/
  skipped : List Path := []
  /-- The components on the index page. -/
  entries : List IndexEntry := []
  /-- The path of the index page, if there are component files. -/
  indexPath : Option Path := none
deriving DecidableEq, Repr

namespace Run

/-- The directory of the project, and the run in it with the configuration and the
output directory settled.  No file is changed for that. -/
def plan (env : Environment) (path : String) (overrides : Json.Fields) : Action (Path × Run) := do
  let root ← Action.look fun fs here => env.pathOf fs here path
  let config ← Config.load root overrides
  Action.report .info .run ("Using configuration: " ++ config.toJson.print)
  let outDir ← Action.look fun fs here => env.resolvePath fs here root config.outDir
  return (root, { config, outDir })

/-- Skips a file, for a reason that has been reported. -/
def skip (run : Run) (file : Path) : Run :=
  { run with skipped := run.skipped ++ [file] }

/-- Documents the component in a file, or skips the file. -/
def documentFile (env : Environment) (source : ReportSource) (run : Run) (file : Path) :
    Action Run := do
  match ← extract source file with
  | none =>
    Action.report .warning .run ("Skipping invalid component file: " ++ file.text)
    return run.skip file
  | some d =>
    let name := d.displayName.getD ""
    if Page.isSafeName name then
      let path ← writePage env run.outDir (Page.ofDocument d run.config)
      Action.report .info .run ("Generated component doc: " ++ path.text)
      return { run with
        written := run.written ++ [path]
        entries := run.entries ++ [⟨name, d.description.getD ""⟩] }
    else
      Action.report .warning .run
        ("Skipping component " ++ file.text ++ ": display name " ++ Text.quoted name ++
          " is not a valid file name")
      return run.skip file

/-- Documents the components in the files, one after the other. -/
def documentFiles (env : Environment) (source : ReportSource) : Run → List Path → Action Run
  | run, [] => return run
  | run, file :: rest => do
    documentFiles env source (← documentFile env source run file) rest

/-- Writes the index page. -/
def writeIndex (env : Environment) (root : Path) (run : Run) : Action Run := do
  let custom ← readCustomContent env run.config root
  let path ← writePage env run.outDir (Page.index run.config run.entries custom)
  Action.report .info .run ("Generated index: " ++ path.text)
  Action.report .info .run "Documentation generation complete"
  return { run with indexPath := some path }

/-- Documents the discovered files and writes the index page.  Without files
there is nothing to write. -/
def document (env : Environment) (source : ReportSource) (root : Path) (run : Run)
    (files : List Path) : Action Run := do
  if files.isEmpty then
    Action.report .info .run "No component files found"
    return run
  Action.report .info .run ("Found " ++ toString files.length ++ " component files")
  writeIndex env root (← documentFiles env source run files)

/-- The component files of a project, as `find` discovers them. -/
def componentFiles (env : Environment) (find : Finder) (root : Path) (config : Config) :
    Action (List Path) := do
  let dir ← Action.look fun fs here => env.resolvePath fs here root config.componentsDir
  Action.report .info .run ("Searching for components under " ++ dir.text)
  find dir.text

/-- Settles what is to be done, makes the output directory and discovers the component
files. -/
def start (env : Environment) (find : Finder) (path : String) (overrides : Json.Fields) :
    Action (Path × Run × List Path) := do
  let (root, run) ← plan env path overrides
  ensureDirectory run.outDir
  let files ← componentFiles env find root run.config
  return (root, run, files)

end Run

/-- Documents the project at `path`, the component files of which `find` discovers.  The
reports on them come from the source that belongs to the configuration and the project's
directory. -/
def generateWith (env : Environment) (find : Finder) (source : Config → Path → ReportSource)
    (path : String) (overrides : Json.Fields) : Action Run := do
  let (root, run, files) ← Run.start env find path overrides
  Run.document env (source run.config root) root run files

/-- Documents the project at `path`. -/
def generate (env : Environment) (source : Config → Path → ReportSource) (path : String)
    (overrides : Json.Fields) : Action Run :=
  generateWith env (discover env componentSuffix) source path overrides

end ComponentReference
