import ComponentReference.Config.Basic
import ComponentReference.Host.World
import ComponentReference.Text.Decoded

/-!
# Loading the configuration

The configuration of a run in a directory: the standard one, under the layer in
the directory's own file, under a layer of overrides.  A file that cannot be
read, is no JSON or is no object is reported, and does as if it were absent.
-/

namespace ComponentReference.Config

/-- The name of the configuration file. -/
def filename : String := "component.doc.json"

/-- What a configuration file offers. -/
inductive Layer where
  | given (fields : Json.Fields)
  /-- The file is rejected for the given reason. -/
  | rejected (reason : String)

/-- The layer in the text of a configuration file. -/
def Layer.ofText (text : List Char) : Except Fault Layer :=
  match Json.parse text with
  | .ok (.obj fields) => .ok (.given fields)
  | .ok _ => .ok (.rejected (filename ++ " must contain a JSON object at the root"))
  | .error (.longInteger digits) => .error (.longInteger digits)
  | .error fault => .ok (.rejected ("Failed to parse " ++ filename ++ ": " ++ fault.message))

/-- The layer in the file at the path, if there is a file. -/
def Layer.read? (fs : FileSystem) (here : Location) (path : String) :
    Except Fault (Option Layer) := do
  match ← fs.stat? here path with
  | none => return none
  | some _ =>
    match fs.read here path with
    | .ok bytes => return some (← Layer.ofText (← Text.ofBytes bytes))
    | .error fault => return some (.rejected ("Unable to read " ++ filename ++ ": " ++ fault.message))

/-- Applies the layer of the configuration file. -/
def applyFile (c : Config) : Option Layer → Action Config
  | none => pure c
  | some (.given fields) => do
    Action.reportAll (mergeRecords fields)
    return c.merge fields
  | some (.rejected reason) => do
    Action.report .error .config ("Failed to load configuration file: " ++ reason)
    return c

/-- The configuration of a run in the directory `root`. -/
def load (root : Path) (overrides : Json.Fields) : Action Config := do
  let path := (root ++ Path.ofString filename).text
  let file ← Action.look fun fs here => Layer.read? fs here path
  let config ← applyFile standard file
  Action.reportAll (mergeRecords overrides)
  let config := config.merge overrides
  Action.reportAll config.validateRecords
  return config.validate

end ComponentReference.Config
