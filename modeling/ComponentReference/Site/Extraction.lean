import ComponentReference.Host.Command
import ComponentReference.Host.World
import ComponentReference.Text.Blank
import ComponentReference.Text.Decoded

/-!
# Extracting documents

A component's document comes from a report, which a `ReportSource` makes from
the component's file.  A file whose report fails is skipped and said to be.
-/

namespace ComponentReference

/-- What makes the report on the component in a file, and may change the world. -/
abbrev ReportSource := World → Path → Except Fault Json × World

/-- The report in what a parser run by `program` left behind, if it ran. -/
def Json.ofEnding (program : String) : Except Fault Ending → Except Fault Json
  | .error (.system .missing _) => .error (.parserMissing program)
  | .error fault => .error fault
  | .ok ending => do
    let output ← Text.ofBytes ending.output
    let errors ← Text.ofBytes ending.errors
    if ending.status ≠ 0 then
      match Text.trimBlanks errors with
      | [] => throw (.parserExit ending.status)
      | reason => throw (.parserFailed (String.ofList reason))
    else
      match Json.parse output with
      | .ok (.obj fields) => return .obj fields
      | .ok _ => throw .reportNotAnObject
      | .error (.longInteger digits) => throw (.longInteger digits)
      | .error fault => throw (.reportMalformed fault)

/-- The document in a report. -/
def Document.ofReport (report : Except Fault Json) : Except Fault Document := do
  match Document.ofJson (← report) with
  | .ok d => return d
  | .error fault => throw (.notAnObject fault)

/-- The document of the component in a file, unless the file is to be skipped. -/
def extract (source : ReportSource) (path : Path) : Action (Option Document) := do
  let (report, world) := source (← get) path
  set world
  match Document.ofReport report with
  | .error fault =>
    Action.report .error .extraction
      ("Failed to parse component " ++ path.text ++ ": " ++ fault.message)
    return none
  | .ok d =>
    if d.displayName.isNone then
      Action.report .warning .extraction
        ("Skipping component without a display name: " ++ path.text)
      return none
    return some d

end ComponentReference
