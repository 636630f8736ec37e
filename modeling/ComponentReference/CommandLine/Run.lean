import ComponentReference.CommandLine.Usage
import ComponentReference.Site.Run

/-!
# Running a command line

A command line that can be read leads to one run.  Its records go to the console,
and to the log file if there is one; what it did is told at the end.
-/

namespace ComponentReference.CommandLine

/-- From which level on records are shown. -/
def Options.threshold (o : Options) : Level :=
  if o.verbose then .debug else .info

/-- Opens the log file, at whose end the records will be written. -/
def openLog (time : String) (threshold : Level) (target : LogTarget) : Action Unit := do
  match target with
  | .noPath => throw .notAPath
  | .file path =>
    let path ← Action.look fun fs here => (fs.absolute here path).map Path.text
    Action.change fun fs here => fs.append here path []
    let spot ← Action.look fun fs here => fs.locate here {} path
    modify fun w => { w with logFile := some ⟨spot.location, threshold, time⟩ }

/-- Opens the log file if one is asked for. -/
def Options.openLog (o : Options) (time : String) : Action Unit :=
  match o.logFile with
  | some target => CommandLine.openLog time o.threshold target
  | none => pure ()

/-- A path as it is told: seen from the working directory if it lies there. -/
def shownPath (here : Location) (path : Path) : String :=
  ((path.after? here).getD path).text

/-- What is told about a run, from the working directory at the end. -/
def summary (w : World) (run : Run) : Except Fault String :=
  match run.indexPath with
  | none => .ok "No components documented\n"
  | some _ =>
    if w.files.isDirectoryAt w.directory then
      .ok ("Documented " ++ toString run.entries.length ++ " components in " ++
        shownPath w.directory run.outDir ++ " (" ++ toString run.skipped.length ++ " skipped)\n")
    else .error (.pathless .missing)

/-- What a run shows on the console. -/
def consoleText (threshold : Level) (records : List Record) : String :=
  String.join ((records.filter (·.reaches threshold)).map Record.consoleLine)

/-- The outcome of a run that has ended in a world. -/
def outcome (w : World) (console : String) : Except Fault Run → Outcome
  | .ok run =>
    match summary w run with
    | .ok text => { output := text, errors := console }
    | .error fault => { exit := .fault fault, errors := console }
  | .error fault =>
    if fault.ofFiles then
      { exit := .status 1
        errors := console ++ programName ++ " failed: " ++ fault.message ++ "\n" }
    else { exit := .fault fault, errors := console }

/-- Does what the options ask for, on the component files that `find` discovers. -/
def Options.runWith (o : Options) (env : Environment) (find : Finder)
    (source : Config → Path → ReportSource) (time : String) (w : World) : Outcome × World :=
  match (o.openLog time).run.run w with
  | (.error fault, w) => ({ exit := .fault fault }, w)
  | (.ok (), w) =>
    let (result, w) := (generateWith env find source o.path o.overrides).run.run w
    (outcome w (consoleText o.threshold w.records) result, w)

/-- Does what the options ask for. -/
def Options.run (o : Options) (env : Environment) (source : Config → Path → ReportSource)
    (time : String) (w : World) : Outcome × World :=
  o.runWith env (discover env componentSuffix) source time w

/-- Does what a command line asks for, in the files and the working directory of a
world, on the component files that `find` discovers; the records are told on the console. -/
def runWith (env : Environment) (find : Finder) (source : Config → Path → ReportSource)
    (time : String) (arguments : List String) (files : FileSystem) (directory : Location) :
    Outcome × World :=
  match Options.ofArguments arguments with
  | .error stop => (stop.outcome, { files, directory })
  | .ok options => options.runWith env find source time { files, directory }

/-- Does what a command line asks for. -/
def run (env : Environment) (source : Config → Path → ReportSource) (time : String)
    (arguments : List String) (files : FileSystem) (directory : Location) : Outcome × World :=
  runWith env (discover env componentSuffix) source time arguments files directory

end ComponentReference.CommandLine
