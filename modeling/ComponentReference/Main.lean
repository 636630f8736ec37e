import ComponentReference.CommandLine.Run
import ComponentReference.Machine.Shell.Launch
import ComponentReference.Site.Parser
import Std.Time.DateTime

/-!
# The program

The program looks at the files below the working directory and below the project,
does what the command line asks for on what it has seen, and then writes what has
changed.
-/

namespace ComponentReference.Main

/-- What has been seen of the machine: its files, and the directories that have been looked
into. -/
structure View where
  files : FileSystem
  visited : List Location := []

namespace View

/-- The view with a directory and those that it lies in. -/
def withDirectory (v : View) (place : Location) : View :=
  let ways := (List.range place.length).map fun n => place.take (n + 1)
  { v with files := ways.foldl (fun fs way => fs.put way .directory) v.files }

/-- The view with a file as it is seen.  One that names its interpreter can be run. -/
def withFile (v : View) (place : Location) (content : ByteArray) : View :=
  let bytes := content.toList
  let files := v.files.put place (.file bytes)
  let isScript := bytes.take 2 = Utf8.encode ['#', '!']
  { v with files := if isScript then files.mark place { mode := 0o755 } else files }

def withLink (v : View) (place : Location) (target : String) : View :=
  { v with files := v.files.put place (.link target) }

/-- The view with what is at a place closed to the user. -/
def withClosed (v : View) (place : Location) (e : Entry) : View :=
  { v with files := (v.files.put place e).mark place { mode := 0 } }

end View

/-- The view with a file on the machine. -/
def observeFile (place : Location) (v : View) : IO View := do
  try return v.withFile place (← IO.FS.readBinFile (Location.path place).text)
  catch _ => return v.withClosed place (.file [])

/-- The greatest depth to which directories are looked into. -/
def maxDepth : Nat := 64

/-- Where a link leads at last, if it leads anywhere. -/
def linkTarget? (place : Location) : IO (Option Path) := do
  try
    let target ← IO.FS.realPath (Location.path place).text
    let _ ← target.metadata
    return some (Path.ofString target.toString)
  catch _ => return none

/-- What a link that leads nowhere is seen to lead to. -/
def nowhere : String := "/nonexistent"

/-- The view with a directory and what is below it, and with all that links below it lead
to.  No directory is looked into twice. -/
def observe : (depth : Nat) → Location → View → IO View
  | 0, _, v => return v
  | depth + 1, place, v => do
    if place ∈ v.visited then return v
    let v := { v.withDirectory place with visited := place :: v.visited }
    let directory ← IO.FS.realPath (Location.path place).text
    let some entries ← try some <$> directory.readDir catch _ => pure none
      | return v.withClosed place .directory
    entries.foldlM
      (fun v entry => do
        let there := place ++ [entry.fileName]
        match (← entry.path.symlinkMetadata).type with
        | .dir => observe depth there v
        | .file => observeFile there v
        | .symlink =>
          match ← linkTarget? there with
          | none => return v.withLink there nowhere
          | some target =>
            let v := v.withLink there target.text
            match (← entry.path.metadata).type with
            | .dir => observe depth target.names v
            | .file => observeFile target.names (v.withDirectory target.names.dropLast)
            | _ => return v
        | .other => return v)
      v

/-- The directory that the path of a command line names, if it is there. -/
def projectPlace? (here : Location) (arguments : List String) : IO (Option Location) := do
  match CommandLine.Options.ofArguments arguments with
  | .error _ => return none
  | .ok options =>
    try
      let directory ← IO.FS.realPath (Location.path here ++ Path.ofString options.path).text
      let _ ← directory.readDir
      return some (Path.ofString directory.toString).names
    catch _ => return none

/-- Writes an entry to the machine. -/
def store (place : Location) : Entry → IO Unit
  | .directory => IO.FS.createDirAll (Location.path place).text
  | .file content => IO.FS.writeBinFile (Location.path place).text ⟨content.toArray⟩
  | _ => return ()

/-- Removes from the machine what was at a place. -/
def discard (place : Location) : Entry → IO Unit
  | .directory => IO.FS.removeDirAll (Location.path place).text
  | _ => IO.FS.removeFile (Location.path place).text

/-- Removes from the machine what is no longer there, or is of another kind, and writes
what is new or other than before. -/
def storeChanges (before after : FileSystem) : IO Unit := do
  for (place, e) in before.entries do
    let stays := match e, after.get? place with
      | .directory, some .directory | .file _, some (.file _) => true
      | .directory, _ | .file _, _ => false
      | e, some e' => e == e'
      | _, none => false
    let goesWithParent := after.get? place.dropLast ≠ some .directory
    if !stays && !goesWithParent then discard place e
  for (place, e) in after.entries do
    if before.get? place ≠ some e then store place e

/-- A number in two digits or more. -/
def padded (n : Int) : String :=
  if n < 10 then "0" ++ n.repr else n.repr

/-- The time as it is noted in a log file. -/
def timeText (t : Std.Time.PlainDateTime) : String :=
  let milliseconds := toString (t.nanosecond.toNat / 1000000)
  "-".intercalate [t.year.toInt.repr, padded t.month.toNat, padded t.day.toNat] ++ " " ++
    ":".intercalate [padded t.hour.toNat, padded t.minute.toNat, padded t.second.toNat] ++ "," ++
    String.ofList (List.replicate (3 - milliseconds.length) '0') ++ milliseconds

/-- Shows an outcome and gives the status of the program. -/
def present (o : CommandLine.Outcome) : IO UInt32 := do
  IO.print o.output
  IO.eprint o.errors
  match o.exit with
  | .normal => return 0
  | .status code => return code.toUInt32
  | .fault fault =>
    IO.eprintln fault.message
    return 1

end ComponentReference.Main

open ComponentReference Main in
/-- Does what the command line asks for. -/
def main (arguments : List String) : IO UInt32 := do
  let here := (Path.ofString (← IO.currentDir).toString).names
  let env : Environment := { home := (← IO.getEnv "HOME").getD "/" }
  let seen ← observe maxDepth here { files := Shell.systemFiles }
  let seen ← match ← projectPlace? here arguments with
    | some place => observe maxDepth place seen
    | none => pure seen
  let before := seen.files
  let now := Std.Time.PlainDateTime.ofWallTime ((← Std.Time.Timestamp.now).toWallTime .zero)
  let (outcome, after) :=
    CommandLine.run env (configuredReports (Shell.call env)) (timeText now) arguments before here
  storeChanges before after.files
  present outcome
