import ComponentReference.Host.Resolve
import ComponentReference.Log.Record

/-!
# Actions

An action reads and changes the files, leaves records, and succeeds or stops at
a fault.  What it has done and said before the fault stays.
-/

namespace ComponentReference

/-- A file that records are written to as well, from the given level on. -/
structure LogFile where
  location : Location
  threshold : Level
  /-- The time that is noted on every line. -/
  time : String
deriving DecidableEq, Repr

/-- What actions work on. -/
structure World where
  files : FileSystem
  /-- The place of the directory that paths are relative to, which may have been removed. -/
  directory : Location
  /-- The records so far, in order. -/
  records : List Record := []
  logFile : Option LogFile := none

/-- Whether the file at a place is open for writing. -/
def World.isWritten (w : World) (l : Location) : Bool :=
  w.logFile.any (·.location = l)

/-- What has an effect on the world and may stop at a fault. -/
abbrev Action := ExceptT Fault (StateM World)

/-- The file at a place with more content at its end. -/
def FileSystem.extend (fs : FileSystem) (l : Location) (more : Bytes) : FileSystem :=
  match fs.get? l with
  | some (.file content) => fs.fill l (content ++ more)
  | _ => fs

/-- The world without what is at a place and below it. -/
def World.without (w : World) (l : Location) : World :=
  { w with files := w.files.erase l, directory := (Turn.removal l).follow w.directory }

/-- The world after a record has been left. -/
def World.report (w : World) (r : Record) : World where
  directory := w.directory
  files :=
    match w.logFile with
    | some log =>
      if r.reaches log.threshold then
        w.files.extend log.location (Utf8.encode (r.fileLine log.time).toList)
      else w.files
    | none => w.files
  records := w.records ++ [r]
  logFile := w.logFile

namespace Action

/-- Leaves a record. -/
def report (level : Level) (reporter : Reporter) (message : String) : Action Unit :=
  modify (·.report ⟨level, reporter, message⟩)

/-- Leaves the records, in order. -/
def reportAll (records : List Record) : Action Unit :=
  records.forM fun r => modify (·.report r)

/-- Looks something up in the files, from the working directory. -/
def look {α : Type} (f : FileSystem → Location → Except Fault α) : Action α := do
  let w ← get
  liftExcept (f w.files w.directory)
where
  liftExcept : Except Fault α → Action α
    | .ok a => pure a
    | .error fault => throw fault

/-- Changes the files, seen from the working directory. -/
def change (f : FileSystem → Location → Except Fault FileSystem) : Action Unit := do
  let files ← look f
  modify fun w => { w with files }

/-- Changes the files even where a fault stops the change halfway. -/
def changePartly (f : FileSystem → Location → Except Fault Unit × FileSystem) :
    Action Unit := do
  let w ← get
  let (outcome, files) := f w.files w.directory
  set { w with files }
  match outcome with
  | .ok () => pure ()
  | .error fault => throw fault

end Action

end ComponentReference
