/-!
# Log records

What a run reports on its way.  A record says how grave the message is and which
part of the program speaks; the console and a log file write it in their own
forms.
-/

namespace ComponentReference

/-- How grave a message is, from the least to the most. -/
inductive Level where
  | debug
  | info
  | warning
  | error
  | critical
deriving DecidableEq, Repr

namespace Level

/-- The place of a level among the others. -/
def rank : Level → Nat
  | debug => 0
  | info => 1
  | warning => 2
  | error => 3
  | critical => 4

/-- The name that a level is shown by. -/
def label : Level → String
  | debug => "DEBUG"
  | info => "INFO"
  | warning => "WARNING"
  | error => "ERROR"
  | critical => "CRITICAL"

end Level

/-- The parts of the program that report. -/
inductive Reporter where
  | config
  | discovery
  | extraction
  | index
  | output
  | run
  /-- A part that is named freely, or the program as a whole. -/
  | other (name : Option String)
deriving DecidableEq, Repr

/-- The full name of a reporter. -/
def Reporter.name : Reporter → String
  | .config => "compdoc.config"
  | .discovery => "compdoc.scanner"
  | .extraction => "compdoc.extractor"
  | .index => "compdoc.index"
  | .output => "compdoc.writer"
  | .run => "compdoc.orchestrator"
  | .other (some name) => if name.isEmpty then "compdoc" else "compdoc." ++ name
  | .other none => "compdoc"

/-- One message. -/
structure Record where
  level : Level
  reporter : Reporter
  message : String
deriving DecidableEq, Repr

namespace Record

/-- The line that the console shows. -/
def consoleLine (r : Record) : String :=
  "[compdoc] " ++ r.level.label ++ " " ++ r.message ++ "\n"

/-- Whether the record is at least as grave as the threshold. -/
def reaches (threshold : Level) (r : Record) : Bool :=
  threshold.rank ≤ r.level.rank

/-- What is shown of a record while nothing has been said about where records go:
the bare message, from warnings on. -/
def strayLine (r : Record) : String :=
  if r.reaches .warning then r.message ++ "\n" else ""

/-- The line that a log file gets at the given time. -/
def fileLine (time : String) (r : Record) : String :=
  time ++ " " ++ r.level.label ++ " " ++ r.reporter.name ++ ": " ++ r.message ++ "\n"

end Record

end ComponentReference
