import ComponentReference.Machine.Shell.Arithmetic
import ComponentReference.Machine.Shell.Source

/-!
# The state of a shell

What a running script knows and changes.  Part of it is the shell's own, and is copied
for a script that runs apart; the machine and the jobs in the background are shared.
A script ends before its last command by an interrupt, of which the command around it
may take notice.
-/

namespace ComponentReference.Shell

/-- A variable. -/
structure Variable where
  name : Octets
  /-- The value, if one has been given to it. -/
  value? : Option Octets := none
  exported : Bool := false
  readOnly : Bool := false

/-- What a shell has for itself. -/
structure Own where
  /-- The number of the shell that the script began in. -/
  number : Nat
  /-- The number of this shell itself, by which its jobs are known. -/
  shell : Nat := number
  /-- The name that complaints begin with. -/
  name : Octets
  arguments : List Octets := []
  settings : List Variable := []
  functions : List (Octets × Script) := []
  aliases : List (Octets × Octets) := []
  /-- The programs that have been found, by name, each with its path, and whether that is to
  be found again. -/
  found : List (Octets × Octets × Bool) := []
  directory : Location
  /-- How many of the machine's moves the place of the directory takes account of. -/
  turns : Nat := 0
  /-- The path of the directory as the script has come to it. -/
  directoryPath : Octets
  streams : List (Nat × Nat)
  /-- The letters of the options in force. -/
  options : List Char := []
  /-- The status of the last command. -/
  status : Nat := 0
  /-- The status of the last script whose output has become part of a word. -/
  outputStatus : Nat := 0
  /-- The line of the command that is running. -/
  line : Nat := 0
  /-- The line up to which the script has been read. -/
  lineRead : Nat := 0
  /-- The command of the shell that is running. -/
  commandName? : Option Octets := none
  /-- How many loops are running. -/
  loops : Nat := 0
  /-- What the variables were that are local to the functions that are running. -/
  saved : List (List (Octets × Option Variable)) := []
  /-- What is to be run at a signal, or at the end, which counts as signal zero. -/
  traps : List (Nat × Octets) := []
  /-- The signals that have come for which something is to be run. -/
  caught : List Nat := []
  /-- The number of the last job in the background. -/
  background? : Option Nat := none
  /-- Whether this is a script that runs apart. -/
  isApart : Bool := false
  texts : List (Nat × Word) := []
  /-- The argument at which options are read next, and how far into the one before it. -/
  optionsRead : Nat × Nat := (1, 0)
  fileMask : Nat := 0o22
  /-- Whether this is the larger shell, which words its complaints at more length and
  prints arguments without a look at escapes. -/
  isLarge : Bool := false

/-- On which condition a step of a job is taken. -/
inductive Condition where
  | always
  | ifSuccess
  | ifFailure
deriving DecidableEq

/-- A script in the background. -/
structure Job where
  number : Nat
  /-- The shell that has started it. -/
  shell : Nat
  /-- The place that it has among the jobs of that shell. -/
  place : Nat
  /-- How many programs it was at first. -/
  width : Nat := 1
  own : Own
  /-- When its next step is taken, or when it ends. -/
  clock : Nat
  steps : List (Condition × Script)
  exit? : Option Exit := none
  /-- Whether the shell has noticed its end. -/
  isSeen : Bool := false
  /-- Whether the shell has waited for it. -/
  isAwaited : Bool := false

/-- Whether a job has ended at a time. -/
def Job.hasEnded (job : Job) (time : Nat) : Bool :=
  job.exit?.isSome && job.clock ≤ time

/-- The state of a running script. -/
structure State where
  machine : Machine
  own : Own
  jobs : List Job := []

/-- What ends a script before its last command. -/
inductive Interrupt where
  /-- The shell ends with its status. -/
  | exit
  /-- Something has been complained about that ends the script, unless a command of the
  ordinary kind did. -/
  | failure
  /-- The function or the file that is running ends. -/
  | returning
  | breaking (loops : Nat)
  | continuing (loops : Nat)
  | killed (signal : Nat)
deriving DecidableEq

/-- What runs in a shell. -/
abbrev Sh := ExceptT Interrupt (StateM State)

namespace Own

/-- What stands in front of a complaint: the name of the script, and the line. -/
def front (own : Own) : Octets :=
  own.name ++ Octets.ofString (if own.isLarge then ": line " else ": ") ++
    Octets.ofNat own.line ++ Octets.ofString ": "

/-- The variable with a name. -/
def get? (own : Own) (name : Octets) : Option Variable :=
  own.settings.find? (·.name = name)

/-- The value of a variable. -/
def value? (own : Own) (name : Octets) : Option Octets :=
  (own.get? name).bind Variable.value?

/-- The shell with a variable changed, or added. -/
def setVariable (own : Own) (v : Variable) : Own :=
  { own with settings := Keyed.put Variable.name v own.settings }

/-- The shell without a variable. -/
def unset (own : Own) (name : Octets) : Own :=
  { own with settings := own.settings.filter (·.name ≠ name) }

/-- Whether an option is in force. -/
def has (own : Own) (letter : Char) : Bool :=
  own.options.contains letter

/-- The letters of the options that there are, in the order in which they are shown. -/
def optionLetters : List Char := "efIimnsxvVECabup".toList

/-- What stands for the option by which a pipeline fails where one of its commands does. -/
def pipesFail : Char := '|'

/-- The octets at which fields are divided. -/
def separators (own : Own) : Octets :=
  match own.get? (octets "IFS") with
  | some { value? := some s, .. } => s
  | _ => [' ', '\t', '\n']
where
  octets (s : String) : Octets := s.toList

/-- The name of a variable that is written in the program. -/
def named (own : Own) (name : String) : Option Octets :=
  own.value? name.toList

/-- The process that programs see which the shell runs. -/
def process (own : Own) : Process where
  number := own.number
  title := own.name
  arguments := own.arguments
  environment := own.settings.filterMap fun v =>
    if v.exported then v.value?.map (v.name, ·) else none
  directory := own.directory
  streams := own.streams
  umask := own.fileMask

end Own

namespace Sh

/-- What the shell has for itself. -/
def own : Sh Own :=
  return (← get).own

/-- Changes what the shell has for itself. -/
def change (f : Own → Own) : Sh Unit :=
  modify fun st => { st with own := f st.own }

/-- Tries an operation on the machine. -/
def attempt {α : Type} (a : Attempt α) : Sh (Except Errno α) := do
  let st ← get
  let (result, machine) := a.run st.machine
  set { st with machine }
  return result

/-- Takes account of where the directory has been moved. -/
def follow : Sh Unit := do
  let st ← get
  if st.own.turns < st.machine.turns.length then
    let directory := st.machine.placeAfter st.own.turns st.own.directory
    set { st with own := { st.own with directory, turns := st.machine.turns.length } }

/-- The status of the last command becomes this one. -/
def setStatus (status : Nat) : Sh Unit :=
  change fun own => { own with status }

/-- Writes to a stream, as far as that is possible. -/
def writeTo (stream : Nat) (s : Octets) : Sh (Except Errno Unit) := do
  match (← own).streams.lookup stream with
  | none => return .error .badStream
  | some number =>
    match ← attempt (Attempt.write number s) with
    | .error .brokenPipe => throw (.killed 13)
    | result => return result

/-- Writes the output of a command of the shell. -/
def write (s : Octets) : Sh Unit := do
  if s.isEmpty then return
  match ← writeTo 1 s with
  | .ok () => return
  | .error _ =>
    let name := ((← own).commandName?).getD []
    complain (name ++ Octets.ofString ": I/O error")
    setStatus 1
    throw .failure
where
  /-- Complains about what is running. -/
  complain (message : Octets) : Sh Unit := do
    let own ← own
    let _ ← writeTo 2 (own.front ++ message ++ ['\n'])

/-- Complains about what is running: the line is named, and the command of the shell. -/
def warn (message : Octets) : Sh Unit := do
  let own ← own
  let command := match own.commandName? with
    | some name => name ++ Octets.ofString ": "
    | none => []
  let _ ← writeTo 2 (own.front ++ command ++ message ++ ['\n'])

/-- Complains, and gives up with a status. -/
def fail {α : Type} (message : Octets) (status : Nat := 2) : Sh α := do
  warn message
  setStatus status
  throw .failure

/-- Complains about the form of a script. -/
def refuseForm {α : Type} (line : Nat) (fault : SyntaxFault) : Sh α := do
  change fun own => { own with line }
  fail (Octets.ofString ("Syntax error: " ++ fault.message))

/-- The number that an argument writes. -/
def number (s : Octets) : Sh Nat :=
  match Octets.nat? s with
  | some n => return n
  | none => fail (Octets.ofString "Illegal number: " ++ s)

/-- Gives a value to a variable. -/
def assign (name value : Octets) (exported : Bool := false) : Sh Unit := do
  let own ← own
  let old := (own.get? name).getD { name }
  if old.readOnly then fail (name ++ Octets.ofString ": is read only")
  let exported := old.exported || exported || own.has 'a'
  let next ← if name = "OPTIND".toList then number value else pure 1
  change fun own =>
    let own := own.setVariable { old with value? := some value, exported }
    if name = "OPTIND".toList then { own with optionsRead := (max next 1, 0) }
    else if name = "PATH".toList then { own with found := [] }
    else own

/-- What a script does to the shell's own state is undone, whatever it is. -/
def keepingOwn {α : Type} (body : Sh α) : Sh (Except Interrupt α) := do
  let st ← get
  let (result, after) := body.run st
  set { after with own := st.own }
  return result

/-- Runs with an interrupt as a result. -/
def catching {α : Type} (body : Sh α) : Sh (Except Interrupt α) := do
  let st ← get
  let (result, after) := body.run st
  set after
  return result

end Sh

/-- The wording of a refusal to open a file. -/
def openingMessage (creating : Bool) (errno : Errno) : String :=
  if errno = .missing ∨ errno = .notDirectory then
    if creating then "Directory nonexistent" else "No such file"
  else errno.message

end ComponentReference.Shell
