import ComponentReference.Machine.Process
import ComponentReference.Machine.Tool.Quoting

/-!
# What programs do

A program of the system reads its streams and files, writes, complains under the name
that it was called by, and ends with a status.
-/

namespace ComponentReference

/-- What a program does, as the process that it is. -/
abbrev Task := ReaderT Process (ExceptT Exit (StateM Machine))

/-- A program: what it does, and its status in the end. -/
abbrev Program := Task Nat

namespace Task

/-- Tries an operation on the machine. -/
def attempt {α : Type} (a : Attempt α) : Task (Except Errno α) := do
  let m ← get
  let (result, m) := a.run m
  set m
  return result

/-- Ends the program. -/
def finish {α : Type} (status : Nat) : Task α :=
  throw (.status status)

/-- The open file that a stream is. -/
def stream? (stream : Nat) : Task (Option Nat) :=
  return (← read).streams.lookup stream

/-- Writes to a stream, as far as that is possible. -/
def writeTo (stream : Nat) (s : Octets) : Task (Except Errno Unit) := do
  match ← stream? stream with
  | none => return .error .badStream
  | some number =>
    match ← attempt (Attempt.write number s) with
    | .error .brokenPipe => throw (.signal 13)
    | result => return result

/-- Writes a complaint, without a name in front. -/
def tell (s : Octets) : Task Unit := do
  let _ ← writeTo 2 s

/-- Writes a complaint in a line, behind the program's name. -/
def complain (message : Octets) : Task Unit := do
  tell ((← read).title ++ Octets.ofString ": " ++ message ++ ['\n'])

/-- Complains, and ends the program. -/
def refuse {α : Type} (status : Nat) (message : Octets) : Task α := do
  complain message
  finish status

/-- Writes to the output. -/
def write (s : Octets) : Task Unit := do
  if s.isEmpty then return
  match ← writeTo 1 s with
  | .ok () => return
  | .error errno => refuse 1 (Octets.ofString ("write error: " ++ errno.message))

/-- Writes text to the output. -/
def print (s : String) : Task Unit :=
  write (Octets.ofString s)

/-- All that there is to read in a stream. -/
def readStream (stream : Nat) : Task (Except Errno Octets) := do
  match ← stream? stream with
  | none => return .error .badStream
  | some number => attempt (Attempt.readAll number)

/-- The input. -/
def input : Task Octets :=
  return (← readStream 0).toOption.getD []

/-- The content of a file. -/
def readFile (path : Octets) : Task (Except Errno Octets) := do
  let p ← read
  attempt do
    let number ← Attempt.openFile p .read path
    Attempt.readAll number

/-- The content of a file, or the input where a dash stands for it. -/
def readOperand (name : Octets) : Task (Except Errno Octets) :=
  if name = ['-'] then readStream 0 else readFile name

/-- Makes a file have this content. -/
def writeFile (opening : Opening) (path content : Octets) : Task (Except Errno Unit) := do
  let p ← read
  attempt do
    let number ← Attempt.openFile p opening path
    Attempt.write number content

/-- What is where a path leads. -/
def find (path : Octets) (followLast : Bool := true) : Task (Except Errno (Location × Entry)) := do
  attempt (Attempt.find (← read).directory path followLast)

/-- Whether a directory is where a path leads. -/
def isDirectory (path : Octets) : Task Bool :=
  return match ← find path with
    | .ok (_, .directory) => true
    | _ => false

/-- Whether a file is where a path leads that may be run. -/
def isProgram (path : Octets) : Task Bool := do
  match ← find path with
  | .ok (place, .file _) => return (← get).files.mayRun place
  | _ => return false

/-- The value of a variable that the program was given. -/
def setting? (name : String) : Task (Option Octets) :=
  return (← read).environment.lookup name.toList

/-- The greatest of the statuses of what is done for each. -/
def worst {α : Type} (items : List α) (act : α → Task Nat) : Task Nat :=
  items.foldlM (fun status item => return max status (← act item)) 0

end Task

end ComponentReference
