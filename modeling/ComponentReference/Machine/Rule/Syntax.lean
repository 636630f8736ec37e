import ComponentReference.Machine.Regular.Basic
import ComponentReference.Machine.Text.Octets
import ComponentReference.Number.Double

/-!
# Rules for records

A program of rules is gone through for every record of the input: what a rule says is done
where its pattern matches.
-/

namespace ComponentReference.Rule

/-- Records are matched octet by octet. -/
def ofOctets : Regular.Manner := { ofOctets := true }

/-- An expression. -/
inductive Operand where
  | number (x : Double)
  | text (s : Octets)
  | regular (r : Regular)
  | name (s : String)
  | field (e : Operand)
  | item (name : String) (indices : List Operand)
  /-- An assignment, perhaps by an operation on the old value. -/
  | assign (target : Operand) (sign? : Option String) (e : Operand)
  | choice (condition yes no : Operand)
  | binary (sign : String) (a b : Operand)
  | unary (sign : String) (e : Operand)
  /-- A step up or down, and whether the value is that before it. -/
  | step (target : Operand) (up : Bool) (before : Bool)
  /-- Whether text matches, or does not. -/
  | isMatch (wanted : Bool) (a b : Operand)
  | contains (indices : List Operand) (name : String)
  | call (name : String) (arguments : List Operand)
  | builtin (name : String) (arguments : List Operand)
  /-- The next record of the input, of a file, or of what a command writes. -/
  | nextRecord (source? : Option (Bool × Operand)) (target? : Option Operand)
  /-- Operands in brackets, which may be several. -/
  | group (operands : List Operand)

/-- Where output goes. -/
inductive Sink where
  | file (appends : Bool)
  | command
deriving DecidableEq

/-- What is done. -/
inductive Act where
  | value (e : Operand)
  | print (operands : List Operand) (sink? : Option (Sink × Operand))
  | printf (operands : List Operand) (sink? : Option (Sink × Operand))
  | branch (condition : Operand) (yes no : List Act)
  | loop (condition : Operand) (body : List Act)
  /-- A loop whose body comes before its condition. -/
  | bodyFirst (body : List Act) (condition : Operand)
  | count (start : List Act) (condition? : Option Operand) (next body : List Act)
  | forEach (name array : String) (body : List Act)
  | delete (name : String) (indices? : Option (List Operand))
  | next
  /-- What is left of the file is passed over. -/
  | nextFile
  | exit (e? : Option Operand)
  | result (e? : Option Operand)
  | leave
  | skip
  | block (acts : List Act)

/-- When a rule is for a record. -/
inductive Occasion where
  | start
  | finish
  | always
  | matching (e : Operand)
  | between (first last : Operand)

/-- A rule; without acts, it prints the record. -/
structure Clause where
  occasion : Occasion
  acts? : Option (List Act)

/-- A function. -/
structure Function where
  name : String
  parameters : List String
  body : List Act

/-- A program. -/
structure Rules where
  rules : List Clause := []
  functions : List Function := []

end ComponentReference.Rule
