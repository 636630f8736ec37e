import ComponentReference.Machine.Number.Arithmetic
import ComponentReference.Machine.Rule.Reader
import ComponentReference.Machine.Rule.Table
import ComponentReference.Machine.Text.Directive
import ComponentReference.Machine.Tool.Calling

/-!
# What rules work on

Values are numbers or text, and what is read is both if it looks like a number.  Arrays
are kept apart from the names that lead to them, so that functions can share them.
-/

namespace ComponentReference.Rule

/-- A value. -/
inductive Value where
  | unset
  | number (x : Double)
  | text (s : Octets)
  /-- What has been read and looks like a number. -/
  | read (s : Octets) (x : Double)

/-- What a name stands for. -/
inductive Binding where
  | value (v : Value)
  | array (n : Nat)
  /-- Nothing yet; should it become an array, it is this one. -/
  | open (n : Nat)

/-- What rules work on. -/
structure Memory where
  rules : Rules
  globals : List (String × Binding) := []
  /-- The names of the functions that run, the innermost first. -/
  frames : List (List (String × Binding)) := []
  arrays : List (Nat × Table Value) := []
  fresh : Nat := 0
  record : Octets := []
  fields : List Octets := []
  /-- Which rules have begun that are for all records up to a last one. -/
  begun : List Nat := []
  /-- What is left of the input that is being read, if there is one. -/
  rest? : Option Octets := none
  /-- The index of the argument that is read next. -/
  argument : Nat := 1
  /-- Whether the input has been read for lack of arguments. -/
  hasRead : Bool := false
  /-- The output that has not been let out, the latest first. -/
  output : List Octets := []
  /-- The files that have been written to. -/
  written : List Octets := []
  /-- What has been written for commands, the latest first. -/
  commands : List (Octets × List Octets) := []
  /-- What is left of files and of what commands have written. -/
  sources : List (Octets × Octets) := []
  /-- The statuses of the commands whose output is read. -/
  statuses : List (Octets × Nat) := []
  /-- What sequences of chance have begun with. -/
  seed : Value := .unset

/-- Why an act is not followed by the next one. -/
inductive Stop where
  | next
  | nextFile
  | leave
  | skip
  | exit (status? : Option Nat)
  | result (v : Value)

/-- More levels and rounds than any program takes. -/
def manyLevels : Nat := 10 ^ 9

/-- What runs under rules. -/
abbrev Run := ExceptT Stop (StateT Memory Task)

/-! ## Numbers and text -/

/-- The number at the beginning of text, behind blanks, and what is behind it, if one is
there. -/
def decimalAt? (s : Octets) : Option (Double × Octets) :=
  let s := s.dropWhile fun c => c = ' ' ∨ ('\t' ≤ c ∧ c ≤ '\r')
  let (negative, digits) := match s with
    | '-' :: digits => (true, digits)
    | '+' :: digits => (false, digits)
    | digits => (false, digits)
  let begins := match digits with
    | '.' :: c :: _ => c.isDigit
    | c :: _ => c.isDigit
    | [] => false
  if begins then
    let (x, rest) := WordReader.numberAt digits
    some (if negative then x.neg else x, rest)
  else none

/-- The number that the digits at the front stand for to the base of sixteen, with a power of
two behind them, and what follows. -/
def hexadecimalAt (s : Octets) : Double × Octets :=
  let (whole, rest) := s.span Pattern.isHex
  let (fraction, rest) := match rest with
    | '.' :: rest => rest.span Pattern.isHex
    | rest => ([], rest)
  let (power, rest) : Int × Octets := match rest with
    | p :: more =>
      let (sign, number) : Int × Octets := match more with
        | '-' :: number => (-1, number)
        | '+' :: number => (1, number)
        | number => (1, number)
      let (digits, after) := number.span Char.isDigit
      if (p = 'p' ∨ p = 'P') ∧ !digits.isEmpty then (sign * Octets.valueOf 10 digits, after)
      else (0, rest)
    | [] => (0, rest)
  let power := power - 4 * fraction.length
  let digits := Octets.valueOf 16 (whole ++ fraction)
  if 0 ≤ power then (Double.ofRatio false (digits * 2 ^ (min power 3000).toNat) 1, rest)
  else (Double.ofRatio false digits (2 ^ (min (-power) 3000).toNat), rest)

/-- Whether an octet is a blank in front of a number or behind one. -/
def isBlank (c : Char) : Bool :=
  c = ' ' ∨ ('\t' ≤ c ∧ c ≤ '\r')

/-- The number that text begins with, behind blanks, and what is behind it, if there is one;
it may have digits to the base of sixteen, be infinite, or be none. -/
def numberAt? (s : Octets) : Option (Double × Octets) :=
  match s.dropWhile isBlank with
  | [] => none
  | c :: rest =>
    let (negative, body) := if c = '-' then (true, rest) else if c = '+' then (false, rest)
      else (false, c :: rest)
    let signed (x : Double) : Double := if negative then x.neg else x
    let begins (word : String) : Bool := word.toList.isPrefixOf (body.map Char.toLower)
    if begins "infinity" then some (signed (.infinite false), body.drop 8)
    else if begins "inf" then some (signed (.infinite false), body.drop 3)
    else if begins "nan" then some (signed (.nan false), body.drop 3)
    else
      match body with
      | '0' :: x :: digits =>
        if (x = 'x' ∨ x = 'X') ∧ digits.head?.any Pattern.isHex then
          let (y, rest) := hexadecimalAt digits
          some (signed y, rest)
        else decimalAt? s
      | _ => decimalAt? s

/-- The value that text is which has been read.  It is a number if it begins like one, ends
with a digit or a point, and nothing is left over. -/
def Value.ofRead (s : Octets) : Value :=
  let body := ((s.dropWhile isBlank).reverse.dropWhile isBlank).reverse
  let begins := body.head?.any fun c => c.isDigit || ['+', '-', '.'].contains c
  let ends := body.getLast?.any fun c => c.isDigit || c = '.'
  match begins && ends, numberAt? body with
  | true, some (x, []) => .read s x
  | _, _ => .text s

/-- The number that a value stands for. -/
def Value.double : Value → Double
  | unset => Double.ofInt 0
  | number x | read _ x => x
  | text s => (numberAt? s).elim (Double.ofInt 0) Prod.fst

/-- A number as a format says, unless it is a whole one of a word's size. -/
def numberText (format : Octets) (x : Double) : Octets :=
  let shown : Octets := match format with
    | '%' :: rest =>
      let s := Directive.sketch rest
      let d : Directive :=
        { flags := s.flags, width := s.width?.getD 0, precision? := s.precision?.map (·.getD 0),
          conversion := s.rest.headD 'g' }
      if d.conversion = 'd' ∨ d.conversion = 'i' then d.int ((x.whole?).getD 0) else d.double x
    | _ => format
  match x.ratio? with
  | some (n, d) =>
    if n % d = 0 ∧ (n / d).natAbs < 2 ^ 31 then Octets.ofInt (n / d) else shown
  | none =>
    (if x.isNegative then ['-'] else []) ++ (if x.isNan then "nan" else "inf").toList

/-- The text that a value stands for. -/
def Value.shown (format : Octets) : Value → Octets
  | unset => []
  | number x => numberText format x
  | text s | read s _ => s

/-- Whether a value counts as true. -/
def Value.isTrue : Value → Bool
  | unset => false
  | number x | read _ x => !x.isZero
  | text s => !s.isEmpty

/-- The value of a condition. -/
def Value.ofBool (b : Bool) : Value :=
  .number (Double.ofInt (if b then 1 else 0))

/-- A whole number as a value. -/
def Value.ofNat (n : Nat) : Value :=
  .number (Double.ofInt n)

/-- The key that a value is, for numbers in a format. -/
def Value.key (format : Octets) (v : Value) : Key :=
  match v with
  | number x =>
    match x.ratio? with
    | some (n, d) =>
      if n % d = 0 ∧ (n / d).natAbs < 2 ^ 31 then .whole (n / d) else .text (v.shown format)
    | none => .text (v.shown format)
  | v => .text (v.shown format)

/-- Whether a value is compared as a number with one that is. -/
def Value.isNumeric : Value → Bool
  | text _ => false
  | _ => true

namespace Run

/-- Does something with the system. -/
def act {α : Type} (t : Task α) : Run α :=
  liftM (liftM t : StateT Memory Task α)

/-- Lets the output out. -/
def flush : Run Unit := do
  let m ← get
  set { m with output := [] }
  act (Task.write (m.output.foldl (fun after s => s ++ after) []))

/-- Ends the program with a complaint, which comes before the output that has been kept. -/
def fail {α : Type} (message : Octets) : Run α := do
  act (Task.complain message)
  flush
  act (Task.finish 2)

/-! ## Names -/

/-- What a name stands for. -/
def bindingOf (name : String) : Run Binding := do
  let m ← get
  match (m.frames.head?.bind (·.lookup name)).or (m.globals.lookup name) with
  | some b => return b
  | none =>
    let b := Binding.open m.fresh
    set { m with fresh := m.fresh + 1, globals := (name, b) :: m.globals }
    return b

/-- Binds a name. -/
def bind (name : String) (b : Binding) : Run Unit :=
  modify fun m =>
    match m.frames with
    | frame :: rest =>
      if (frame.lookup name).isSome then
        { m with frames := Keyed.put Prod.fst (name, b) frame :: rest }
      else { m with globals := Keyed.put Prod.fst (name, b) m.globals }
    | [] => { m with globals := Keyed.put Prod.fst (name, b) m.globals }

/-- The value of a name. -/
def valueOf (name : String) : Run Value := do
  match ← bindingOf name with
  | .value v => return v
  | .open _ => return .unset
  | .array _ => fail (Octets.ofString ("line 1: illegal reference to array " ++ name))

/-- The array that a name stands for. -/
def arrayOf (name : String) : Run Nat := do
  match ← bindingOf name with
  | .array n => return n
  | .open n =>
    bind name (.array n)
    return n
  | .value _ => fail (Octets.ofString ("line 1: illegal reference to variable " ++ name))

/-- What an array holds. -/
def tableOf (n : Nat) : Run (Table Value) :=
  return ((← get).arrays.lookup n).getD {}

/-- Makes an array hold something else. -/
def setTable (n : Nat) (t : Table Value) : Run Unit :=
  modify fun m => { m with arrays := Keyed.put Prod.fst (n, t) m.arrays }

/-- The text of a variable that steers the program. -/
def setting (name : String) : Run Octets :=
  return match (← get).globals.lookup name with
    | some (.value v) => v.shown "%.6g".toList
    | _ => []

/-- Gives a variable of the whole program a value. -/
def setGlobal (name : String) (v : Value) : Run Unit :=
  modify fun m => { m with globals := Keyed.put Prod.fst (name, .value v) m.globals }

/-- The text of a value. -/
def textOf (v : Value) : Run Octets := do
  return v.shown (← setting "CONVFMT")

/-- Ends the program with a complaint about what is done with a record. -/
def halt {α : Type} (message : Octets) : Run α := do
  fail (Octets.ofString "run time error: " ++ message ++ Octets.ofString "\n\tFILENAME=\"" ++
    (← setting "FILENAME") ++ Octets.ofString "\" FNR=" ++ (← setting "FNR") ++
    Octets.ofString " NR=" ++ (← setting "NR"))

/-! ## Records -/

/-- The expression that text is, which is to be matched. -/
def regularFor (s : Octets) : Run Regular := do
  match Pattern.ofText s with
  | .ok r => return r
  | .error fault =>
    halt (Octets.ofString ("regular expression compile failed (" ++ fault.message ++ ")\n") ++ s)

/-- The parts of text that stand between what an expression matches. -/
def partsBetween (r : Regular) (s : Octets) : List Octets :=
  let found := (Regular.all ofOctets r s).filter fun f => f.start < f.finish
  let (parts, offset) := found.foldl (fun (parts, offset) f =>
    ((s.drop offset).take (f.start - offset) :: parts, f.finish)) (([], 0) : List Octets × Nat)
  (s.drop offset :: parts).reverse

/-- The parts of text between separators. -/
def partsOf (separator s : Octets) : Run (List Octets) := do
  if s.isEmpty then return []
  match separator with
  | [' '] =>
    let isBlank (c : Char) : Bool := c = ' ' ∨ c = '\t' ∨ c = '\n'
    return (s.splitBy fun c d => isBlank c == isBlank d).filter fun part => !part.any isBlank
  | [] => return s.map fun c => [c]
  | [c] => return Text.split c s
  | separator => return partsBetween (← regularFor separator) s

/-- Sets the fields anew from the record. -/
def divide : Run Unit := do
  let m ← get
  let fields ← partsOf (← setting "FS") m.record
  modify fun m => { m with fields }
  setGlobal "NF" (.ofNat fields.length)

/-- Makes text the record. -/
def setRecord (s : Octets) : Run Unit := do
  modify fun m => { m with record := s }
  divide

/-- Sets the record anew from the fields. -/
def join : Run Unit := do
  let between ← setting "OFS"
  modify fun m => { m with record := Octets.join between m.fields }

/-- The field at an index, or the record. -/
def fieldAt (n : Nat) : Run Value := do
  let m ← get
  if n = 0 then return .ofRead m.record
  match m.fields[n - 1]? with
  | some s => return .ofRead s
  | none => return .unset

/-- Sets a field. -/
def setField (n : Nat) (s : Octets) : Run Unit := do
  if n = 0 then setRecord s
  else
    modify fun m =>
      let fields := m.fields ++ List.replicate (n - m.fields.length) []
      { m with fields := fields.set (n - 1) s }
    setGlobal "NF" (.ofNat (← get).fields.length)
    join

/-- Sets how many fields there are. -/
def setCount (n : Nat) : Run Unit := do
  modify fun m => { m with fields := (m.fields ++ List.replicate (n - m.fields.length) []).take n }
  join

/-- The first record of text, and what is behind it; `none` at the end. -/
def cutRecord (s : Octets) : Run (Option (Octets × Octets)) := do
  match ← setting "RS" with
  | [] =>
    let s := s.dropWhile (· = '\n')
    if s.isEmpty then return none
    let (record, rest) := paragraph s
    return some (record, rest.dropWhile (· = '\n'))
  | [c] =>
    if s.isEmpty then return none
    let (record, rest) := s.span (· ≠ c)
    return some (record, rest.drop 1)
  | separator =>
    if s.isEmpty then return none
    match Regular.find ofOctets (← regularFor separator) s with
    | some f => return some (s.take f.start, s.drop f.finish)
    | none => return some (s, [])
where
  /-- What is in front of an empty line, and what is behind. -/
  paragraph : Octets → Octets × Octets
    | [] => ([], [])
    | '\n' :: rest =>
      if rest.head? = some '\n' ∨ rest.isEmpty then ([], rest)
      else
        let (front, after) := paragraph rest
        ('\n' :: front, after)
    | c :: rest =>
      let (front, after) := paragraph rest
      (c :: front, after)

/-- Text in which escapes have been replaced, as the value of a variable that an argument
gives. -/
def unescaped (s : Octets) : Octets :=
  match WordReader.stringAt (s.length + 2) ((s.flatMap fun c => if c = '"' then ['\\', '"'] else [c]) ++ ['"']) with
  | some (t, _) => t
  | none => s

/-- Gives a variable the value that an argument says, if it says one. -/
def takeAssignment (argument : Octets) : Run Bool := do
  let (name, value) := argument.span (· ≠ '=')
  let isName : Bool := match name with
    | c :: rest => (c.isAlpha || c = '_') && rest.all fun c => c.isAlphanum || c = '_'
    | [] => false
  if isName ∧ !value.isEmpty then
    setGlobal (String.ofList name) (.ofRead (unescaped (value.drop 1)))
    return true
  return false

/-- The argument at an index, which the program may have changed. -/
def argumentAt (n : Nat) : Run Octets := do
  let (v?, _) := (← tableOf (← arrayOf "ARGV")).find (.whole n) none
  match v? with
  | some v => textOf v
  | none => return []

/-- Opens the next of the inputs; gives whether there is one. -/
def openNext : (fuel : Nat) → Run Bool
  | 0 => return false
  | fuel + 1 => do
    let m ← get
    let count := ((← valueOf "ARGC").double.whole?).getD 0
    if count ≤ m.argument then
      if m.hasRead then return false
      set { m with hasRead := true, rest? := some (← act Task.input) }
      return true
    else
      set { m with argument := m.argument + 1 }
      let argument ← argumentAt m.argument
      if argument.isEmpty then openNext fuel
      else if ← takeAssignment argument then openNext fuel
      else
        match ← act (Task.readOperand argument) with
        | .ok content =>
          modify fun m => { m with hasRead := true, rest? := some content }
          setGlobal "FILENAME" (.text argument)
          setGlobal "FNR" (.ofNat 0)
          return true
        | .error errno =>
          if errno = .isDirectory then fail (Octets.ofString ("read error (" ++ errno.message ++ ")"))
          fail (Octets.ofString "cannot open \"" ++ argument ++
            Octets.ofString ("\" (" ++ errno.message ++ ")"))

/-- The next record of the input. -/
def nextRecord : (fuel : Nat) → Run (Option Octets)
  | 0 => return none
  | fuel + 1 => do
    match (← get).rest? with
    | none =>
      if ← openNext manyLevels then nextRecord fuel else return none
    | some s =>
      match ← cutRecord s with
      | some (record, rest) =>
        modify fun m => { m with rest? := some rest }
        return some record
      | none =>
        modify fun m => { m with rest? := none }
        nextRecord fuel

/-- Counts one more record. -/
def countRecord (ofFile : Bool) : Run Unit := do
  for name in (if ofFile then ["NR", "FNR"] else ["NR"]) do
    setGlobal name (.number ((← valueOf name).double.add (Double.ofInt 1)))

/-! ## Output and commands -/

/-- Runs a command in a shell, with an input of its own or an output that is kept. -/
def runCommand (launch : Launcher) (command : Octets) (input? : Option Octets) (keeps : Bool) :
    Run (Nat × Octets) := do
  let words := ["/bin/sh".toList, "-c".toList, command]
  act do
    let p ← read
    let (streams, reader?) ← match ← Task.attempt (redirected p.streams) with
      | .ok result => pure result
      | .error _ => pure (p.streams, none)
    let status ← ReaderT.adapt (fun p => { p with streams }) do
      match ← Tool.run launch p.environment words with
      | .ok (.status n) => return n
      | .ok (.signal n) => return 256 + n
      | .error _ => return 127
    let content ← match reader? with
      | some reader => do
        pure ((← Task.attempt (Attempt.readAll reader)).toOption.getD [])
      | none => pure []
    return (status, content)
where
  /-- The streams of the command, and where its output is read. -/
  redirected (streams : List (Nat × Nat)) : Attempt (List (Nat × Nat) × Option Nat) := do
    let streams ← match input? with
      | some input => do
        let (writer, reader) ← Attempt.pipe false
        Attempt.write writer input
        pure (Keyed.put Prod.fst (0, reader) streams)
      | none => pure streams
    if keeps then
      let (writer, reader) ← Attempt.pipe false
      return (Keyed.put Prod.fst (1, writer) streams, some reader)
    return (streams, none)

/-- Runs a command for which output has been collected; gives its status. -/
def finish (launch : Launcher) (command : Octets) : Run (Option Nat) := do
  let m ← get
  match m.commands.lookup command with
  | none => return none
  | some texts =>
    set { m with commands := m.commands.filter (·.1 ≠ command) }
    let input := texts.foldl (fun after s => s ++ after) []
    return some (← runCommand launch command (some input) false).1

/-- Writes to where output goes. -/
def put (sink? : Option (Sink × Octets)) (s : Octets) : Run Unit := do
  match sink? with
  | none => modify fun m => { m with output := s :: m.output }
  | some (.command, command) =>
    if ((← get).commands.lookup command).isNone then flush
    -- the command that was written for last comes first
    modify fun m =>
      let texts := (m.commands.lookup command).getD []
      { m with commands := (command, s :: texts) :: m.commands.filter (·.1 ≠ command) }
  | some (.file appends, name) =>
    if name = "/dev/stdout".toList then
      modify fun m => { m with output := s :: m.output }
    else if name = "/dev/stderr".toList then act (Task.tell s)
    else
      let m ← get
      let opening : Opening := if appends ∨ m.written.contains name then .append else .write
      set { m with written := if m.written.contains name then m.written else name :: m.written }
      match ← act (Task.writeFile opening name s) with
      | .ok () => return
      | .error errno =>
        fail (Octets.ofString "cannot open \"" ++ name ++
          Octets.ofString ("\" for output (" ++ errno.message ++ ")"))

end Run

end ComponentReference.Rule
