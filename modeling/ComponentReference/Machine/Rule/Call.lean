import ComponentReference.Machine.Rule.Run

/-!
# Calling for rules

The arguments of a call say which rules are gone through, what separates fields, which
variables have values in the beginning, and which files are read.
-/

namespace ComponentReference.Rule

/-- How the program is called. -/
structure Call where
  separator? : Option Octets := none
  assignments : List Octets := []
  files : List Octets := []
  operands : List Octets := []
  /-- Whether it is told how the program is called. -/
  explains : Bool := false

/-- How the program is called, in lines. -/
def usage : List String :=
  ["Usage: mawk [Options] [Program] [file ...]",
    "",
    "Program:",
    "    The -f option value is the name of a file containing program text.",
    "    If no -f option is given, a \"--\" ends option processing; the following",
    "    parameters are the program text.",
    "",
    "Options:",
    "    -f program-file  Program  text is read from file instead of from the",
    "                     command-line.  Multiple -f options are accepted.",
    "    -F value         sets the field separator, FS, to value.",
    "    -v var=value     assigns value to program variable var.",
    "    --               unambiguous end of options.",
    "",
    "    Implementation-specific options are prefixed with \"-W\".  They can be",
    "    abbreviated:",
    "",
    "    -W version       show version information and exit.",
    "    -W compat        pre-POSIX 2001.",
    "    -W dump          show assembler-like listing of program and exit.",
    "    -W help          show this message and exit.",
    "    -W interactive   set unbuffered output, line-buffered input.",
    "    -W exec file     use file as program as well as last option.",
    "    -W posix         stricter POSIX checking.",
    "    -W random=number set initial random seed.",
    "    -W sprintf=number adjust size of sprintf buffer.",
    "    -W usage         show this message and exit."]

/-- Whether the beginning of the word for an option asks how the program is called. -/
def asksForUsage (word : Octets) : Bool :=
  !word.isEmpty && ["help", "usage"].any fun option => word.isPrefixOf option.toList

/-- Reads the arguments of a call, or gives what is wrong with them. -/
def Call.ofArguments : (fuel : Nat) → Call → List Octets → Except Octets Call
  | 0, call, operands => .ok { call with operands }
  | fuel + 1, call, arguments =>
    let valued (c : Char) (value : Octets) (rest : List Octets) : Except Octets Call :=
      match c with
      | 'F' => ofArguments fuel { call with separator? := some value } rest
      | 'v' => ofArguments fuel { call with assignments := call.assignments ++ [value] } rest
      | 'W' =>
        if asksForUsage value then .ok { call with explains := true }
        else ofArguments fuel call rest
      | _ => ofArguments fuel { call with files := call.files ++ [value] } rest
    match arguments with
    | ['-', '-'] :: rest | ['-'] :: rest => .ok { call with operands := rest }
    | ('-' :: '-' :: word) :: _ =>
      if asksForUsage word then .ok { call with explains := true }
      else .error (Octets.ofString "not an option: --" ++ word)
    | ('-' :: c :: letters) :: rest =>
      if c = 'F' ∨ c = 'v' ∨ c = 'f' ∨ c = 'W' then
        match letters, rest with
        | [], value :: rest => valued c value rest
        | [], [] => .error (Octets.ofString "option -" ++ [c] ++ Octets.ofString " lacks argument")
        | value, rest => valued c value rest
      else .error (Octets.ofString "not an option: " ++ '-' :: c :: letters)
    | operands => .ok { call with operands }

/-- What is wrong with an assignment that an option says, if something is. -/
def assignmentFault? (assignment : Octets) : Option Octets :=
  let (name, value) := assignment.span (· ≠ '=')
  let isName : Bool := match name with
    | c :: rest => (c.isAlpha || c = '_') && rest.all fun c => c.isAlphanum || c = '_'
    | [] => false
  let word := String.ofList name
  if !isName ∨ value.isEmpty then some (Octets.ofString "improper assignment: -v " ++ assignment)
  else if keywords.contains word ∨ (builtins.lookup word).isSome then
    some (Octets.ofString ("run time error: cannot command line assign to " ++ word ++
      "\n\ttype clash or keyword\n\tFILENAME=\"\" FNR=0 NR=0"))
  else none

/-- The memory in the beginning. -/
def memoryOf (p : Process) (rules : Rules) (operands : List Octets) : Memory :=
  let named (name : String) (s : Octets) : String × Binding := (name, .value (.text s))
  let zero (name : String) : String × Binding := (name, .value (.ofNat 0))
  let environment := p.environment.foldl (fun (t : Table Value) (name, value) =>
    t.put (.text name) (.ofRead value)) {}
  let arguments := (p.title :: operands).zipIdx.foldl (fun (t : Table Value) (s, i) =>
    t.put (.whole i) (Value.ofRead s)) {}
  let globals : List (String × Binding) :=
    [named "FS" [' '], named "OFS" [' '], named "ORS" ['\n'], named "RS" ['\n'],
      named "SUBSEP" [Char.ofNat 28], named "CONVFMT" "%.6g".toList,
      named "OFMT" "%.6g".toList, named "FILENAME" [], zero "NR", zero "FNR", zero "NF",
      zero "RSTART", ("RLENGTH", .value (.number (Double.ofInt (-1)))),
      ("ARGC", .value (.ofNat arguments.size)), ("ENVIRON", .array 0), ("ARGV", .array 1)]
  { rules, globals, arrays := [(0, environment), (1, arguments)], fresh := 2 }

/-- The text of the rules, and the operands that are left. -/
def Call.text (call : Call) : Task (Octets × List Octets) := do
  if call.files.isEmpty then
    match call.operands with
    | [] => Task.finish 0
    | text :: operands => return (text, operands)
  else
    let texts ← call.files.mapM fun name => do
      match ← Task.readOperand name with
      | .ok content => return content ++ ['\n']
      | .error errno => Task.refuse 2 (Octets.ofString "cannot open \"" ++ name ++
          Octets.ofString ("\" (" ++ errno.message ++ ")"))
    return (texts.flatten, call.operands)

/-- Runs rules over records, as the process that it is. -/
def run (launch : Launcher) : Program := do
  let p ← read
  if p.arguments.isEmpty then
    for line in usage do
      Task.tell (Octets.ofString (line ++ "\n"))
    Task.finish 0
  match Call.ofArguments (p.arguments.length + 1) {} p.arguments with
  | .error message => Task.refuse 2 message
  | .ok call =>
    if call.explains then
      for line in usage do
        Task.print (line ++ "\n")
      Task.finish 0
    match call.assignments.findSome? assignmentFault? with
    | some complaint => Task.refuse 2 complaint
    | none => pure ()
    let (text, operands) ← call.text
    let separator := (call.separator?.map Run.unescaped).getD [' ']
    if separator.length ≠ 1 then
      match Pattern.ofText separator with
      | .ok _ => pure ()
      | .error fault =>
        Task.refuse 2 (Octets.ofString ("line 0: regular expression compile failed (" ++
          fault.message ++ ")\n") ++ separator)
    match rulesOf text with
    | .error messages =>
      for message in messages do
        Task.complain message
      Task.finish 2
    | .ok rules =>
      let program : Run Nat := do
        Run.setGlobal "FS" (.text separator)
        for assignment in call.assignments do
          let _ ← Run.takeAssignment assignment
        Run.program launch
      let (status, _) ← program.run.run (memoryOf p rules operands)
      return status.toOption.getD 2

/-- Runs rules over records; the directory in the name of the program is left out. -/
def main (launch : Launcher) : Program :=
  ReaderT.adapt (fun p => { p with title := ((p.title.reverse.takeWhile (· ≠ '/')).reverse) })
    (run launch)

end ComponentReference.Rule
