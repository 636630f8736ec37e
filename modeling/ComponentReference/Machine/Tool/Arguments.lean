import ComponentReference.Machine.Tool.Task

/-!
# Arguments of programs

Options are letters behind a dash, or words behind two, and may stand among the operands
unless the program wants them in front.  A word may be cut short as long as it is no
beginning of another one.
-/

namespace ComponentReference.Tool

/-- What options a program has. -/
structure Options where
  /-- The letters of options without a value. -/
  letters : String := ""
  /-- The letters of options with a value. -/
  valued : String := ""
  /-- The letters of options whose words may have a value behind an equals sign. -/
  optional : String := ""
  /-- The letters of options whose value, if they have one, stands behind the letter. -/
  attached : String := ""
  /-- The words of options, each with the letter that it stands for. -/
  words : List (String × Char) := []
  /-- Whether options may stand behind operands. -/
  anywhere : Bool := true
  /-- The status with which the program refuses arguments. -/
  refusal : Nat := 1
  /-- Whether the program's name stands in front of the advice too. -/
  namesAdvice : Bool := false

/-- Arguments that have been taken apart. -/
structure Arguments where
  /-- The options in order, each with its value. -/
  options : List (Char × Octets) := []
  operands : List Octets := []

namespace Arguments

/-- Whether an option is given. -/
def has (a : Arguments) (letter : Char) : Bool :=
  a.options.any (·.1 = letter)

/-- The last value that is given to an option. -/
def value? (a : Arguments) (letter : Char) : Option Octets :=
  (a.options.reverse.find? (·.1 = letter)).map Prod.snd

/-- The last of several options that is given. -/
def last? (a : Arguments) (letters : String) : Option Char :=
  (a.options.reverse.find? fun (c, _) => letters.toList.contains c).map Prod.fst

end Arguments

/-- Why arguments are refused. -/
inductive ArgumentFault where
  | unknownLetter (c : Char)
  | unknownWord (argument : Octets)
  | ambiguous (argument : Octets) (words : List String)
  | valueMissing (c : Char)
  | wordValueMissing (word : String)
  | valueUnwanted (word : String)

/-- The wording of a fault. -/
def ArgumentFault.message : ArgumentFault → Octets
  | unknownLetter c => Octets.ofString "invalid option -- '" ++ [c, '\'']
  | unknownWord argument => Octets.ofString "unrecognized option '" ++ argument ++ ['\'']
  | ambiguous argument words =>
    Octets.ofString "option '" ++ argument ++ Octets.ofString "' is ambiguous; possibilities:" ++
      words.flatMap fun word => Octets.ofString (" '--" ++ word ++ "'")
  | valueMissing c => Octets.ofString "option requires an argument -- '" ++ [c, '\'']
  | wordValueMissing word => Octets.ofString ("option '--" ++ word ++ "' requires an argument")
  | valueUnwanted word => Octets.ofString ("option '--" ++ word ++ "' doesn't allow an argument")

namespace Options

/-- The words that a word may be short for, each with its letter. -/
def meant (o : Options) (name : String) : List (String × Char) :=
  let all := o.words ++ [("help", '\x01'), ("version", '\x02')]
  match all.filter (·.1 = name) with
  | [] => all.filter fun (word, _) => Text.beginsWith name word
  | exact => exact

/-- Takes arguments apart. -/
def parse (o : Options) : (fuel : Nat) → List Octets → Except ArgumentFault Arguments
  | 0, operands => .ok { operands }
  | _, [] => .ok {}
  | fuel + 1, argument :: rest => do
    let more (options : List (Char × Octets)) (rest : List Octets) :
        Except ArgumentFault Arguments := do
      let a ← parse o fuel rest
      return { a with options := options ++ a.options }
    match argument with
    | ['-', '-'] => return { operands := rest }
    | '-' :: '-' :: text =>
      let (name, value) := text.span (· ≠ '=')
      let value? : Option Octets := if value.isEmpty then none else some (value.drop 1)
      match o.meant (String.ofList name) with
      | [] => throw (.unknownWord argument)
      | (word, c) :: others =>
        if others.any (·.2 ≠ c) then
          throw (.ambiguous argument (word :: others.map Prod.fst))
        else if o.valued.toList.contains c then
          match value?, rest with
          | some value, rest => more [(c, value)] rest
          | none, value :: rest => more [(c, value)] rest
          | none, [] => throw (.wordValueMissing word)
        else if value?.isSome then
          if (o.optional ++ o.attached).toList.contains c then more [(c, value?.getD [])] rest
          else throw (.valueUnwanted word)
        else more [(c, [])] rest
    | '-' :: c :: letters =>
      if o.valued.toList.contains c then
        match letters, rest with
        | [], value :: rest => more [(c, value)] rest
        | [], [] => throw (.valueMissing c)
        | value, rest => more [(c, value)] rest
      else if o.attached.toList.contains c then more [(c, letters)] rest
      else if o.letters.toList.contains c then
        more [(c, [])] (if letters.isEmpty then rest else ('-' :: letters) :: rest)
      else throw (.unknownLetter c)
    | operand =>
      if o.anywhere then
        let a ← parse o fuel rest
        return { a with operands := operand :: a.operands }
      else return { operands := argument :: rest }

/-- The arguments of the program, taken apart.  What is wrong with them is complained
about, and ends the program. -/
def take (o : Options) (arguments : List Octets) : Task Arguments := do
  match o.parse ((arguments.map List.length).sum + arguments.length + 1) arguments with
  | .ok a =>
    if a.has '\x01' then Task.finish 0
    if a.has '\x02' then Task.finish 0
    return a
  | .error fault =>
    let title := (← read).title
    Task.complain fault.message
    let advice := Octets.ofString "Try '" ++ title ++ Octets.ofString " --help' for more information."
    if o.namesAdvice then Task.complain advice else Task.tell (advice ++ ['\n'])
    Task.finish o.refusal

/-- The arguments of the process, taken apart. -/
def taken (o : Options) : Task Arguments := do
  o.take (← read).arguments

end Options

/-! ## Complaints about operands -/

/-- A name between the quotes that complaints use for words. -/
def quoted (name : Octets) : Octets :=
  let shown (part : NamePart) : Octets :=
    if part.octets = ['\\'] then ['\\', '\\']
    else if part.octets = Octets.ofString "’" then '\\' :: part.octets
    else if part.isShown then part.octets
    else part.octets.flatMap escape
  Octets.ofString "‘" ++ (nameParts name).flatMap shown ++ Octets.ofString "’"

/-- Complains about a lack of operands, and ends the program. -/
def refuseOperands {α : Type} (message : Octets) (status : Nat := 1) : Task α := do
  let title := (← read).title
  Task.complain message
  Task.tell (Octets.ofString "Try '" ++ title ++ Octets.ofString " --help' for more information.\n")
  Task.finish status

/-- Complains that there is no operand, or none behind the last one. -/
def refuseMissing {α : Type} (operands : List Octets) (status : Nat := 1) : Task α :=
  match operands.getLast? with
  | none => refuseOperands (Octets.ofString "missing operand") status
  | some last => refuseOperands (Octets.ofString "missing operand after " ++ quoted last) status

/-- Complains about one operand too many. -/
def refuseExtra {α : Type} (operand : Octets) (status : Nat := 1) : Task α :=
  refuseOperands (Octets.ofString "extra operand " ++ quoted operand) status

/-- Complains about a file. -/
def complainOf (name : Octets) (errno : Errno) : Task Unit :=
  Task.complain (shownName name ++ Octets.ofString (": " ++ errno.message))

end ComponentReference.Tool
