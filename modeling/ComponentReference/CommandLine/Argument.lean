import ComponentReference.CommandLine.Flag
import ComponentReference.Text.DecimalDigit
import ComponentReference.Text.Quoted

/-!
# Arguments

Before anything is done about the arguments of a command line, each is told apart
by its form alone: a flag, perhaps with a value attached, or a plain text, or what
looks like a flag but is none.  After the separator `--` every text is plain.
-/

namespace ComponentReference.CommandLine

/-- What is wrong with a command line. -/
inductive UsageFault where
  /-- An abbreviation stands for several flags. -/
  | ambiguous (argument : String) (candidates : List Flag)
  /-- A flag comes without its value. -/
  | valueMissing (flag : Flag)
  /-- A flag comes with a value that it does not take. -/
  | valueUnwanted (flag : Flag) (value : String)
  /-- Arguments mean nothing. -/
  | unrecognized (arguments : List String)
deriving DecidableEq, Repr

/-- The wording of a fault. -/
def UsageFault.message : UsageFault → String
  | ambiguous argument candidates =>
    "ambiguous option: " ++ argument ++ " could match " ++
      ", ".intercalate (candidates.map Flag.long)
  | valueMissing flag => "argument " ++ flag.label ++ ": expected one argument"
  | valueUnwanted flag value =>
    "argument " ++ flag.label ++ ": ignored explicit argument " ++ Text.quoted value
  | unrecognized arguments => "unrecognized arguments: " ++ " ".intercalate arguments

/-- An argument by its form. -/
inductive Argument where
  | plain (text : String)
  | separator
  /-- A flag, by its letter or its long spelling, and the value attached to it. -/
  | flag (flag : Flag) (byLetter : Bool) (attached : Option String)
  /-- What has the form of a flag but is none. -/
  | unknown (text : String)
deriving DecidableEq, Repr

namespace Argument

/-- The separator as it is written. -/
def separatorText : String := "--"

/-- Whether the argument has the form of a flag. -/
def isFlagLike : Argument → Bool
  | flag _ _ _ | unknown _ => true
  | plain _ | separator => false

/-- Whether a text after a minus sign makes up a negative number: digits, or digits
after a point and perhaps before it.  One line feed may end it. -/
def isNumber (s : List Char) : Bool :=
  let (whole, rest) := s.span Text.isDecimalDigit
  match rest with
  | '.' :: more => endsAfterDigits more
  | _ => !whole.isEmpty && isEnd rest
where
  /-- Whether at least one digit follows, and then the end. -/
  endsAfterDigits (s : List Char) : Bool :=
    let (digits, rest) := s.span Text.isDecimalDigit
    !digits.isEmpty && isEnd rest
  /-- Whether nothing follows but one line feed. -/
  isEnd (s : List Char) : Bool :=
    s = [] ∨ s = ['\n']

/-- What begins with a minus sign and is no flag. -/
def ofNonFlag (s : String) : Argument :=
  if isNumber (s.toList.drop 1) ∨ s.toList.contains ' ' then plain s else unknown s

/-- An argument that begins with a minus sign and the letter `c`. -/
def ofLetter (s : String) (c : Char) (rest : List Char) : Argument :=
  match Flag.ofLetter? c with
  | none => ofNonFlag s
  | some f =>
    match rest with
    | [] => flag f true none
    | '=' :: value | value => flag f true (some (String.ofList value))

/-- An argument that begins with two minus signs.  The long spelling of a flag may
be abbreviated. -/
def ofLong (s : String) : Except UsageFault Argument :=
  let (spelling, attached) := match Text.cutAt? '=' s with
    | some (before, after) => (before, some after)
    | none => (s, none)
  match Flag.ofLong? s, Flag.ofLong? spelling, Flag.completions spelling with
  | some f, _, _ => .ok (flag f false none)
  | none, some f, _ | none, none, [f] => .ok (flag f false attached)
  | none, none, [] => .ok (ofNonFlag s)
  | none, none, candidates => .error (.ambiguous s candidates)

/-- The argument that a text is, where it is not the separator. -/
def ofString (s : String) : Except UsageFault Argument :=
  match s.toList with
  | '-' :: '-' :: _ => ofLong s
  | '-' :: c :: rest => .ok (ofLetter s c rest)
  | _ => .ok (plain s)

/-- The arguments that the texts of a command line are. -/
def ofStrings : List String → Except UsageFault (List Argument)
  | [] => .ok []
  | s :: rest =>
    if s = separatorText then .ok (separator :: rest.map plain)
    else do return (← ofString s) :: (← ofStrings rest)

/-- The text of an argument that is no flag. -/
def text : Argument → String
  | plain s | unknown s => s
  | separator => separatorText
  | flag f _ _ => f.long

end Argument

end ComponentReference.CommandLine
