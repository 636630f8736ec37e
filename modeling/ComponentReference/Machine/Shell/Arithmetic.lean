import ComponentReference.Machine.Shell.Script

/-!
# Arithmetic

Expressions of whole numbers of 64 bits, with the operators of C but for those that
count up and down.  What stands behind an operator that does not need it is read, but
changes nothing.
-/

namespace ComponentReference.Shell

/-- Why an expression has no value. -/
inductive SumFault where
  /-- The text is no expression, for the reason. -/
  | form (reason : String)
  /-- The value of a variable is no number. -/
  | notANumber (value : Octets)
deriving DecidableEq, Repr

/-- The wording of a fault in an expression. -/
def SumFault.message (text : Octets) : SumFault → Octets
  | form reason =>
    Octets.ofString ("arithmetic expression: " ++ reason ++ ": \"") ++ text ++ ['"']
  | notANumber value => Octets.ofString "Illegal number: " ++ value

namespace Sum

/-! ## Numbers of 64 bits -/

/-- A number as 64 bits hold it. -/
def wrap (n : Int) : Int :=
  n.bmod (2 ^ 64)

/-- The bits of a number. -/
def bits (n : Int) : Nat :=
  (n.emod (2 ^ 64)).toNat

/-- The number of a truth value. -/
def ofBool (b : Bool) : Int :=
  if b then 1 else 0

/-- The greatest number of 64 bits, which stands for all greater ones. -/
def capped (n : Nat) : Int :=
  if n < 2 ^ 63 then n else 2 ^ 63 - 1

/-- The number at the beginning of the octets, in the base that it shows, and what
follows it. -/
def numberAt (s : Octets) : Int × Octets :=
  let hex := s.drop 2 |>.takeWhile fun c => (Text.hexValue? c).isSome
  match s with
  | '0' :: x :: _ =>
    if (x = 'x' ∨ x = 'X') ∧ !hex.isEmpty then
      (capped (Octets.valueOf 16 hex), s.drop (2 + hex.length))
    else
      let octal := s.takeWhile fun c => '0' ≤ c ∧ c ≤ '7'
      (capped (Octets.valueOf 8 octal), s.drop octal.length)
  | _ =>
    let (digits, rest) := s.span Char.isDigit
    (capped (Octets.valueOf 10 digits), rest)

/-- Whether an octet is blank. -/
def isBlank (c : Char) : Bool :=
  [' ', '\t', '\n', '\r', Char.ofNat 11, Char.ofNat 12].contains c

/-- The number that a value is, with blanks around it.  No value is zero. -/
def ofValue (s : Octets) : Except SumFault Int :=
  let body := s.dropWhile isBlank
  let (negative, digits) := match body with
    | '-' :: rest => (true, rest)
    | '+' :: rest => (false, rest)
    | rest => (false, rest)
  if digits.head?.any Char.isDigit then
    let (n, rest) := numberAt digits
    if (rest.dropWhile isBlank).isEmpty then .ok (if negative then -n else n)
    else .error (.notANumber s)
  else if body.isEmpty then .ok 0
  else .error (.notANumber s)

/-! ## Tokens -/

/-- An element of an expression. -/
inductive Token where
  | number (n : Int)
  | variable (name : Octets)
  /-- An operator or a bracket, as it is written. -/
  | sign (s : String)
  /-- What does not belong into an expression. -/
  | other
deriving DecidableEq

/-- The signs, those before those that they begin with. -/
def signs : List String :=
  ["<<=", ">>=", "<<", ">>", "<=", ">=", "==", "!=", "&&", "||", "+=", "-=", "*=", "/=", "%=",
    "&=", "|=", "^=", "<", ">", "=", "!", "+", "-", "*", "/", "%", "&", "|", "^", "~", "(", ")",
    "?", ":"]

/-- The elements of an expression. -/
def tokens : (fuel : Nat) → Octets → List Token
  | 0, _ | _, [] => []
  | fuel + 1, c :: rest =>
    if c = ' ' ∨ c = '\t' ∨ c = '\n' then tokens fuel rest
    else if c.isDigit then
      let (n, rest) := numberAt (c :: rest)
      .number n :: tokens fuel rest
    else if isNameOctet c then
      let (name, rest) := (c :: rest).span isNameOctet
      .variable name :: tokens fuel rest
    else
      match signs.find? fun sign => sign.toList.isPrefixOf (c :: rest) with
      | some sign => .sign sign :: tokens fuel ((c :: rest).drop sign.length)
      | none => .other :: tokens fuel rest

/-! ## Values -/

/-- How far an expression has been read, and what variables have become. -/
structure Reading where
  rest : List Token
  /-- The values that the expression has given to variables, the latest first. -/
  assigned : List (Octets × Octets) := []

/-- What reads a part of an expression and gives its value. -/
abbrev Evaluator := StateT Reading (Except SumFault)

/-- Takes the sign if it comes next. -/
def accept (s : String) : Evaluator Bool := do
  match (← get).rest with
  | .sign t :: rest =>
    if s = t then
      modify fun r => { r with rest }
      return true
    return false
  | _ => return false

/-- The value of a variable. -/
def valueOf (value? : Octets → Option Octets) (name : Octets) : Evaluator Int := do
  match ofValue ((((← get).assigned.lookup name).or (value? name)).getD []) with
  | .ok n => return n
  | .error fault => throw fault

/-- The operators between two values, the loosest first; those of one rank are read from
the left. -/
def ranks : List (List String) :=
  [["|"], ["^"], ["&"], ["==", "!="], ["<", "<=", ">", ">="], ["<<", ">>"], ["+", "-"],
    ["*", "/", "%"]]

/-- The value of an operator on two values. -/
def combine (operator : String) (a b : Int) : Evaluator Int := do
  match operator with
  | "|" => return wrap (bits a ||| bits b)
  | "^" => return wrap (bits a ^^^ bits b)
  | "&" => return wrap (bits a &&& bits b)
  | "==" => return ofBool (a = b)
  | "!=" => return ofBool (a ≠ b)
  | "<" => return ofBool (a < b)
  | "<=" => return ofBool (a ≤ b)
  | ">" => return ofBool (a > b)
  | ">=" => return ofBool (a ≥ b)
  | "<<" => return wrap (a * 2 ^ (bits b % 64))
  | ">>" => return a.fdiv (2 ^ (bits b % 64))
  | "+" => return wrap (a + b)
  | "-" => return wrap (a - b)
  | "*" => return wrap (a * b)
  | _ =>
    if b = 0 then throw (.form "division by zero")
    return wrap (if operator = "/" then a.tdiv b else a.tmod b)

mutual

/-- An expression, with an assignment perhaps. -/
def assignment (value? : Octets → Option Octets) (counts : Bool) : (fuel : Nat) → Evaluator Int
  | 0 => throw (.form "expecting primary")
  | fuel + 1 => do
    match (← get).rest with
    | .variable name :: .sign sign :: rest =>
      if sign = "=" ∨ ["+=", "-=", "*=", "/=", "%=", "&=", "|=", "^=", "<<=", ">>="].contains sign then
        modify fun r => { r with rest }
        let value ← assignment value? counts fuel
        if !counts then return value
        let value ←
          if sign = "=" then pure value
          else combine (String.ofList sign.toList.dropLast) (← valueOf value? name) value
        modify fun r => { r with assigned := (name, Octets.ofInt value) :: r.assigned }
        return value
      else conditional value? counts fuel
    | _ => conditional value? counts fuel

/-- An expression without an assignment outside brackets. -/
def conditional (value? : Octets → Option Octets) (counts : Bool) : (fuel : Nat) → Evaluator Int
  | 0 => throw (.form "expecting primary")
  | fuel + 1 => do
    let a ← disjunction value? counts fuel
    if ← accept "?" then
      let b ← assignment value? (counts && a ≠ 0) fuel
      if !(← accept ":") then throw (.form "expecting ':'")
      let c ← conditional value? (counts && a = 0) fuel
      return if a ≠ 0 then b else c
    return a

/-- Expressions of which one is to hold. -/
def disjunction (value? : Octets → Option Octets) (counts : Bool) : (fuel : Nat) → Evaluator Int
  | 0 => throw (.form "expecting primary")
  | fuel + 1 => do
    let a ← conjunction value? counts fuel
    if ← accept "||" then
      let b ← disjunction value? (counts && a = 0) fuel
      return ofBool (a ≠ 0 || b ≠ 0)
    return a

/-- Expressions that are all to hold. -/
def conjunction (value? : Octets → Option Octets) (counts : Bool) : (fuel : Nat) → Evaluator Int
  | 0 => throw (.form "expecting primary")
  | fuel + 1 => do
    let a ← ranked value? counts ranks fuel
    if ← accept "&&" then
      let b ← conjunction value? (counts && a ≠ 0) fuel
      return ofBool (a ≠ 0 && b ≠ 0)
    return a

/-- Operands between operators of the given ranks. -/
def ranked (value? : Octets → Option Octets) (counts : Bool) (ranks : List (List String)) :
    (fuel : Nat) → Evaluator Int
  | 0 => throw (.form "expecting primary")
  | fuel + 1 => do
    match ranks with
    | [] => primary value? counts fuel
    | operators :: tighter =>
      let a ← ranked value? counts tighter fuel
      more value? counts operators tighter a fuel

/-- What follows an operand among operators of one rank. -/
def more (value? : Octets → Option Octets) (counts : Bool) (operators : List String)
    (tighter : List (List String)) (a : Int) : (fuel : Nat) → Evaluator Int
  | 0 => throw (.form "expecting primary")
  | fuel + 1 => do
    match (← get).rest with
    | .sign sign :: rest =>
      if operators.contains sign then
        modify fun r => { r with rest }
        let b ← ranked value? counts tighter fuel
        let divides := sign = "/" ∨ sign = "%"
        let c ← if divides ∧ !counts then pure 0 else combine sign a b
        more value? counts operators tighter c fuel
      else return a
    | _ => return a

/-- An operand. -/
def primary (value? : Octets → Option Octets) (counts : Bool) : (fuel : Nat) → Evaluator Int
  | 0 => throw (.form "expecting primary")
  | fuel + 1 => do
    match (← get).rest with
    | .number n :: rest =>
      modify fun r => { r with rest }
      return n
    | .variable name :: rest =>
      modify fun r => { r with rest }
      if counts then valueOf value? name else return 0
    | .sign sign :: rest =>
      if !(["(", "+", "-", "!", "~"].contains sign) then throw (.form "expecting primary")
      modify fun r => { r with rest }
      match sign with
      | "(" =>
        let value ← assignment value? counts fuel
        if !(← accept ")") then throw (.form "expecting ')'")
        return value
      | "-" => return wrap (-(← primary value? counts fuel))
      | "!" => return ofBool ((← primary value? counts fuel) = 0)
      | "~" => return -(← primary value? counts fuel) - 1
      | _ => primary value? counts fuel
    | _ => throw (.form "expecting primary")

end

/-- The value of an expression, given those of variables, and what variables become
through it, the latest last. -/
def evaluate (value? : Octets → Option Octets) (text : Octets) :
    Except SumFault (Int × List (Octets × Octets)) := do
  let all := tokens (text.length + 1) text
  let fuel := 16 * (all.length + 2)
  let (value, reading) ← (assignment value? true fuel).run { rest := all }
  if !reading.rest.isEmpty then throw (.form "expecting EOF")
  return (value, reading.assigned.reverse)

end Sum

end ComponentReference.Shell
