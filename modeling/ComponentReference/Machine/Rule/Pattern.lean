import ComponentReference.Machine.Regular.Basic
import ComponentReference.Machine.Text.Directive

/-!
# Expressions of rules

The expressions that records are matched against have a form of their own: brackets and
signs without a meaning stand for themselves where that is possible, braces always do, and
what has nothing to act on is at fault.
-/

namespace ComponentReference.Rule

/-- Why text is no expression. -/
inductive PatternFault where
  | missingBracket
  | badClass
  | missingOperand
  | repeatedStart

/-- The wording of a fault. -/
def PatternFault.message : PatternFault → String
  | missingBracket => "missing ')'"
  | badClass => "bad class -- [], [^] or ["
  | missingOperand => "missing operand"
  | repeatedStart => "syntax error ^* or ^+"

namespace Pattern

/-- The octet that a letter behind a backslash stands for in text and in expressions. -/
def escapeLetter? (c : Char) : Option Char :=
  match c with
  | 'a' => some (Char.ofNat 7)
  | 'b' => some (Char.ofNat 8)
  | 'f' => some (Char.ofNat 12)
  | 'n' => some '\n'
  | 'r' => some '\r'
  | 't' => some '\t'
  | 'v' => some (Char.ofNat 11)
  | _ => none

/-- Whether an octet is a digit to the base of sixteen. -/
def isHex (c : Char) : Bool :=
  c.isDigit ∨ ('a' ≤ c.toLower ∧ c.toLower ≤ 'f')

/-- The octet that stands behind a backslash, and what is behind it. -/
def escaped (s : Octets) : Char × Octets :=
  match s with
  | [] => ('\\', [])
  | c :: rest =>
    if Escape.isOctal c then Escape.octal 3 s
    else if c = 'x' ∧ rest.head?.any isHex then
      let digits := (rest.take 2).takeWhile isHex
      (Char.ofNat (Octets.valueOf 16 digits), rest.drop digits.length)
    else ((escapeLetter? c).getD c, rest)

/-- The items of a class up to its end, and what is behind it. -/
def items : (fuel : Nat) → (first : Bool) → Octets → Except PatternFault (List ClassItem × Octets)
  | 0, _, _ | _, _, [] => .error .badClass
  | _, false, ']' :: rest => .ok ([], rest)
  | fuel + 1, _, '[' :: ':' :: rest => do
    let (name, behind) := rest.span Char.isAlpha
    match behind with
    | ':' :: ']' :: rest =>
      let name := String.ofList name
      if (Regular.property? name).isNone then throw .badClass
      let (others, rest) ← items fuel false rest
      return (.named name :: others, rest)
    | _ =>
      let (others, rest) ← items fuel false (':' :: rest)
      return (.range '[' '[' :: others, rest)
  | fuel + 1, _, c :: rest => do
    let (low, rest) := if c = '\\' then escaped rest else (c, rest)
    match rest with
    | '-' :: ']' :: _ | '-' :: [] =>
      let (others, rest) ← items fuel false rest
      return (.range low low :: others, rest)
    | '-' :: d :: behind =>
      let (high, behind) := if d = '\\' then escaped behind else (d, behind)
      if high < low then
        -- what is no range are three items
        let (others, rest) ← items fuel false behind
        return ([low, '-', high].map (fun c => .range c c) ++ others, rest)
      let (others, rest) ← items fuel false behind
      return (.range low high :: others, rest)
    | rest =>
      let (others, rest) ← items fuel false rest
      return (.range low low :: others, rest)

/-- What has been read with the repetitions behind it, and what is behind them. -/
def repeated : (fuel : Nat) → Regular → Octets → Except PatternFault (Regular × Octets)
  | 0, r, s => .ok (r, s)
  | fuel + 1, r, s =>
    match s with
    | '*' :: rest => repeated fuel (.times r 0 none) rest
    | '+' :: rest => repeated fuel (.times r 1 none) rest
    | '?' :: rest => repeated fuel (.times r 0 (some 1)) rest
    | _ => .ok (r, s)

/-- What stands in front of a branch. -/
inductive Front where
  | nothing
  | opening
  | bar
deriving DecidableEq

mutual

/-- Branches up to the end of the text or of the group, and what is behind them. -/
def choices : (fuel depth : Nat) → Front → Octets → Except PatternFault (Regular × Octets)
  | 0, _, _, s => .ok (.empty, s)
  | fuel + 1, depth, front, s => do
    let (first, s) ← branch fuel depth front none s
    match s with
    | '|' :: rest =>
      let (others, s) ← choices fuel depth .bar rest
      return (.choice first others, s)
    | s => return (first, s)

/-- A branch, behind what has been read of it, if there is something. -/
def branch : (fuel depth : Nat) → Front → (before? : Option Regular) → Octets →
    Except PatternFault (Regular × Octets)
  | 0, _, _, before?, s => .ok (before?.getD .empty, s)
  | fuel + 1, depth, front, before?, s => do
    let further (r : Regular) (rest : Octets) : Except PatternFault (Regular × Octets) := do
      let (r, rest) ← repeated (rest.length + 1) r rest
      branch fuel depth front (some (match before? with
        | some before => .sequence before r
        | none => r)) rest
    let ended : Except PatternFault (Regular × Octets) :=
      match before?, front with
      | some r, _ => .ok (r, s)
      | none, .nothing => .ok (.empty, s)
      | none, .opening => .error .missingBracket
      | none, .bar => .error .missingOperand
    match s with
    | [] => ended
    | '|' :: _ => if before?.isNone then throw .missingOperand else ended
    | '(' :: rest =>
      let (inner, rest) ← choices fuel (depth + 1) .opening rest
      match rest with
      | ')' :: rest => further inner rest
      | _ => throw .missingBracket
    | ')' :: rest =>
      if depth = 0 then further (.char ')') rest
      else if before?.isNone then throw .missingOperand
      else ended
    | '[' :: rest =>
      let (inverted, inner) := match rest with
        | '^' :: inner => (true, inner)
        | inner => (false, inner)
      let (listed, rest) ← items (inner.length + 1) true inner
      further (.oneOf inverted listed) rest
    | '^' :: rest =>
      match rest with
      | '*' :: _ | '+' :: _ => throw .repeatedStart
      | _ => further (.edge .textStart) rest
    | '$' :: rest => further (.edge .textEnd) rest
    | '.' :: rest => further .any rest
    | '\\' :: rest =>
      let (c, rest) := escaped rest
      further (.char c) rest
    | c :: rest =>
      if before?.isNone then
        if ['*', '+', '?'].contains c then throw .missingOperand
      further (.char c) rest

end

/-- The expression that text is. -/
def ofText (s : Octets) : Except PatternFault Regular := do
  let (r, _) ← choices (2 * s.length + 2) 0 .nothing s
  return r

end Pattern

end ComponentReference.Rule
