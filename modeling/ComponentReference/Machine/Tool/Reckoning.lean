import ComponentReference.Machine.Regular.Reader
import ComponentReference.Machine.Tool.Searching

/-!
# Reckoning with words

An expression of words is reckoned: numbers are added and compared, texts are compared
and matched.
-/

namespace ComponentReference.Tool

/-- Why words are no expression. -/
inductive WordsFault where
  | missingBehind (word : Octets)
  | unexpected (word : Octets)
  | unclosed (word : Octets)
  | unexpectedClosing
  | notANumber
  | zeroDivision
  | badExpression (fault : Regular.FormFault)

/-- The wording of a fault. -/
def WordsFault.message : WordsFault → Octets
  | missingBehind word => Octets.ofString "syntax error: missing argument after " ++ quoted word
  | unexpected word => Octets.ofString "syntax error: unexpected argument " ++ quoted word
  | unclosed word => Octets.ofString "syntax error: expecting ')' after " ++ quoted word
  | unexpectedClosing => Octets.ofString "syntax error: unexpected ')'"
  | notANumber => Octets.ofString "non-integer argument"
  | zeroDivision => Octets.ofString "division by zero"
  | badExpression fault => Octets.ofString fault.message

/-- What reckons with words: those that are left, and the last one that has been taken. -/
abbrev Reckoner := StateT (List Octets × Octets) (Except WordsFault)

namespace Reckoner

/-- The next word, if there is one. -/
def peek : Reckoner (Option Octets) :=
  return (← get).1.head?

/-- Takes the next word. -/
def take : Reckoner Octets := do
  match ← get with
  | ([], last) => throw (.missingBehind last)
  | (word :: rest, _) =>
    set (rest, word)
    return word

/-- The number that a text is. -/
def number (s : Octets) : Reckoner Int :=
  match Octets.int? s with
  | some n => if s.head? = some '+' then throw .notANumber else return n
  | none => throw .notANumber

/-- Whether a text counts as nothing. -/
def isNull (s : Octets) : Bool :=
  s.isEmpty || (match Octets.int? s with
    | some n => n = 0
    | none => false)

/-- The text for whether something holds. -/
def ofBool (b : Bool) : Octets := if b then ['1'] else ['0']

/-- What a text gives that is matched by an expression: the first group, or how long the
part is that matches at the beginning. -/
def matched (text pattern : Octets) : Reckoner Octets := do
  match Regular.ofText { emptyRanges := true } (charactersOf pattern) with
  | .error fault => throw (.badExpression fault)
  | .ok r =>
    let found? := (Regular.ends (Regular.fitted {} r) r { rest := charactersOf text }).head?
    if 0 < Regular.groupCount r then
      return octetsLike text ((found?.bind fun p => p.groups.lookup 1).getD [])
    return Octets.ofNat ((found?.map Regular.Place.position).getD 0)

/-- The operators, those first that bind the least. -/
def levels : List (List String) :=
  [["|"], ["&"], ["<", "<=", "=", "==", "!=", ">=", ">"], ["+", "-"], ["*", "/", "%"], [":"]]

/-- What an operator makes of two values. -/
def applied (operator : String) (s t : Octets) : Reckoner Octets := do
  let order : Ordering := match Octets.int? s, Octets.int? t with
    | some m, some n => compare m n
    | _, _ => if Octets.isBefore s t then .lt else if s = t then .eq else .gt
  match operator with
  | "|" => return if isNull s then (if isNull t then ['0'] else t) else s
  | "&" => return if isNull s || isNull t then ['0'] else s
  | "<" => return ofBool order.isLT
  | "<=" => return ofBool order.isLE
  | "=" | "==" => return ofBool order.isEq
  | "!=" => return ofBool order.isNe
  | ">=" => return ofBool order.isGE
  | ">" => return ofBool order.isGT
  | ":" => matched s t
  | operator =>
    let m ← number s
    let n ← number t
    match operator with
    | "+" => return Octets.ofInt (m + n)
    | "-" => return Octets.ofInt (m - n)
    | "*" => return Octets.ofInt (m * n)
    | "/" => if n = 0 then throw .zeroDivision else return Octets.ofInt (m.tdiv n)
    | _ => if n = 0 then throw .zeroDivision else return Octets.ofInt (m.tmod n)

mutual

/-- An operand, or what begins with the name of a function. -/
def primary : (fuel : Nat) → Reckoner Octets
  | 0 => return []
  | fuel + 1 => do
    let word ← take
    match String.ofList word with
    | "(" =>
      let value ← reckon fuel 0
      match ← peek with
      | some [')'] =>
        let _ ← take
        return value
      | _ => throw (.unclosed (← get).2)
    | ")" => throw .unexpectedClosing
    | "+" => take
    | "length" => return Octets.ofNat (charactersOf (← primary fuel)).length
    | "match" =>
      let text ← primary fuel
      matched text (← primary fuel)
    | "index" =>
      let text := charactersOf (← primary fuel)
      let wanted := charactersOf (← primary fuel)
      return Octets.ofNat (((text.findIdx? wanted.contains).map (· + 1)).getD 0)
    | "substr" =>
      let text ← primary fuel
      let start := (Octets.int? (← primary fuel)).getD 0
      let length := (Octets.int? (← primary fuel)).getD 0
      if start ≤ 0 ∨ length ≤ 0 then return []
      return octetsLike text (((charactersOf text).drop (start.toNat - 1)).take length.toNat)
    | _ => return word

/-- An expression of operators that bind at least so tightly. -/
def reckon : (fuel : Nat) → (level : Nat) → Reckoner Octets
  | 0, _ => return []
  | fuel + 1, level => do
    if 6 ≤ level then primary fuel
    else
      let first ← reckon fuel (level + 1)
      further fuel level first

/-- The value of an expression whose beginning has a value, up to an operator of another
level. -/
def further : (fuel : Nat) → (level : Nat) → Octets → Reckoner Octets
  | 0, _, value => return value
  | fuel + 1, level, value => do
    match (← peek).bind fun word => (levels[level]?).bind fun words =>
        if words.contains (String.ofList word) then some (String.ofList word) else none with
    | none => return value
    | some operator =>
      let _ ← take
      let second ← reckon fuel (level + 1)
      further fuel level (← applied operator value second)

end

end Reckoner

/-- Reckons with the arguments. -/
def expr : Program := do
  let p ← read
  let words := if p.arguments.head? = some ['-', '-'] then p.arguments.drop 1 else p.arguments
  if words.isEmpty then refuseMissing [] 2
  match (Reckoner.reckon (20 * (words.length + 2)) 0).run (words, []) with
  | .error fault =>
    Task.complain fault.message
    return 2
  | .ok (_, extra :: _, _) =>
    Task.complain (WordsFault.unexpected extra).message
    return 2
  | .ok (value, [], _) =>
    Task.write (value ++ ['\n'])
    return if Reckoner.isNull value then 1 else 0

end ComponentReference.Tool
