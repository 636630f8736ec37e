import ComponentReference.Machine.Text.Octets

/-!
# Conditions

The conditions that `test` checks: operators on texts, numbers and files, joined by
"and" and "or".  Where an operator could also be an operand, the number of words decides.
-/

namespace ComponentReference.Shell.Condition

/-- Why a condition cannot be checked. -/
inductive ConditionFault where
  | unexpected (word : Octets)
  | argumentExpected (operator : Octets)
  | bracketExpected
  | notANumber (word : Octets)
deriving DecidableEq, Repr

/-- The wording of a fault. -/
def ConditionFault.message : ConditionFault → Octets
  | unexpected word =>
    if word.isEmpty then Octets.ofString "unexpected operator"
    else word ++ Octets.ofString ": unexpected operator"
  | argumentExpected operator => operator ++ Octets.ofString ": argument expected"
  | bracketExpected => Octets.ofString "closing paren expected"
  | notANumber word => Octets.ofString "Illegal number: " ++ word

/-- What conditions ask about files. -/
structure Files where
  /-- Whether what is at a path has the property of an operator. -/
  holds : Char → Octets → Bool
  /-- Whether two paths lead to one place. -/
  areSame : Octets → Octets → Bool
  /-- Whether what is at the first path has been changed after what is at the second. -/
  isNewer : Octets → Octets → Bool

/-- The operators on one word. -/
def isUnary (word : Octets) : Bool :=
  match word with
  | ['-', c] => "rwxefdcbpugkstznhOGLS".toList.contains c
  | _ => false

/-- The operators between two words. -/
def isBinary (word : Octets) : Bool :=
  ["=", "!=", "<", ">", "-eq", "-ne", "-ge", "-gt", "-le", "-lt", "-nt", "-ot", "-ef"].any
    (·.toList = word)

/-- A kind of word in a condition. -/
inductive Kind where
  | ending
  | operand
  | unary
  | binary
  | not
  | and
  | or
  | opening
  | closing
deriving DecidableEq

/-- The kind of the word at the beginning of words. -/
def kindOf : List Octets → Kind
  | [] => .ending
  | word :: rest =>
    let standsAlone := match rest with
      | [] => true
      | [_] => false
      | second :: _ => isBinary second
    match word with
    | ['!'] => .not
    | ['-', 'a'] => .and
    | ['-', 'o'] => .or
    | ['('] => if rest.isEmpty then .operand else .opening
    | [')'] => .closing
    | word =>
      if isBinary word then .binary
      else if isUnary word ∧ !standsAlone then .unary
      else .operand

/-- What checks the beginning of words: whether it holds, and the last word that it
concerns with those after it. -/
abbrev Checker := StateT (List Octets) (Except ConditionFault)

/-- The number that a word writes, with blanks around it. -/
def number (word : Octets) : Checker Int := do
  let isBlank (c : Char) : Bool := c = ' ' ∨ ('\t' ≤ c ∧ c ≤ '\r')
  match Octets.int? (((word.dropWhile isBlank).reverse.dropWhile isBlank).reverse) with
  | some n => return n
  | none => throw (.notANumber word)

/-- Whether an operator holds between two words. -/
def compare (files : Files) (operator a b : Octets) : Checker Bool := do
  let numbers (f : Int → Int → Bool) : Checker Bool := do
    let m ← number a
    return f m (← number b)
  match String.ofList operator with
  | "=" => return a = b
  | "!=" => return a ≠ b
  | "<" => return Octets.isBefore a b
  | ">" => return Octets.isBefore b a
  | "-eq" => numbers (· == ·)
  | "-ne" => numbers (· != ·)
  | "-ge" => numbers (· ≥ ·)
  | "-gt" => numbers (· > ·)
  | "-le" => numbers (· ≤ ·)
  | "-lt" => numbers (· < ·)
  | "-ef" => return files.areSame a b
  | "-nt" => return files.isNewer a b
  | "-ot" => return files.isNewer b a
  | _ => return false

mutual

/-- Conditions of which one is to hold. -/
def either (files : Files) : (fuel : Nat) → Checker Bool
  | 0 => return false
  | fuel + 1 => do
    let first ← all files fuel
    let words ← get
    if kindOf (words.drop 1) = .or then
      set (words.drop 2)
      let rest ← either files fuel
      return first || rest
    return first

/-- Conditions that are all to hold. -/
def all (files : Files) : (fuel : Nat) → Checker Bool
  | 0 => return false
  | fuel + 1 => do
    let first ← negated files fuel
    let words ← get
    if kindOf (words.drop 1) = .and then
      set (words.drop 2)
      let rest ← all files fuel
      return first && rest
    return first

/-- A condition that may be negated. -/
def negated (files : Files) : (fuel : Nat) → Checker Bool
  | 0 => return false
  | fuel + 1 => do
    let words ← get
    if kindOf words = .not then
      if kindOf (words.drop 1) ≠ .ending then set (words.drop 1)
      return !(← if kindOf (words.drop 1) = .ending then pure false else negated files fuel)
    primary files fuel

/-- A condition without joints outside brackets. -/
def primary (files : Files) : (fuel : Nat) → Checker Bool
  | 0 => return false
  | fuel + 1 => do
    match kindOf (← get), ← get with
    | .opening, _ :: rest =>
      set rest
      if kindOf rest = .closing then return false
      let value ← either files fuel
      let words ← get
      set (words.drop 1)
      if kindOf (words.drop 1) ≠ .closing then throw .bracketExpected
      return value
    | .unary, operator :: rest =>
      set rest
      match operator, rest with
      | ['-', c], word :: _ =>
        match c with
        | 'z' => return word.isEmpty
        | 'n' => return !word.isEmpty
        | 't' =>
          let _ ← number word
          return false
        | c => return files.holds c word
      | operator, _ => throw (.argumentExpected operator)
    | _, word :: rest =>
      if kindOf rest = .binary then
        match rest with
        | operator :: second :: _ =>
          set (rest.drop 1)
          compare files operator word second
        | operator :: [] => throw (.argumentExpected operator)
        | [] => return false
      else return !word.isEmpty
    | _, [] => return false

end

/-- Whether the words, which are no operators where their number says so, are a condition
that holds. -/
def check (files : Files) : (fuel : Nat) → List Octets → Except ConditionFault Bool
  | 0, _ => .ok false
  | fuel + 1, words =>
    let general (words : List Octets) : Except ConditionFault Bool := do
      let (value, rest) ← (either files (4 * (words.length + 2))).run words
      if rest.length > 1 then throw (.unexpected (rest.head?.getD []))
      return value
    let negating (words : List Octets) : Except ConditionFault Bool := do
      match words with
      | ['!'] :: rest => return !(← check files fuel rest)
      | words => general words
    match words with
    | [] => .ok false
    | [a, operator, b] =>
      if isBinary operator then
        (compare files operator a b).run words |>.map Prod.fst
      else if a = ['('] ∧ b = [')'] then general [operator]
      else negating words
    | [a, b, c, d] =>
      if a = ['('] ∧ d = [')'] then general [b, c] else negating words
    | words => general words

end ComponentReference.Shell.Condition
