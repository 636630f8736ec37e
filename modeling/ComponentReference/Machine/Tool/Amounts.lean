import ComponentReference.Machine.Tool.Arguments

/-!
# Amounts

Numbers in arguments, with letters behind them that stand for factors.
-/

namespace ComponentReference.Tool

/-- What is wrong with the text of an amount. -/
inductive AmountFault where
  | noNumber
  | badUnit
  | tooLarge
deriving DecidableEq

/-- The greatest amount. -/
def greatestAmount : Nat := 2 ^ 64 - 1

/-- The digits at the beginning of a text, as a number, and what follows them.  In any base,
a zero in front means eight, and one with an x sixteen. -/
def leadingNumber? (anyBase : Bool) (text : Octets) : Option (Nat × Octets) :=
  let read (base : Nat) (isDigit : Char → Bool) (s : Octets) : Option (Nat × Octets) :=
    let (digits, rest) := s.span isDigit
    if digits.isEmpty then none else some (Octets.valueOf base digits, rest)
  match anyBase, text with
  | true, '0' :: x :: rest =>
    let sixteen := if x = 'x' ∨ x = 'X' then read 16 (fun c => (Text.hexValue? c).isSome) rest else none
    sixteen <|> read 8 (fun c => '0' ≤ c ∧ c ≤ '7') text
  | _, text => read 10 Char.isDigit text

/-- The factor that letters behind a number stand for: a power of 1024, or of 1000 if a B
follows; a b alone stands for 512. -/
def unitOf? (letters : List Char) (unit : Octets) : Option Nat :=
  match unit with
  | [] => some 1
  | c :: rest =>
    if !letters.contains c then none
    else if c = 'b' ∧ rest.isEmpty then some 512
    else
      let power? := if c = 'k' then some 0 else if c = 'm' then some 1 else if c = 'g' then some 2
        else if c = 't' then some 3 else "KMGTPEZYRQ".toList.findIdx? (· = c)
      match power?, rest with
      | some i, [] | some i, ['i', 'B'] => some (1024 ^ (i + 1))
      | some i, ['B'] | some i, ['D'] => some (1000 ^ (i + 1))
      | _, _ => none

/-- The amount that a text writes, with one of the letters as its unit. -/
def amountIn (letters : List Char) (anyBase : Bool) (text : Octets) : Except AmountFault Nat :=
  let text := text.dropWhile fun c => c = ' ' ∨ ('\t' ≤ c ∧ c ≤ '\r')
  let text := if text.head? = some '+' then text.drop 1 else text
  match leadingNumber? anyBase text with
  | none =>
    match text with
    | [] => .error .noNumber
    | c :: _ => if letters.contains c then
        match unitOf? letters text with
        | some factor => .ok factor
        | none => .error .noNumber
      else .error .noNumber
  | some (n, unit) =>
    match unitOf? letters unit with
    | none => .error .badUnit
    | some factor => if greatestAmount < n * factor then .error .tooLarge else .ok (n * factor)

/-- What is said of a wrong amount that an option is given. -/
def AmountFault.ofOption (fault : AmountFault) (option text : Octets) : Octets :=
  let named := Octets.ofString " argument '" ++ text ++ ['\'']
  match fault with
  | noNumber => Octets.ofString "invalid " ++ option ++ named
  | badUnit => Octets.ofString "invalid suffix in " ++ option ++ named
  | tooLarge => option ++ named ++ Octets.ofString " too large"

end ComponentReference.Tool
