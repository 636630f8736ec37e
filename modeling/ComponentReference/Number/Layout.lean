import ComponentReference.Number.Shortest

/-!
# Laying out a number

Which digits identify a number is settled in `Number.Shortest`; a `Layout` says
how they are written down.
-/

namespace ComponentReference

/-- How decimal digits become text. -/
structure Layout where
  /-- The least exponent of ten that is written by position. -/
  positionalFrom : Int
  /-- The first exponent of ten that is written with a mark again. -/
  positionalBelow : Int
  /-- What follows the digits of a whole number. -/
  wholeEnding : String
  /-- The mark before an exponent. -/
  exponentMark : String
  /-- The least number of digits of an exponent. -/
  exponentWidth : Nat
  /-- The text of positive infinity. -/
  infinity : String
  /-- The text of what is no number. -/
  notNumber : String

namespace Layout

/-- An exponent: its sign, and its digits with zeros in front if they are few. -/
def exponentText (l : Layout) (e : Int) : String :=
  let digits := Nat.toDigits 10 e.natAbs
  l.exponentMark ++ (if e < 0 then "-" else "+") ++
    String.ofList (List.replicate (l.exponentWidth - digits.length) '0' ++ digits)

/-- The text of a positive decimal. -/
def decimalText (l : Layout) (d : Decimal) : String :=
  let digits := Nat.toDigits 10 d.digits
  -- the point stands after this many digits
  let point : Int := digits.length + d.scale
  if l.positionalFrom ≤ point - 1 ∧ point - 1 < l.positionalBelow then
    if point ≤ 0 then
      "0." ++ String.ofList (List.replicate (-point).toNat '0' ++ digits)
    else if digits.length ≤ point.toNat then
      String.ofList (digits ++ List.replicate (point.toNat - digits.length) '0') ++ l.wholeEnding
    else
      String.ofList (digits.take point.toNat) ++ "." ++ String.ofList (digits.drop point.toNat)
  else
    let fraction := match digits.drop 1 with
      | [] => ""
      | more => "." ++ String.ofList more
    String.ofList (digits.take 1) ++ fraction ++ l.exponentText (point - 1)

/-- The text of a number. -/
def text (l : Layout) : Double → String
  | .nan _ => l.notNumber
  | .infinite negative => (if negative then "-" else "") ++ l.infinity
  | .finite negative significand exponent =>
    (if negative then "-" else "") ++
      if significand = 0 then "0" ++ l.wholeEnding
      else l.decimalText (Double.shortest significand exponent)

end Layout

end ComponentReference
