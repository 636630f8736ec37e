import ComponentReference.Number.Double

/-!
# Numbers rounded to a number of digits

The digits of a number when it is rounded to so many places, or to so many digits in
all, from its exact value; a half goes to the even digit.
-/

namespace ComponentReference.Number

/-- The size of a finite number as a quotient. -/
def quotient (significand : Nat) (exponent : Int) : Nat × Nat :=
  if 0 ≤ exponent then (significand * 2 ^ exponent.toNat, 1)
  else (significand, 2 ^ (-exponent).toNat)

/-- A quotient times a power of ten, rounded to a whole number. -/
def scaled (num den : Nat) (power : Int) : Nat :=
  if 0 ≤ power then Double.roundDiv (num * 10 ^ power.toNat) den
  else Double.roundDiv num (den * 10 ^ (-power).toNat)

/-- The exponent of ten of a positive quotient. -/
def magnitude (num den : Nat) : Int :=
  if den ≤ num then ((Nat.toDigits 10 (num / den)).length : Int) - 1
  else
    let guess := (Nat.toDigits 10 (den / num)).length
    -- the guess is one too small where the quotient is no power of ten
    if den ≤ num * 10 ^ (guess - 1) then 1 - (guess : Int) else -(guess : Int)

/-- The text of a quotient with so many places behind the point. -/
def fixedText (places : Nat) (num den : Nat) : String :=
  let digits := Nat.toDigits 10 (scaled num den places)
  let padded := List.replicate (places + 1 - digits.length) '0' ++ digits
  let whole := padded.take (padded.length - places)
  let fraction := padded.drop (padded.length - places)
  String.ofList (if places = 0 then whole else whole ++ '.' :: fraction)

/-- The first digits of a quotient, one and so many more, and its exponent of ten. -/
def leading (more : Nat) (num den : Nat) : List Char × Int :=
  if num = 0 then (List.replicate (more + 1) '0', 0)
  else
    let e := magnitude num den
    let n := scaled num den (more - e)
    -- rounding up may have carried into one digit more
    if n = 10 ^ (more + 1) then (Nat.toDigits 10 (n / 10), e + 1) else (Nat.toDigits 10 n, e)

/-- An exponent with a sign and two digits at least. -/
def exponentText (e : Int) : String :=
  let digits := Nat.toDigits 10 e.natAbs
  (if e < 0 then "e-" else "e+") ++ String.ofList (List.replicate (2 - digits.length) '0' ++ digits)

/-- The digits with a point behind the first one. -/
def pointed : List Char → String
  | [] => ""
  | [d] => String.singleton d
  | d :: rest => String.ofList (d :: '.' :: rest)

/-- The text of a quotient with an exponent, and so many places behind the point. -/
def scientificText (places : Nat) (num den : Nat) : String :=
  let (digits, e) := leading places num den
  pointed digits ++ exponentText e

/-- Digits without the zeros at the end. -/
def withoutZeros (digits : List Char) : List Char :=
  (digits.reverse.dropWhile (· = '0')).reverse

/-- The text of a quotient with so many digits in all, with an exponent only if the point
is far from them; zeros at the end are left out, unless they are to be kept. -/
def generalText (keepsZeros : Bool) (digits : Nat) (num den : Nat) : String :=
  let digits := max digits 1
  let (first, e) := leading (digits - 1) num den
  let cut (l : List Char) : List Char := if keepsZeros then l else withoutZeros l
  if e < -4 ∨ (digits : Int) ≤ e then
    pointed (first.take 1 ++ cut (first.drop 1)) ++ exponentText e
  else if e < 0 then
    let fraction := cut (List.replicate ((-e).toNat - 1) '0' ++ first)
    String.ofList ('0' :: '.' :: fraction)
  else
    let fraction := cut (first.drop (e.toNat + 1))
    let whole := first.take (e.toNat + 1)
    String.ofList (if fraction.isEmpty then whole else whole ++ '.' :: fraction)

end ComponentReference.Number
