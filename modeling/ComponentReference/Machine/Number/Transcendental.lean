import ComponentReference.Machine.Number.Arithmetic

/-!
# Exponentials, logarithms and angles

Functions that have no exact values are reckoned by their series in whole units of a small
power of two, so small that what is cut off does not reach the digits of the result.
-/

namespace ComponentReference

namespace Dyadic

/-- The product of two numbers in units of `2 ^ -p`. -/
def mul (p : Nat) (a b : Int) : Int :=
  Int.tdiv (a * b) (2 ^ p)

/-- A fraction in units of `2 ^ -p`. -/
def ofFraction (p : Nat) (num : Int) (den : Nat) : Int :=
  Int.tdiv (num * 2 ^ p) den

/-- The terms of a power series from the one with index `n` on: each is the one before times
`x`, divided by what belongs to its index. -/
def series (p : Nat) (x : Int) (divisor : Nat → Int) : (fuel : Nat) → (n : Nat) → Int → Int
  | 0, _, _ => 0
  | fuel + 1, n, term =>
    if term = 0 then 0
    else term + series p x divisor fuel (n + 1) (Int.tdiv (mul p term x) (divisor n))

/-- The exponential of a number that is not large. -/
def exp (p : Nat) (x : Int) : Int :=
  series p x (fun n => n + 1) (2 * p + 10) 0 (2 ^ p)

/-- The sum of the odd powers of a number, each divided by its exponent; `square` is the
square of the number, negative if the signs of the terms are to change. -/
def oddSum (p : Nat) (square : Int) : (fuel : Nat) → (n : Nat) → Int → Int
  | 0, _, _ => 0
  | fuel + 1, n, power =>
    if power = 0 then 0
    else Int.tdiv power (2 * n + 1) + oddSum p square fuel (n + 1) (mul p power square)

/-- The angle whose tangent is a small number. -/
def arctan (p : Nat) (z : Int) : Int :=
  oddSum p (-mul p z z) (2 * p + 10) 0 z

/-- Half of the logarithm of `(1 + z) / (1 - z)`. -/
def artanh (p : Nat) (z : Int) : Int :=
  oddSum p (mul p z z) (2 * p + 10) 0 z

/-- The number that is the area of the unit circle. -/
def pi (p : Nat) : Int :=
  let q := p + 10
  Int.tdiv (16 * arctan q (ofFraction q 1 5) - 4 * arctan q (ofFraction q 1 239)) (2 ^ 10)

/-- The logarithm of two. -/
def logTwo (p : Nat) : Int :=
  2 * artanh p (ofFraction p 1 3)

/-- The logarithm of a positive fraction. -/
def log (p : Nat) (num den : Nat) : Int :=
  let e : Int := (num.log2 : Int) - den.log2
  -- the fraction without the power of two is between a half and two
  let (n, d) := if 0 ≤ e then (num, den * 2 ^ e.toNat) else (num * 2 ^ (-e).toNat, den)
  2 * artanh p (ofFraction p ((n : Int) - d) (n + d)) + e * logTwo p

/-- A number with its power of two taken out: the exponential is that of the rest, times two
to the power. -/
def expParts (p : Nat) (x : Int) : Int × Int :=
  let unit := logTwo p
  let power := Int.fdiv (2 * x + unit) (2 * unit)
  (exp p (x - power * unit), power)

/-- The cosine and the sine of an angle that is not large. -/
def cosSin (p : Nat) (x : Int) : Int × Int :=
  let square := -mul p x x
  (series p square (fun n => (2 * n + 1) * (2 * n + 2)) (2 * p + 10) 0 (2 ^ p),
    series p square (fun n => (2 * n + 2) * (2 * n + 3)) (2 * p + 10) 0 x)

/-- The square root. -/
def sqrt (p : Nat) (x : Int) : Int :=
  Double.sqrt.wholeRoot (x.toNat * 2 ^ p)

/-- The angle whose tangent is a number between zero and one. -/
def angle (p : Nat) (t : Int) : Int :=
  -- an angle is twice the one whose tangent is this
  let half (t : Int) : Int := ofFraction p t (2 ^ p + sqrt p (2 ^ p + mul p t t)).toNat
  8 * arctan p (half (half (half t)))

end Dyadic

namespace Double

/-- The number nearest to one in units of `2 ^ -p`, times two to a power. -/
def ofDyadic (p : Nat) (x : Int) (power : Int) : Double :=
  let e := power - p
  if 0 ≤ e then ofRatio (x < 0) (x.natAbs * 2 ^ e.toNat) 1
  else ofRatio (x < 0) x.natAbs (2 ^ (-e).toNat)

/-- Something like the logarithm to the base two of the size of a number. -/
def order : Double → Int
  | finite _ significand exponent => (significand.log2 : Int) + exponent
  | _ => 0

/-- The exponential of what is given in units of `2 ^ -p`. -/
def expOf (p : Nat) (x : Int) : Double :=
  if 800 * 2 ^ p < x then infinite false
  else if x < -800 * 2 ^ p then finite false 0 leastExponent
  else
    let (rest, power) := Dyadic.expParts p x
    ofDyadic p rest power

/-- The exponential of a number. -/
def exp (x : Double) : Double :=
  match x, x.ratio? with
  | _, some (num, den) => expOf 200 (Dyadic.ofFraction 200 num den)
  | infinite true, _ => finite false 0 leastExponent
  | x, _ => x

/-- The logarithm of a number. -/
def log (x : Double) : Double :=
  match x, x.ratio? with
  | _, some (num, den) =>
    if num = 0 then infinite true
    else if num < 0 then invalid
    else ofDyadic 300 (Dyadic.log 300 num.natAbs den) 0
  | infinite true, _ => invalid
  | x, _ => x

/-- The cosine and the sine of an angle. -/
def cosSin (x : Double) : Double × Double :=
  match x.ratio? with
  | none => if x.isNan then (x, x) else (invalid, invalid)
  | some (num, den) =>
    if num = 0 then (ofInt 1, x)
    else
      let p := 300 + x.order.natAbs
      let angle := Dyadic.ofFraction p num den
      let quarter := Int.tdiv (Dyadic.pi (p + x.order.natAbs)) (2 ^ (x.order.natAbs + 1))
      let turns := Int.fdiv (2 * angle + quarter) (2 * quarter)
      -- large angles need more digits of the quarter than there are in the units
      let whole := Dyadic.pi (p + x.order.natAbs) * turns
      let rest := angle - Int.tdiv whole (2 ^ (x.order.natAbs + 1))
      let (c, s) := Dyadic.cosSin p rest
      let (c, s) := match turns % 4 with
        | 0 => (c, s)
        | 1 => (-s, c)
        | 2 => (-c, -s)
        | _ => (s, -c)
      (ofDyadic p c 0, ofDyadic p s 0)

/-- The angle of the point with these coordinates. -/
def angleOf (y x : Double) : Double :=
  let signed (y : Double) (angle : Double) : Double := if y.isNegative then angle.neg else angle
  -- parts of the half circle
  let turned (quarters : Nat) : Double := ofDyadic 302 (Dyadic.pi 300 * quarters) 0
  if x.isNan then x
  else if y.isNan then y
  else
    match y.ratio?, x.ratio? with
    | some (a, d), some (b, e) =>
      if a = 0 then (if x.isNegative then signed y (turned 4) else y)
      else if b = 0 then signed y (turned 2)
      else
        let p := 300 + (y.order - x.order).natAbs
        let (n, m) := (a.natAbs * e, b.natAbs * d)
        let half := Dyadic.pi p
        let first :=
          if n ≤ m then Dyadic.angle p (Dyadic.ofFraction p n m)
          else Int.tdiv half 2 - Dyadic.angle p (Dyadic.ofFraction p m n)
        signed y (ofDyadic p (if b < 0 then half - first else first) 0)
    | none, some _ => signed y (turned 2)
    | some _, none => signed y (if x.isNegative then turned 4 else ofRatio false 0 1)
    | none, none => signed y (turned (if x.isNegative then 3 else 1))

/-- A power. -/
def power (x y : Double) : Double :=
  match y.ratio? with
  | some (num, den) =>
    let isWhole : Bool := num % den = 0
    let isOdd : Bool := isWhole ∧ (num / den) % 2 ≠ 0
    if num = 0 then ofInt 1
    else
      match x, x.ratio? with
      | nan negative, _ => nan negative
      | x, none =>
        let negative := x.isNegative && isOdd
        if num < 0 then finite negative 0 leastExponent else infinite negative
      | x, some (a, d) =>
        if a = 0 then
          let negative := x.isNegative && isOdd
          if num < 0 then infinite negative else finite negative 0 leastExponent
        else if a.natAbs = d then
          if a < 0 ∧ !isWhole then invalid else ofInt (if a < 0 ∧ isOdd then -1 else 1)
        else if isWhole ∧ (num / den).natAbs ≤ 4000 then x.pow (num / den)
        else if a < 0 ∧ !isWhole then invalid
        else
          let p := 500
          let exponent := Int.tdiv (Dyadic.log p a.natAbs d * num) den
          let size := expOf p exponent
          if a < 0 ∧ isOdd then size.neg else size
  | none =>
    if y.isNan then (if x = ofInt 1 then x else if x.isNan then x else y)
    else
      match x.ratio? with
      | none => if x.isNan then x else if y.isNegative then ofInt 0 else infinite false
      | some (a, d) =>
        if a.natAbs = d then ofInt 1
        else if (a.natAbs < d) = y.isNegative then infinite false
        else ofInt 0

end Double

end ComponentReference
