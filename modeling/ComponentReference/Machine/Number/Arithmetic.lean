import ComponentReference.Number.Double

/-!
# Arithmetic on floating-point numbers

A finite number is a fraction, and the result of an operation is the number nearest to the
exact one.
-/

namespace ComponentReference.Double

/-- A number as a fraction, unless it is infinite or none. -/
def ratio? : Double → Option (Int × Nat)
  | finite negative significand exponent =>
    let sign : Int := if negative then -1 else 1
    some (if 0 ≤ exponent then (sign * significand * 2 ^ exponent.toNat, 1)
      else (sign * significand, 2 ^ (-exponent).toNat))
  | _ => none

/-- The number nearest to a fraction. -/
def ofFraction (num : Int) (den : Nat) : Double :=
  ofRatio (num < 0) num.natAbs den

/-- The number nearest to a whole one. -/
def ofInt (n : Int) : Double :=
  ofFraction n 1

/-- Whether a number is negative, be it zero. -/
def isNegative : Double → Bool
  | finite negative _ _ | infinite negative | nan negative => negative

/-- The number with the other sign. -/
def neg : Double → Double
  | finite negative significand exponent => finite (!negative) significand exponent
  | infinite negative => infinite (!negative)
  | nan negative => nan (!negative)

/-- What an operation gives that has no value. -/
def invalid : Double :=
  nan true

/-- Whether what should be a number is none. -/
def isNan : Double → Bool
  | nan _ => true
  | _ => false

/-- Whether a number is zero. -/
def isZero : Double → Bool
  | finite _ significand _ => significand = 0
  | _ => false

/-- The sum of two numbers. -/
def add (x y : Double) : Double :=
  match x, y with
  | nan a, _ | _, nan a => nan a
  | infinite a, infinite b => if a = b then infinite a else invalid
  | infinite a, _ | _, infinite a => infinite a
  | x, y =>
    match x.ratio?, y.ratio? with
    | some (a, d), some (b, e) => ofFraction (a * e + b * d) (d * e)
    | _, _ => invalid

/-- The product of two numbers. -/
def mul (x y : Double) : Double :=
  let negative := x.isNegative != y.isNegative
  match x.ratio?, y.ratio? with
  | some (a, d), some (b, e) => ofRatio negative (a.natAbs * b.natAbs) (d * e)
  | _, _ =>
    if x.isNan then x
    else if y.isNan then y
    else if x.isZero ∨ y.isZero then invalid
    else infinite negative

/-- The quotient of two numbers. -/
def div (x y : Double) : Double :=
  let negative := x.isNegative != y.isNegative
  match x.ratio?, y.ratio? with
  | some (a, d), some (b, e) =>
    if b = 0 then (if a = 0 then invalid else infinite negative)
    else ofRatio negative (a.natAbs * e) (d * b.natAbs)
  | some _, none => if y.isNan then y else ofRatio negative 0 1
  | none, some _ => if x.isNan then x else infinite negative
  | none, none => if x.isNan then x else if y.isNan then y else invalid

/-- The whole part of a number, towards zero. -/
def whole? (x : Double) : Option Int :=
  x.ratio?.map fun (a, d) => Int.tdiv a d

/-- What is left of a number by division with a whole quotient. -/
def rem (x y : Double) : Double :=
  match x.ratio?, y.ratio? with
  | some (a, d), some (b, e) =>
    if b = 0 then invalid else ofFraction (Int.tmod (a * e) (b * d)) (d * e)
  | some _, none => if y.isNan then y else x
  | none, _ => if x.isNan then x else if y.isNan then y else invalid

/-- A power with a whole exponent. -/
def pow (x : Double) (n : Int) : Double :=
  match x.ratio? with
  | some (a, d) =>
    -- beyond this exponent, a power is too large or too small to be told from its limit
    let k := min n.natAbs 4000
    if 0 ≤ n then ofFraction (a ^ k) (d ^ k)
    else if a = 0 then infinite false
    else ofRatio (a < 0 ∧ k % 2 = 1) (d ^ k) (a.natAbs ^ k)
  | none => if n = 0 then ofInt 1 else x

/-- The square root of a number. -/
def sqrt (x : Double) : Double :=
  match x with
  | infinite false => x
  | finite negative 0 exponent => finite negative 0 exponent
  | finite false _ _ =>
    match x.ratio? with
    | some (a, d) =>
      let scale := 2 ^ 120
      ofRatio false (wholeRoot (a.natAbs * d * scale * scale)) (d * scale)
    | none => invalid
  | nan negative => nan negative
  | _ => invalid
where
  /-- The whole part of the square root. -/
  wholeRoot (n : Nat) : Nat :=
    let rec improve : (fuel : Nat) → Nat → Nat
      | 0, guess => guess
      | fuel + 1, guess =>
        let next := (guess + n / guess) / 2
        if next < guess then improve fuel next else guess
    if n = 0 then 0 else improve (n.log2 + 10) (2 ^ (n.log2 / 2 + 1))

/-- Whether one number is less than another; what is no number never is. -/
def isLess (x y : Double) : Bool :=
  match x, y with
  | nan _, _ | _, nan _ => false
  | infinite a, infinite b => a && !b
  | infinite a, _ => a
  | _, infinite b => !b
  | x, y =>
    match x.ratio?, y.ratio? with
    | some (a, d), some (b, e) => a * e < b * d
    | _, _ => false

end ComponentReference.Double
