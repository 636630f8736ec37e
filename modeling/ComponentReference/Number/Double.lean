import ComponentReference.Number.Standard

/-!
# Binary floating-point numbers

Numbers of 64 bits, held by their parts so that every operation on them is
exact arithmetic on integers.  `Double.ofDecimal` reads a decimal: the result is
the nearest number of the format, a tie goes to the even significand, and what
is too large becomes infinite.
-/

namespace ComponentReference

/-- A binary floating-point number of 64 bits.  A finite one has the size
`significand * 2 ^ exponent`, with less than 53 bits in the significand only at
the least exponent. -/
inductive Double where
  | finite (negative : Bool) (significand : Nat) (exponent : Int)
  | infinite (negative : Bool)
  /-- What is no number; it has a sign all the same. -/
  | nan (negative : Bool)
deriving DecidableEq, Repr

namespace Double

/-- The exponent of the smallest numbers. -/
def leastExponent : Int := -1074

/-- The exponent of the largest numbers. -/
def greatestExponent : Int := 971

/-- The least significand of 53 bits. -/
def leastNormal : Nat := 2 ^ 52

/-- The quotient rounded to the nearest natural number, a half to the even one. -/
def roundDiv (num den : Nat) : Nat :=
  let quotient := num / den
  let twice := 2 * (num % den)
  if twice < den ∨ (twice = den ∧ quotient % 2 = 0) then quotient else quotient + 1

/-- The numerator and denominator of `num / den` counted in units of `2 ^ e`. -/
def inUnits (num den : Nat) (e : Int) : Nat × Nat :=
  if 0 ≤ e then (num, den * 2 ^ e.toNat) else (num * 2 ^ (-e).toNat, den)

/-- The exponent that leaves 53 bits to the whole part of a positive quotient,
or the least one if that is greater. -/
def exponentFor (num den : Nat) : Int :=
  -- the logarithms give the number of bits up to one
  let guess : Int := (num.log2 : Int) - (den.log2 : Int) - 53
  let (n, d) := inUnits num den guess
  let exact := if n < d * 2 ^ 53 then guess else guess + 1
  max exact leastExponent

/-- The number nearest to the quotient, with the given sign. -/
def ofRatio (negative : Bool) (num den : Nat) : Double :=
  if num = 0 then .finite negative 0 leastExponent
  else
    let e := exponentFor num den
    let (n, d) := inUnits num den e
    let significand := roundDiv n d
    -- rounding up may have carried into a bit more
    let (significand, e) :=
      if significand = 2 * leastNormal then (leastNormal, e + 1) else (significand, e)
    if greatestExponent < e then .infinite negative else .finite negative significand e

/-- The number nearest to `digits * 10 ^ scale`, with the given sign.  Decimals
far outside the range are settled by their order of magnitude. -/
def ofDecimal (negative : Bool) (digits : Nat) (scale : Int) : Double :=
  let magnitude : Int := scale + (Nat.toDigits 10 digits).length
  if digits = 0 ∨ magnitude < -330 then .finite negative 0 leastExponent
  else if 310 < magnitude then .infinite negative
  else if 0 ≤ scale then ofRatio negative (digits * 10 ^ scale.toNat) 1
  else ofRatio negative digits (10 ^ (-scale).toNat)

end Double

end ComponentReference
