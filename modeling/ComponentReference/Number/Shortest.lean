import ComponentReference.Number.Double

/-!
# Shortest decimals

A decimal identifies a finite number when it lies in the interval of reals that
round to that number.  `shortest` finds one with the fewest digits, and of those
the nearest.  All comparisons are exact: both sides are brought to natural
numbers before they are compared.
-/

namespace ComponentReference

/-- The number `digits * 10 ^ scale`. -/
structure Decimal where
  digits : Nat
  scale : Int
deriving DecidableEq, Repr

namespace Double

/-- Compares `a * 2 ^ e` with `digits * 10 ^ scale`. -/
def compareScaled (a : Nat) (e : Int) (digits : Nat) (scale : Int) : Ordering :=
  compare (a * 2 ^ e.toNat * 10 ^ (-scale).toNat) (digits * 10 ^ scale.toNat * 2 ^ (-e).toNat)

/-- Whether the decimal rounds to `significand * 2 ^ exponent`.  The ends of the
interval lie halfway to the neighbours, so they are counted in quarters of a
unit; below a power of two the neighbour is only half as far.  They belong to
the interval exactly when the significand is even. -/
def identifies (significand : Nat) (exponent : Int) (d : Decimal) : Bool :=
  let narrow := significand == leastNormal && leastExponent < exponent
  let low := compareScaled (4 * significand - (if narrow then 1 else 2)) (exponent - 2) d.digits d.scale
  let high := compareScaled (4 * significand + 2) (exponent - 2) d.digits d.scale
  if significand % 2 = 0 then low != .gt && high != .lt else low == .lt && high == .gt

/-- The least power of ten that exceeds the positive `significand * 2 ^ exponent`. -/
def decimalOrder (significand : Nat) (exponent : Int) : Int :=
  -- 30103 / 100000 is the logarithm of two to ten, close enough for a start
  let guess := (((significand.log2 : Int) + exponent) * 30103).fdiv 100000
  ([guess - 1, guess, guess + 1, guess + 2].find? fun k =>
    compareScaled significand exponent 1 k == .lt).getD (guess + 3)

/-- The whole part of `significand * 2 ^ exponent / 10 ^ scale`. -/
def wholeParts (significand : Nat) (exponent scale : Int) : Nat :=
  significand * 2 ^ exponent.toNat * 10 ^ (-scale).toNat /
    (10 ^ scale.toNat * 2 ^ (-exponent).toNat)

/-- The better of the two neighbours of `significand * 2 ^ exponent` among the
multiples of `10 ^ scale`, if one of them identifies it. -/
def onGrid? (significand : Nat) (exponent scale : Int) : Option Decimal :=
  let below := wholeParts significand exponent scale
  let lower : Decimal := ⟨below, scale⟩
  let upper : Decimal := ⟨below + 1, scale⟩
  match identifies significand exponent lower, identifies significand exponent upper with
  | true, false => some lower
  | false, true => some upper
  | false, false => none
  | true, true =>
    -- the number is nearer to the lower one when it lies below their middle
    match compareScaled (2 * significand) exponent (2 * below + 1) scale with
    | .lt => some lower
    | .gt => some upper
    | .eq => some (if below % 2 = 0 then lower else upper)

/-- The digits and scale with the zeros at the end of the digits moved into the
scale, tried `fuel` times. -/
def stripZeros : (fuel : Nat) → Decimal → Decimal
  | 0, d => d
  | fuel + 1, d =>
    if d.digits ≠ 0 ∧ d.digits % 10 = 0 then stripZeros fuel ⟨d.digits / 10, d.scale + 1⟩ else d

/-- A decimal with the fewest digits that identifies the positive number
`significand * 2 ^ exponent`.  Seventeen digits always suffice. -/
def shortest (significand : Nat) (exponent : Int) : Decimal :=
  let order := decimalOrder significand exponent
  let found := (List.range 17).findSome? fun (n : Nat) =>
    onGrid? significand exponent (order - (n + 1 : Nat))
  stripZeros 17 (found.getD ⟨wholeParts significand exponent (order - 17), order - 17⟩)

end Double

end ComponentReference
