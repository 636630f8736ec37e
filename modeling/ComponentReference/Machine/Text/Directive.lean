import ComponentReference.Machine.Number.Rounded
import ComponentReference.Machine.Text.Octets

/-!
# Directives

A directive in a format says how a value is written: in which form, how wide, with how
many digits, and on which side it is filled up.
-/

namespace ComponentReference

/-- A directive. -/
structure Directive where
  flags : List Char := []
  width : Nat := 0
  precision? : Option Nat := none
  conversion : Char

namespace Directive

/-- Whether a flag is set. -/
def has (d : Directive) (flag : Char) : Bool :=
  d.flags.contains flag

/-- A sign and digits at the width of the directive. -/
def filled (d : Directive) (zeros : Bool) (sign body : Octets) : Octets :=
  let missing := d.width - (sign.length + body.length)
  if d.has '-' then sign ++ body ++ List.replicate missing ' '
  else if zeros then sign ++ List.replicate missing '0' ++ body
  else List.replicate missing ' ' ++ sign ++ body

/-- The sign of a number. -/
def sign (d : Directive) (negative : Bool) : Octets :=
  if negative then ['-'] else if d.has '+' then ['+'] else if d.has ' ' then [' '] else []

/-- Text, of which no more than the precision is written. -/
def text (d : Directive) (s : Octets) : Octets :=
  d.filled false [] (match d.precision? with
    | some most => s.take most
    | none => s)

/-- Digits with so many of them at least as the precision says. -/
def withPrecision (d : Directive) (digits : Octets) : Octets :=
  match d.precision? with
  | none => digits
  | some least =>
    let digits := if least = 0 ∧ digits = ['0'] then [] else digits
    List.replicate (least - digits.length) '0' ++ digits

/-- A whole number. -/
def int (d : Directive) (n : Int) : Octets :=
  d.filled (d.has '0' && d.precision?.isNone) (d.sign (n < 0))
    (d.withPrecision (Octets.digits 10 n.natAbs))

/-- A whole number in the base of the conversion, without a sign. -/
def nat (d : Directive) (n : Nat) : Octets :=
  let digits (base : Nat) : Octets := d.withPrecision (Octets.digits base n)
  let marked := d.has '#' && n ≠ 0
  let (mark, body) : Octets × Octets := match d.conversion with
    | 'o' =>
      let body := digits 8
      ([], if d.has '#' && body.head? ≠ some '0' then '0' :: body else body)
    | 'x' => (if marked then ['0', 'x'] else [], digits 16)
    | 'X' => (if marked then ['0', 'X'] else [], (digits 16).map Char.toUpper)
    | _ => ([], digits 10)
  d.filled (d.has '0' && d.precision?.isNone) mark body

/-- A number with a fraction. -/
def double (d : Directive) (x : Double) : Octets :=
  let upper := d.conversion.isUpper
  let shaped (s : String) : Octets := if upper then s.toList.map Char.toUpper else s.toList
  match x with
  | .nan negative => d.filled false (d.sign negative) (shaped "nan")
  | .infinite negative => d.filled false (d.sign negative) (shaped "inf")
  | .finite negative significand exponent =>
    let (num, den) := Number.quotient significand exponent
    let places := d.precision?.getD 6
    let body := match d.conversion.toLower with
      | 'e' => Number.scientificText places num den
      | 'g' => Number.generalText (d.has '#') places num den
      | _ => Number.fixedText places num den
    d.filled (d.has '0') (d.sign negative) (shaped body)

/-- What has been read of a directive: a width or a precision that an argument gives is
left open. -/
structure Sketch where
  flags : List Char
  width? : Option Nat
  precision? : Option (Option Nat)
  rest : Octets

/-- The number at the beginning of octets, or an asterisk, and what follows. -/
def numberOrStar (s : Octets) : Option Nat × Octets :=
  match s with
  | '*' :: rest => (none, rest)
  | s =>
    let (digits, rest) := s.span Char.isDigit
    (some (Octets.valueOf 10 digits), rest)

/-- The directive that begins behind a percent sign, up to its conversion. -/
def sketch (s : Octets) : Sketch :=
  let (flags, rest) := s.span fun c => ['#', '-', '+', ' ', '0'].contains c
  let (width?, rest) := numberOrStar rest
  match rest with
  | '.' :: rest =>
    let (precision, rest) := numberOrStar rest
    { flags, width?, precision? := some precision, rest }
  | rest => { flags, width?, precision? := none, rest }

end Directive

/-! ## Escapes -/

namespace Escape

/-- The octet that a letter behind a backslash stands for. -/
def letter? (c : Char) : Option Char :=
  match c with
  | 'a' => some (Char.ofNat 7)
  | 'b' => some (Char.ofNat 8)
  | 'e' => some (Char.ofNat 27)
  | 'f' => some (Char.ofNat 12)
  | 'n' => some '\n'
  | 'r' => some '\r'
  | 't' => some '\t'
  | 'v' => some (Char.ofNat 11)
  | '\\' => some '\\'
  | _ => none

/-- Whether an octet is an octal digit. -/
def isOctal (c : Char) : Bool :=
  '0' ≤ c ∧ c ≤ '7'

/-- The octet that up to `most` octal digits stand for, and what follows them. -/
def octal (most : Nat) (s : Octets) : Char × Octets :=
  let digits := (s.take most).takeWhile isOctal
  (Char.ofNat (Octets.valueOf 8 digits % 256), s.drop digits.length)

/-- What the octets behind a backslash stand for, and what follows. -/
def behind (s : Octets) : Octets × Octets :=
  match s with
  | [] => (['\\'], [])
  | c :: rest =>
    if isOctal c then
      let (x, rest) := octal 3 s
      ([x], rest)
    else
      match letter? c with
      | some x => ([x], rest)
      | none => (['\\'], s)

/-- Text with its escapes replaced, up to one that ends all output, and whether there is
one. -/
def replaced : (fuel : Nat) → Octets → Octets × Bool
  | 0, s => (s, false)
  | _, [] => ([], false)
  | fuel + 1, '\\' :: rest =>
    match rest with
    | 'c' :: _ => ([], true)
    | rest =>
      let rest := match rest with
        | '0' :: c :: after => if isOctal c then c :: after else rest
        | rest => rest
      let (s, rest) := behind rest
      let (more, ends) := replaced fuel rest
      (s ++ more, ends)
  | fuel + 1, c :: rest =>
    let (more, ends) := replaced fuel rest
    (c :: more, ends)

end Escape

end ComponentReference
