import ComponentReference.Machine.Recipe.Memory
import ComponentReference.Machine.Text.Directive

/-!
# Values in formats

A value is put into text by a directive behind a percent sign, or by what stands behind a
colon in braces.
-/

namespace ComponentReference.Recipe.Run

/-- Text at a width, on the side that a mark says. -/
def aligned (fill mark : Char) (width : Nat) (s : List Char) : List Char :=
  let missing := width - s.length
  match mark with
  | '>' => List.replicate missing fill ++ s
  | '^' => List.replicate (missing / 2) fill ++ s ++ List.replicate (missing - missing / 2) fill
  | _ => s ++ List.replicate missing fill

/-- A number with separators between groups of three digits. -/
def grouped (s : List Char) : List Char :=
  let (digits, rest) := s.span Char.isDigit
  let rec go : List Char → List Char
    | a :: b :: c :: d :: more => a :: b :: c :: ',' :: go (d :: more)
    | short => short
  (go digits.reverse).reverse ++ rest

/-- A value written as a directive in braces says. -/
def formatted (v : Value) (spec : String) : Run String := do
  if spec.isEmpty then return v.text
  let isMark (c : Char) : Bool := ['<', '>', '^', '='].contains c
  let (fill?, mark?, rest) : Option Char × Option Char × List Char := match spec.toList with
    | c :: d :: rest =>
      if isMark d then (some c, some d, rest)
      else if isMark c then (none, some c, d :: rest)
      else (none, none, c :: d :: rest)
    | [c] => if isMark c then (none, some c, []) else (none, none, [c])
    | [] => (none, none, [])
  let (flags, rest) := rest.span fun c => c = '+' ∨ c = ' ' ∨ c = '#' ∨ c = '-'
  let (zeros, rest) := match rest with
    | '0' :: rest => (true, rest)
    | rest => (false, rest)
  let (width, rest) := rest.span Char.isDigit
  let (groups, rest) := match rest with
    | ',' :: rest => (true, rest)
    | rest => (false, rest)
  let (precision?, rest) : Option Nat × List Char := match rest with
    | '.' :: rest =>
      let (digits, rest) := rest.span Char.isDigit
      (some (Octets.valueOf 10 digits), rest)
    | rest => (none, rest)
  let width := Octets.valueOf 10 width
  let isNumber := v.ratio?.isSome
  let written (conversion : Char) : Run (List Char) := do
    let d : Directive := { flags := flags.filter (· ≠ '-'), precision?, conversion }
    match conversion, v.int?, v.ratio? with
    | 'd', some n, _ | 'n', some n, _ => return ({ d with precision? := none }).int n
    | 'x', some n, _ | 'X', some n, _ | 'o', some n, _ =>
      return (if n < 0 then ['-'] else []) ++ ({ d with precision? := none }).nat n.natAbs
    | 'b', some n, _ => return (if n < 0 then ['-'] else []) ++ Octets.digits 2 n.natAbs
    | 'c', some n, _ => return [Char.ofNat n.toNat]
    | 's', _, _ => return match precision? with
        | some most => v.text.toList.take most
        | none => v.text.toList
    | '%', _, some (num, den) =>
      let x := Double.ofRatio (num < 0) (num.natAbs * 100) den
      return ({ d with conversion := 'f' }).double x ++ ['%']
    | c, _, some (num, den) =>
      if ['e', 'E', 'f', 'F', 'g', 'G'].contains c then
        return d.double (Double.ofRatio (num < 0) num.natAbs den)
      else fail "ValueError" ("Unknown format code '" ++ String.singleton c ++
        "' for object of type '" ++ v.typeName ++ "'")
    | c, _, none => fail "ValueError" ("Unknown format code '" ++ String.singleton c ++
        "' for object of type '" ++ v.typeName ++ "'")
  let body ← match rest with
    | [c] => written c
    | [] =>
      match v, precision? with
      | .int _, _ => written 'd'
      | .double _, some _ => written 'g'
      | _, _ => written 's'
    | _ => fail "ValueError" "Invalid format specifier"
  let body := if groups then
      (match body with
        | '-' :: digits => '-' :: grouped digits
        | digits => grouped digits)
    else body
  if zeros ∧ mark?.isNone ∧ isNumber then
    let (sign, digits) := body.span fun c => c = '-' ∨ c = '+' ∨ c = ' '
    return String.ofList (sign ++ aligned '0' '>' (width - sign.length) digits)
  let mark := mark?.getD (if isNumber then '>' else '<')
  return String.ofList (aligned (fill?.getD (if zeros then '0' else ' ')) mark width body)

/-- Text in which directives behind percent signs stand for values. -/
def filledIn : (fuel : Nat) → List Char → List Value → Run (List Char)
  | 0, _, _ => return []
  | _, [], [] => return []
  | _, [], _ :: _ => fail "TypeError" "not all arguments converted during string formatting"
  | fuel + 1, '%' :: '%' :: rest, values => return '%' :: (← filledIn fuel rest values)
  | fuel + 1, '%' :: rest, values => do
    let s := Directive.sketch rest
    match s.rest, values with
    | [], _ => fail "ValueError" "incomplete format"
    | _, [] => fail "TypeError" "not enough arguments for format string"
    | conversion :: after, v :: values =>
      let d : Directive :=
        { flags := s.flags, width := s.width?.getD 0, precision? := s.precision?.map (·.getD 0),
          conversion }
      let more ← filledIn fuel after values
      match conversion, v.int?, v.ratio? with
      | 's', _, _ => return d.text v.text.toList ++ more
      | 'r', _, _ | 'a', _, _ => return d.text v.display.toList ++ more
      | 'd', _, some (num, den) | 'i', _, some (num, den) =>
        return d.int (Int.tdiv num den) ++ more
      | 'x', some n, _ | 'X', some n, _ | 'o', some n, _ => return d.nat n.natAbs ++ more
      | 'c', some n, _ => return d.text [Char.ofNat n.toNat] ++ more
      | c, _, some (num, den) =>
        if ['e', 'E', 'f', 'F', 'g', 'G'].contains c then
          return d.double (Double.ofRatio (num < 0) num.natAbs den) ++ more
        else fail "ValueError" "unsupported format character"
      | c, _, none => fail "TypeError" ("%" ++ String.singleton c ++
          " format: a real number is required, not " ++ v.typeName)
  | fuel + 1, c :: rest, values => return c :: (← filledIn fuel rest values)

/-- Text in which braces stand for values, in order or by number or name. -/
def fieldsFilled (positional : List Value) (named : List (String × Value)) :
    (fuel next : Nat) → List Char → Run (List Char)
  | 0, _, _ => return []
  | _, _, [] => return []
  | fuel + 1, next, '\x7b' :: '\x7b' :: rest =>
    return '\x7b' :: (← fieldsFilled positional named fuel next rest)
  | fuel + 1, next, '\x7d' :: '\x7d' :: rest =>
    return '\x7d' :: (← fieldsFilled positional named fuel next rest)
  | fuel + 1, next, '\x7b' :: rest => do
    let (inner, after) := rest.span (· ≠ '\x7d')
    let (field, spec) := inner.span (· ≠ ':')
    let (field, conversion) := field.span (· ≠ '!')
    let (v?, next) : Option Value × Nat :=
      if field.isEmpty then (positional[next]?, next + 1)
      else if field.all Char.isDigit then (positional[Octets.valueOf 10 field]?, next)
      else (named.lookup (String.ofList field), next)
    match v? with
    | none =>
      if field.isEmpty ∨ field.all Char.isDigit then
        fail "IndexError" ("Replacement index " ++ toString (next - 1) ++
          " out of range for positional args tuple")
      else raise (.fault "KeyError" [.str (String.ofList field)])
    | some v =>
      let v := if conversion = ['!', 'r'] then .str v.display else v
      let shown ← formatted v (String.ofList (spec.drop 1))
      return shown.toList ++ (← fieldsFilled positional named fuel next (after.drop 1))
  | fuel + 1, next, c :: rest => return c :: (← fieldsFilled positional named fuel next rest)

end ComponentReference.Recipe.Run
