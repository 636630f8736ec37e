import ComponentReference.Machine.Text.Directive

/-!
# Printing in a format

A format is gone through as often as there are arguments left, and at least once.  Each
directive takes an argument; where none is left, it is as if there were an empty one.
-/

namespace ComponentReference.Shell.Printing

/-- What has been printed so far, and what has been complained about. -/
structure Sheet where
  /-- What has been printed, the latest first. -/
  output : List Octets := []
  complaints : List Octets := []
  status : Nat := 0
  arguments : List Octets
  /-- Whether a directive has asked for an argument. -/
  asked : Bool := false
  /-- Whether all printing has come to its end. -/
  ended : Bool := false

namespace Sheet

/-- The sheet with more printed on it. -/
def print (s : Sheet) (octets : Octets) : Sheet :=
  { s with output := octets :: s.output }

/-- The sheet with a complaint. -/
def complain (s : Sheet) (status : Nat) (message : Octets) : Sheet :=
  { s with complaints := s.complaints ++ [message], status }

/-- The next argument, if there is one. -/
def next (s : Sheet) : Option Octets × Sheet :=
  (s.arguments.head?, { s with arguments := s.arguments.drop 1, asked := true })

end Sheet

/-! ## Numbers -/

/-- Whether an octet is blank. -/
def isBlank (c : Char) : Bool :=
  c = ' ' ∨ ('\t' ≤ c ∧ c ≤ '\r')

/-- The sign in front of octets, behind blanks, and what follows it. -/
def signed (s : Octets) : Bool × Octets :=
  match s.dropWhile isBlank with
  | '-' :: rest => (true, rest)
  | '+' :: rest => (false, rest)
  | rest => (false, rest)

/-- The whole number at the beginning of octets, in the base that it shows, and what
follows it; without a number, nothing is passed over. -/
def wholeAt (s : Octets) : Int × Octets :=
  let (negative, digits) := signed s
  let hex := (digits.drop 2).takeWhile fun c => (Text.hexValue? c).isSome
  let isHex : Bool := match digits with
    | '0' :: x :: _ => (x = 'x' ∨ x = 'X') ∧ !hex.isEmpty
    | _ => false
  let apply (n : Nat) : Int := if negative then -n else n
  if isHex then (apply (Octets.valueOf 16 hex), digits.drop (2 + hex.length))
  else if digits.head? = some '0' then
    let octal := digits.takeWhile Escape.isOctal
    (apply (Octets.valueOf 8 octal), digits.drop octal.length)
  else
    let (decimal, rest) := digits.span Char.isDigit
    if decimal.isEmpty then (0, s) else (apply (Octets.valueOf 10 decimal), rest)

/-- The number at the beginning of octets, perhaps with a fraction and an exponent, and
what follows it. -/
def doubleAt (s : Octets) : Double × Octets :=
  let (negative, body) := signed s
  let (whole, rest) := body.span Char.isDigit
  let (fraction, rest) := match rest with
    | '.' :: after => let (digits, after) := after.span Char.isDigit; (digits, after)
    | rest => ([], rest)
  let lower := (body.take 3).map Char.toLower
  if whole.isEmpty ∧ fraction.isEmpty then
    if lower = "inf".toList then (.infinite negative, body.drop 3)
    else if lower = "nan".toList then (.nan negative, body.drop 3)
    else (.finite false 0 Double.leastExponent, s)
  else
    let exponent : Option (Int × Octets) := match rest with
      | e :: after =>
        if e = 'e' ∨ e = 'E' then
          let (negative, digits) := match after with
            | '-' :: digits => (true, digits)
            | '+' :: digits => (false, digits)
            | digits => (false, digits)
          let (digits, after) := digits.span Char.isDigit
          let n : Int := Octets.valueOf 10 (digits.take 6)
          if digits.isEmpty then none else some (if negative then -n else n, after)
        else none
      | [] => none
    let (e, rest) := exponent.getD (0, rest)
    (.ofDecimal negative (Octets.valueOf 10 (whole ++ fraction)) (e - fraction.length), rest)

/-- The value of an argument that is to be a number, with complaints if it is none.  A
quote in front of an octet makes it a number too. -/
def numeric {α : Type} (read : Octets → α × Octets) (ofNat : Nat → α) (s : Sheet) : α × Sheet :=
  match s.next with
  | (none, s) => ((read []).1, s)
  | (some argument, s) =>
    match argument with
    | '"' :: rest | '\'' :: rest => (ofNat ((rest.head?.map Char.toNat).getD 0), s)
    | argument =>
      let (value, rest) := read argument
      if rest.isEmpty then (value, s)
      else if rest = argument then
        (value, s.complain 1 (argument ++ Octets.ofString ": expected numeric value"))
      else (value, s.complain 1 (argument ++ Octets.ofString ": not completely converted"))

/-- A number within bounds, with a complaint if it is not within them. -/
def bounded (least greatest : Int) (argument? : Option Octets) (n : Int) (s : Sheet) : Int × Sheet :=
  let outside := s.complain 1
    ((argument?.getD []) ++ Octets.ofString ": Numerical result out of range")
  if n < least then (least, outside) else if greatest < n then (greatest, outside) else (n, s)

/-! ## Directives -/

/-- The width or the precision that an argument gives. -/
def star (given : Option Nat) (s : Sheet) : Int × Sheet :=
  match given with
  | some n => (n, s)
  | none => numeric wholeAt (fun n => (n : Int)) s

/-- What a directive prints, if its conversion is known. -/
def convert (d : Directive) (s : Sheet) : Option Sheet :=
  let argument? := s.arguments.head?
  match d.conversion with
  | 's' =>
    let (argument, s) := s.next
    some (s.print (d.text (argument.getD [])))
  | 'c' =>
    let (argument, s) := s.next
    let first := (argument.bind List.head?).getD (Char.ofNat 0)
    some (s.print ({ d with precision? := none }.text [first]))
  | 'b' =>
    let (argument, s) := s.next
    let text := argument.getD []
    let (replaced, ends) := Escape.replaced (text.length + 1) text
    some { s.print (d.text replaced) with ended := ends }
  | 'd' | 'i' =>
    let (n, s) := numeric wholeAt (fun n => (n : Int)) s
    let (n, s) := bounded (-(2 ^ 63)) (2 ^ 63 - 1) argument? n s
    some (s.print (d.int n))
  | 'o' | 'u' | 'x' | 'X' =>
    let (n, s) := numeric wholeAt (fun n => (n : Int)) s
    let (n, s) := bounded (-(2 ^ 64) + 1) (2 ^ 64 - 1) argument? n s
    some (s.print (d.nat (n.emod (2 ^ 64)).toNat))
  | 'e' | 'E' | 'f' | 'F' | 'g' | 'G' =>
    let (x, s) := numeric doubleAt (fun n => .ofDecimal false n 0) s
    some (s.print (d.double x))
  | _ => none

/-- The sheet after a directive, behind whose percent sign the octets stand, and what
follows the directive. -/
def directive (octets : Octets) (s : Sheet) : Sheet × Octets :=
  let sketch := Directive.sketch octets
  let (width, s) := star sketch.width? s
  let (precision?, s) := match sketch.precision? with
    | none => (none, s)
    | some given => let (n, s) := star given s; (if n < 0 then none else some n.toNat, s)
  match sketch.rest with
  | [] => ({ s.complain 2 (Octets.ofString "missing format character") with ended := true }, [])
  | c :: rest =>
    let d : Directive :=
      { flags := if width < 0 then '-' :: sketch.flags else sketch.flags
        width := width.natAbs
        precision?
        conversion := c }
    match convert d s with
    | some s => (s, rest)
    | none =>
      let shown := '%' :: octets.take (octets.length - rest.length)
      ({ s.complain 2 (shown ++ Octets.ofString ": invalid directive") with ended := true }, [])

/-- The sheet after one pass over a format. -/
def pass : (fuel : Nat) → Octets → Sheet → Sheet
  | 0, _, s | _, [], s => s
  | fuel + 1, '%' :: '%' :: rest, s => pass fuel rest (s.print ['%'])
  | fuel + 1, '%' :: rest, s =>
    let (s, rest) := directive rest s
    if s.ended then s else pass fuel rest s
  | fuel + 1, '\\' :: rest, s =>
    let (octets, rest) := Escape.behind rest
    pass fuel rest (s.print octets)
  | fuel + 1, c :: rest, s =>
    let (plain, rest) := (c :: rest).span fun c => c ≠ '%' ∧ c ≠ '\\'
    pass fuel rest (s.print plain)

/-- The sheet after passes over a format as long as there are arguments. -/
def passes (format : Octets) : (fuel : Nat) → Sheet → Sheet
  | 0, s => s
  | fuel + 1, s =>
    let s := pass (format.length + 1) format s
    if s.ended ∨ s.arguments.isEmpty ∨ !s.asked then s else passes format fuel s

/-- The sheet on which arguments have been printed in a format. -/
def inFormat (format : Octets) (arguments : List Octets) : Sheet :=
  passes format (arguments.length + 1) { arguments }

/-- What has been printed. -/
def Sheet.printed (s : Sheet) : Octets :=
  s.output.foldl (fun after octets => octets ++ after) []

/-- What is printed for arguments, one after the other, with a line feed at the end
unless the first one forbids it. -/
def echoed (arguments : List Octets) : Octets :=
  let (arguments, ending) := match arguments with
    | ['-', 'n'] :: rest => (rest, [])
    | all => (all, ['\n'])
  let whole := Octets.unwords arguments
  match Escape.replaced (whole.length + 1) whole with
  | (s, true) => s
  | (s, false) => s ++ ending

/-- The letters of the flags in front of arguments, and the arguments behind them. -/
def flagsOf : List Octets → Octets × List Octets
  | ('-' :: c :: letters) :: rest =>
    if (c :: letters).all "neE".toList.contains then
      let (more, words) := flagsOf rest
      (c :: letters ++ more, words)
    else ([], ('-' :: c :: letters) :: rest)
  | words => ([], words)

/-- Arguments as they are printed where flags say whether escapes are looked at. -/
def echoedByFlags (arguments : List Octets) : Octets :=
  let (options, words) := flagsOf arguments
  let escapes := (options.filter fun c => c = 'e' ∨ c = 'E').getLast? = some 'e'
  let whole := Octets.unwords words
  let ending : Octets := if options.contains 'n' then [] else ['\n']
  if escapes then
    match Escape.replaced (whole.length + 1) whole with
    | (s, true) => s
    | (s, false) => s ++ ending
  else whole ++ ending

end ComponentReference.Shell.Printing
