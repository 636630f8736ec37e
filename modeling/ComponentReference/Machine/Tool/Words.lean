import ComponentReference.Machine.Shell.Builtins
import ComponentReference.Machine.Tool.Arguments

/-!
# Programs that write words

They write their arguments, or numbers, or only end with a status that says something
about their arguments.
-/

namespace ComponentReference.Tool

open Shell

/-- Writes the arguments; letters in front decide on escapes and the line feed. -/
def echo : Program := do
  Task.write (Shell.Printing.echoedByFlags (← read).arguments)
  return 0

/-- Writes arguments in a format. -/
def printf : Program := do
  let arguments := (← read).arguments
  match if arguments.head? = some ['-', '-'] then arguments.drop 1 else arguments with
  | [] => refuseMissing []
  | format :: values =>
    let sheet := Printing.inFormat format values
    sheet.complaints.forM fun complaint => Task.complain (worded complaint)
    Task.write sheet.printed
    return if sheet.status = 0 then 0 else 1
where
  /-- A complaint in the words of the program, not of the shell. -/
  worded (complaint : Octets) : Octets :=
    let endings := [("expected numeric value", "expected a numeric value"),
      ("not completely converted", "value not completely converted")]
    match endings.find? fun (ending, _) => ending.toList.isSuffixOf complaint with
    | some (ending, words) =>
      quoted (complaint.take (complaint.length - ending.length - 2)) ++ Octets.ofString (": " ++ words)
    | none => complaint

/-- Checks a condition. -/
def test (bracketed : Bool) : Program := do
  let p ← read
  if bracketed ∧ p.arguments.getLast? ≠ some [']'] then
    Task.refuse 2 (Octets.ofString "missing " ++ quoted [']'])
  let words := if bracketed then p.arguments.dropLast else p.arguments
  match Condition.check (Builtin.filesSeen (← get) p.directory) (words.length + 1) words with
  | .ok value => return if value then 0 else 1
  | .error fault =>
    let message := match fault with
      | .unexpected word => Octets.ofString "extra argument " ++ quoted word
      | .argumentExpected word => Octets.ofString "missing argument after " ++ quoted word
      | .bracketExpected => quoted [')'] ++ Octets.ofString " expected"
      | .notANumber word => Octets.ofString "invalid integer " ++ quoted word
    Task.refuse 2 message

/-- Writes a line again and again, as long as it is read. -/
def yes : Program := do
  let a ← Options.taken {}
  let words := if a.operands.isEmpty then [['y']] else a.operands
  let line := Octets.unwords words ++ ['\n']
  let many := (List.replicate 500 line).flatten
  for _ in [0:20000] do
    Task.write many
  return 1

/-! ## Sequences -/

/-- A decimal number: its digits as a whole number, and how many of them are behind the
point. -/
structure DecimalText where
  digits : Int
  places : Nat

/-- The number that a text writes. -/
def DecimalText.ofText? (s : Octets) : Option DecimalText :=
  let (negative, body) := Printing.signed s
  let (whole, rest) := body.span Char.isDigit
  let fraction? : Option Octets := match rest with
    | [] => some []
    | '.' :: fraction => if fraction.all Char.isDigit then some fraction else none
    | _ => none
  match fraction? with
  | some fraction =>
    if whole.isEmpty ∧ fraction.isEmpty then none
    else
      let n : Int := Octets.valueOf 10 (whole ++ fraction)
      some ⟨if negative then -n else n, fraction.length⟩
  | none => none

/-- The digits of the number with so many places. -/
def DecimalText.scaled (d : DecimalText) (places : Nat) : Int :=
  d.digits * 10 ^ (places - d.places)

/-- A scaled number in digits, with zeros in front up to a width. -/
def decimalText (places width : Nat) (n : Int) : Octets :=
  let digits := Octets.ofNat n.natAbs
  let digits := List.replicate (places + 1 - digits.length) '0' ++ digits
  let body := digits.take (digits.length - places) ++
    if places = 0 then [] else '.' :: digits.drop (digits.length - places)
  let sign : Octets := if n < 0 then ['-'] else []
  sign ++ List.replicate (width - sign.length - body.length) '0' ++ body

/-- Writes the numbers of a sequence. -/
def seq : Program := do
  let p ← read
  -- a dash in front of a digit begins a number
  let isNumber (s : Octets) : Bool := (DecimalText.ofText? s).isSome
  let (options, operands) := p.arguments.span fun s => !isNumber s
  let a ← Options.take { letters := "w", valued := "sf", words :=
    [("separator", 's'), ("equal-width", 'w'), ("format", 'f')] }
    (options ++ (if operands.isEmpty then [] else ["--".toList]) ++ operands)
  let read (s : Octets) : Task DecimalText := do
    match DecimalText.ofText? s with
    | some d => return d
    | none => refuseOperands (Octets.ofString "invalid floating point argument: " ++ quoted s)
  let one : DecimalText := ⟨1, 0⟩
  let (first, step, last) ← match a.operands with
    | [] => refuseMissing []
    | [last] => pure (one, one, ← read last)
    | [first, last] => pure (← read first, one, ← read last)
    | [first, step, last] => pure (← read first, ← read step, ← read last)
    | _ :: _ :: _ :: extra :: _ => refuseExtra extra
  if step.digits = 0 then
    refuseOperands (Octets.ofString "invalid Zero increment value: " ++ quoted ((a.operands[1]?).getD []))
  let shownPlaces := max first.places step.places
  let places := max shownPlaces last.places
  let (low, by', high) := (first.scaled places, step.scaled places, last.scaled places)
  let count := if (0 < by' ∧ high < low) ∨ (by' < 0 ∧ low < high) then 0
    else ((high - low) / by').toNat + 1
  let text (width : Nat) (n : Int) : Octets :=
    decimalText shownPlaces width (n / 10 ^ (places - shownPlaces))
  let width := if a.has 'w' then
      max (text 0 low).length (text 0 (low + by' * (count - 1))).length else 0
  let separator := (a.value? 's').getD ['\n']
  let shown (n : Int) : Octets := match a.value? 'f' with
    | some format => (Printing.inFormat format [decimalText places 0 n]).printed
    | none => text width n
  for block in [0:count / 500 + 1] do
    let start := 500 * block
    let size := min 500 (count - start)
    Task.write ((List.range size).flatMap fun i =>
      let index := start + i
      shown (low + by' * index) ++ (if index + 1 = count then ['\n'] else separator))
  return 0

end ComponentReference.Tool
