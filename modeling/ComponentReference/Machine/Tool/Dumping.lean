import ComponentReference.Machine.Tool.Amounts
import ComponentReference.Machine.Tool.Reading

/-!
# Dumps

What files hold, one after the other, octet by octet: as numbers in several bases, of one
or more octets each, or as characters, in lines behind their addresses.
-/

namespace ComponentReference.Tool

/-- In which form octets are shown. -/
structure DumpForm where
  /-- How many octets make up what is shown. -/
  size : Nat
  /-- How many columns that takes, but for what is between. -/
  width : Nat
  text : Octets → Octets
  /-- Whether the characters of a line stand behind it. -/
  showsText : Bool := false

namespace DumpForm

/-- Whether an octet is a character that can be shown. -/
def isVisible (c : Char) : Bool :=
  ' ' ≤ c ∧ c ≤ '~'

/-- An octet as a character, or by what stands for it. -/
def character (c : Char) : Octets :=
  let letters := [(0, '0'), (7, 'a'), (8, 'b'), (9, 't'), (10, 'n'), (11, 'v'), (12, 'f'), (13, 'r')]
  match letters.lookup c.toNat with
  | some letter => ['\\', letter]
  | none => if isVisible c then [c] else (escape c).drop 1

/-- An octet by its name, but for its highest bit. -/
def named (c : Char) : Octets :=
  let names := ["nul", "soh", "stx", "etx", "eot", "enq", "ack", "bel", "bs", "ht", "nl", "vt", "ff",
    "cr", "so", "si", "dle", "dc1", "dc2", "dc3", "dc4", "nak", "syn", "etb", "can", "em", "sub",
    "esc", "fs", "gs", "rs", "us", "sp"]
  let n := c.toNat % 128
  match names[n]? with
  | some name => name.toList
  | none => if n = 127 then "del".toList else [Char.ofNat n]

/-- The value of octets, the lowest first. -/
def value (octets : Octets) : Nat :=
  octets.foldr (fun c n => c.toNat + 256 * n) 0

/-- Digits with zeros in front up to a width. -/
def zeroed (width : Nat) (digits : Octets) : Octets :=
  List.replicate (width - digits.length) '0' ++ digits

/-- The form of whole numbers of a size, by the letter of the form. -/
def number? (letter : Char) (size : Nat) : Option DumpForm :=
  let octal := [(1, 3), (2, 6), (4, 11), (8, 22)]
  let decimal := [(1, 3), (2, 5), (4, 10), (8, 20)]
  match letter, octal.lookup size, decimal.lookup size with
  | 'o', some width, _ => some ⟨size, width, fun s => zeroed width (Octets.digits 8 (value s)), false⟩
  | 'x', some _, _ => some ⟨size, 2 * size, fun s => zeroed (2 * size) (Octets.digits 16 (value s)), false⟩
  | 'u', _, some width => some ⟨size, width, fun s => Octets.ofNat (value s), false⟩
  | 'd', _, some width =>
    let signed (s : Octets) : Octets :=
      let n := value s
      Octets.ofInt (if 256 ^ size ≤ 2 * n then (n : Int) - 256 ^ size else n)
    some ⟨size, if size = 8 then width else width + 1, signed, false⟩
  | _, _, _ => none

/-- The form of characters. -/
def characters : DumpForm :=
  ⟨1, 3, fun s => s.flatMap character, false⟩

/-- The form of names. -/
def names : DumpForm :=
  ⟨1, 3, fun s => s.flatMap named, false⟩

/-- The forms that a text lists, or what is wrong with it. -/
def ofText (whole : Octets) : (fuel : Nat) → Octets → Except Octets (List DumpForm)
  | 0, _ | _, [] => .ok []
  | fuel + 1, letter :: rest => do
    let (form, rest) : DumpForm × Octets ← match letter with
      | 'a' => .ok (names, rest)
      | 'c' => .ok (characters, rest)
      | 'd' | 'o' | 'u' | 'x' =>
        let sizes := [('C', 1), ('S', 2), ('I', 4), ('L', 8)]
        let (size, after) : Nat × Octets := match rest.head?.bind fun c => sizes.lookup c with
          | some size => (size, rest.drop 1)
          | none =>
            let (digits, after) := rest.span Char.isDigit
            (if digits.isEmpty then 4 else Octets.valueOf 10 digits, after)
        match number? letter size with
        | some form => .ok (form, after)
        | none =>
          .error (Octets.ofString "invalid type string " ++ quoted whole ++
            Octets.ofString (";\nthis system doesn't provide a " ++ toString size ++ "-byte integral type"))
      | c =>
        .error (Octets.ofString "invalid character '" ++ c :: Octets.ofString "' in type string " ++
          quoted whole)
    let (form, rest) := match rest with
      | 'z' :: rest => ({ form with showsText := true }, rest)
      | rest => (form, rest)
    return form :: (← ofText whole fuel rest)

/-- The form that a letter stands for as an option. -/
def ofLetter? (letter : Char) : Option DumpForm :=
  match letter with
  | 'a' => some names
  | 'c' => some characters
  | 'b' => number? 'o' 1
  | 'd' => number? 'u' 2
  | 'i' => number? 'd' 4
  | 'l' => number? 'd' 8
  | 'o' | 'B' => number? 'o' 2
  | 's' => number? 'd' 2
  | 'x' | 'h' => number? 'x' 2
  | 'D' => number? 'u' 4
  | 'H' | 'X' => number? 'x' 4
  | 'O' => number? 'o' 4
  | 'I' | 'L' => number? 'd' 8
  | _ => none

end DumpForm

/-- How a dump is laid out. -/
structure Dump where
  forms : List DumpForm
  /-- The text of an address, and of what follows it. -/
  address : Nat → Octets
  /-- How many columns an address takes. -/
  addressWidth : Nat
  lineLength : Nat
  /-- Whether lines that are like the one before are shown too. -/
  showsAll : Bool := false
  /-- Whether the highest octet of a number comes first. -/
  highFirst : Bool := false

namespace Dump

/-- The columns that a line takes in the widest form. -/
def columns (d : Dump) : Nat :=
  (d.forms.map fun f => (f.width + 1) * (d.lineLength / f.size)).foldl max 0

/-- The fields of a line, which is filled up with zeros; the blanks in front of them are spread
so that every line has the same columns. -/
def fields (d : Dump) (form : DumpForm) (line : Octets) : Octets :=
  let count := d.lineLength / form.size
  let shown := (line.length + form.size - 1) / form.size
  let pad := d.columns - form.width * count
  let field (i : Nat) : Octets :=
    let before := pad * (count - i) / count
    let after := pad * (count - i - 1) / count
    let datum := (line.drop (i * form.size)).take form.size
    let datum := datum ++ List.replicate (form.size - datum.length) (Char.ofNat 0)
    padLeft (before - after + form.width) (form.text (if d.highFirst then datum.reverse else datum))
  let text := (List.range shown).flatMap field
  if form.showsText then
    let blanks := count - shown
    text ++ List.replicate (blanks * form.width + pad * blanks / count) ' ' ++ Octets.ofString "  >" ++
      line.map (fun c => if DumpForm.isVisible c then c else '.') ++ ['<']
  else text

/-- A line in all forms, behind its address. -/
def block (d : Dump) (offset : Nat) (line : Octets) : Octets :=
  d.forms.zipIdx.flatMap fun (form, i) =>
    (if i = 0 then d.address offset else List.replicate d.addressWidth ' ') ++ d.fields form line ++ ['\n']

/-- The lines of a dump, whose first octet has the address, behind a line that has been shown. -/
def lines (d : Dump) : (fuel : Nat) → (offset : Nat) → (before? : Option Octets) → (starred : Bool) →
    Octets → List Octets
  | 0, _, _, _, _ => []
  | fuel + 1, offset, before?, starred, s =>
    if s.isEmpty then []
    else
      let line := s.take d.lineLength
      let rest := s.drop d.lineLength
      let next := offset + line.length
      if !d.showsAll && before? == some line then
        (if starred then [] else [['*', '\n']]) ++ lines d fuel next before? true rest
      else d.block offset line :: lines d fuel next (some line) false rest

/-- The dump of octets from an address on. -/
def text (d : Dump) (offset : Nat) (s : Octets) : Octets :=
  let last := d.address (offset + s.length)
  (d.lines (s.length + 1) offset none false s).flatten ++ (if last.isEmpty then [] else last ++ ['\n'])

end Dump

/-- The texts that end in a NUL and have at least so many characters, all of which can be shown,
each with its place. -/
def textsIn (least : Nat) : (fuel : Nat) → (offset : Nat) → Octets → List (Nat × Octets)
  | 0, _, _ | _, _, [] => []
  | fuel + 1, offset, s =>
    let (found, rest) := s.span fun c => DumpForm.isVisible c ∨ ('\x07' ≤ c ∧ c ≤ '\r')
    let others := textsIn least fuel (offset + found.length + 1) (rest.drop 1)
    if rest.head? = some (Char.ofNat 0) ∧ least ≤ found.length then (offset, found) :: others else others

/-- The files one after the other, and the status: those that cannot be read are complained
about. -/
def joinedFiles (names : List Octets) : Task (Octets × Nat) := do
  let (parts, status) ← (namesOr names).foldlM (fun (parts, status) name => do
    match ← Task.readOperand name with
    | .ok content => return (content :: parts, status)
    | .error errno =>
      complainOf name errno
      return (parts, 1)) (([], 0) : List Octets × Nat)
  return (parts.reverse.flatten, status)

/-- Dumps files. -/
def od : Program := do
  let a ← Options.taken { letters := "abcdfilosxhBDHXOILv", valued := "AjNtSE", attached := "w", words :=
    [("address-radix", 'A'), ("skip-bytes", 'j'), ("read-bytes", 'N'), ("format", 't'), ("strings", 'S'),
      ("output-duplicates", 'v'), ("width", 'w'), ("endian", 'E'), ("traditional", '\x03')] }
  let amount (letter : Char) (value? : Option Octets) : Task (Option Nat) := do
    match value? with
    | none => return none
    | some text =>
      match amountIn "bEGKkMmPQRTYZ".toList true text with
      | .ok n => return some n
      | .error fault => Task.refuse 1 (fault.ofOption ['-', letter] text)
  let radix := (a.value? 'A').getD ['o']
  let (base, addressWidth) ← match radix.head? with
    | some 'o' => pure (8, 7)
    | some 'd' => pure (10, 7)
    | some 'x' => pure (16, 6)
    | some 'n' => pure (0, 0)
    | _ => Task.refuse 1 (Octets.ofString "invalid output address radix '" ++ radix.take 1 ++
        Octets.ofString "'; it must be one character from [doxn]")
  let address (n : Nat) : Octets :=
    if base = 0 then [] else DumpForm.zeroed addressWidth (Octets.digits base n)
  let skipped := (← amount 'j' (a.value? 'j')).getD 0
  let most? ← amount 'N' (a.value? 'N')
  let least? ← amount 'S' ((a.value? 'S').map fun s => if s.isEmpty then ['3'] else s)
  let (forms, valid) ← a.options.foldlM (fun (forms, valid) (letter, value) => do
    if letter = 't' then
      match DumpForm.ofText value (value.length + 1) value with
      | .ok more => return (forms ++ more, valid)
      | .error message =>
        Task.complain message
        return (forms, false)
    else return (forms ++ (DumpForm.ofLetter? letter).toList, valid)) (([], true) : List DumpForm × Bool)
  if !valid then Task.finish 1
  let width? ← amount 'w' ((a.value? 'w').map fun s => if s.isEmpty then "32".toList else s)
  let forms := if forms.isEmpty then (DumpForm.number? 'o' 2).toList else forms
  let unit := (forms.map DumpForm.size).foldl Nat.lcm 1
  let lineLength ← match width? with
    | none => pure (if unit < 16 then unit * (16 / unit) else unit)
    | some width =>
      if width ≠ 0 ∧ width % unit = 0 then pure width
      else
        Task.complain (Octets.ofString ("warning: invalid width " ++ toString width ++ "; using " ++
          toString unit ++ " instead"))
        pure unit
  let (content, status) ← joinedFiles a.operands
  let isEndless := a.operands.any (Octets.ofString "/dev/").isPrefixOf
  if content.length < skipped ∧ !isEndless then Task.refuse 1 (Octets.ofString "cannot skip past end of combined input")
  let rest := content.drop skipped
  let part := match most? with
    | some most => rest.take most
    | none => rest
  match least? with
  | some least =>
    Task.write ((textsIn least (part.length + 1) skipped part).flatMap fun (offset, s) =>
      let place := address offset
      (if place.isEmpty then [] else place ++ [' ']) ++ s.flatMap DumpForm.character ++ ['\n'])
  | none =>
    let dump : Dump :=
      { forms, address, addressWidth, lineLength, showsAll := a.has 'v',
        highFirst := (a.value? 'E').any (·.head? = some 'b') }
    Task.write (dump.text skipped part)
  return status

end ComponentReference.Tool
