import ComponentReference.Machine.Regular.Basic

/-!
# Reading regular expressions

Regular expressions are written in one of two ways, which differ in which signs stand for
themselves without a backslash in front, and which with one.
-/

namespace ComponentReference.Regular

/-- Why a text is no regular expression. -/
inductive FormFault where
  | unclosedBracket
  | emptyBracket
  | unclosedGroup
  | unopenedGroup
  | unclosedCount
  | badCount
  | tooGreatCount
  | badRange
  | badCharacter
  | unknownClass
  | loneClass
  | trailingBackslash
  | unknownGroup
  | nothingToRepeat
deriving DecidableEq, Repr

/-- The wording of a fault. -/
def FormFault.message : FormFault → String
  | unclosedBracket => "Unmatched [, [^, [:, [., or [="
  | emptyBracket => "Invalid regular expression"
  | unclosedGroup => "Unmatched ( or \\("
  | unopenedGroup => "Unmatched ) or \\)"
  | unclosedCount => "Unmatched \\\x7b"
  | badCount => "Invalid content of \\\x7b\\\x7d"
  | tooGreatCount => "Regular expression too big"
  | badRange => "Invalid range end"
  | badCharacter => "Invalid collation character"
  | unknownClass => "Invalid character class name"
  | loneClass => "character class syntax is [[:space:]], not [:space:]"
  | trailingBackslash => "Trailing backslash"
  | unknownGroup => "Invalid back reference"
  | nothingToRepeat => "Invalid preceding regular expression"

/-- A way of writing regular expressions. -/
structure Style where
  /-- Whether groups, counts and choices are written without backslashes. -/
  extended : Bool := false
  /-- Whether repetitions are written so, even where groups are not. -/
  barePlus : Bool := false
  /-- Whether what is matched are octets, of which any may end a range. -/
  ofOctets : Bool := false
  /-- Whether a range may be empty. -/
  emptyRanges : Bool := false

/-- A sign of a regular expression. -/
inductive Sign where
  | opening
  | closing
  | bar
  | star
  | plus
  | option
  | count
  | caret
  | dollar
  | bracket
  | plain (r : Regular)
deriving DecidableEq

/-- What a letter behind a backslash stands for in both styles. -/
def escaped (c : Char) : Regular :=
  let word : List ClassItem := [.named "word"]
  match c with
  | '<' => .edge .wordStart
  | '>' => .edge .wordEnd
  | 'b' => .edge .wordEdge
  | 'B' => .edge .noWordEdge
  | '\x60' => .edge .textStart
  | '\'' => .edge .textEnd
  | 'w' => .oneOf false word
  | 'W' => .oneOf true word
  | 's' => .oneOf false [.named "space"]
  | 'S' => .oneOf true [.named "space"]
  | c => if '1' ≤ c ∧ c ≤ '9' then .again (c.toNat - '0'.toNat) else .char c

/-- The sign at the beginning of a text, and what follows it. -/
def Style.sign? (s : Style) : List Char → Except FormFault (Option (Sign × List Char))
  | [] => .ok none
  | ['\\'] => .error .trailingBackslash
  | '\\' :: c :: rest =>
    let sign : Sign :=
      if s.extended then .plain (escaped c)
      else match c with
        | '(' => .opening
        | ')' => .closing
        | '|' => .bar
        | '+' => .plus
        | '?' => .option
        | '\x7b' => .count
        | c => .plain (escaped c)
    .ok (some (sign, rest))
  | c :: rest =>
    let sign : Sign :=
      match s.extended, c with
      | _, '*' => .star
      | _, '^' => .caret
      | _, '$' => .dollar
      | _, '[' => .bracket
      | _, '.' => .plain .any
      | false, '+' => if s.barePlus then .plus else .plain (.char '+')
      | false, '?' => if s.barePlus then .option else .plain (.char '?')
      | true, '(' => .opening
      | true, ')' => .closing
      | true, '|' => .bar
      | true, '+' => .plus
      | true, '?' => .option
      | true, '\x7b' => .count
      | _, c => .plain (.char c)
    .ok (some (sign, rest))

/-! ## Brackets -/

/-- What stands in a bracket up to a sign and the closing bracket, and what follows. -/
def delimited (sign : Char) : List Char → Option (List Char × List Char)
  | c :: ']' :: rest =>
    if c = sign then some ([], rest)
    else (delimited sign (']' :: rest)).map fun (inner, rest) => (c :: inner, rest)
  | c :: rest => (delimited sign rest).map fun (inner, rest) => (c :: inner, rest)
  | [] => none

/-- An end of a range at the beginning of a text, and what follows it.  Characters that have no
place in the order are no end. -/
def Style.rangeEnd (s : Style) : List Char → Except FormFault (Char × List Char)
  | [] => .error .unclosedBracket
  | '[' :: sign :: rest =>
    if sign = '.' ∨ sign = '=' then
      match delimited sign rest with
      | some ([c], rest) => ordered c rest
      | some _ => .error .badCharacter
      | none => .error .unclosedBracket
    else .ok ('[', sign :: rest)
  | c :: rest => .ok (c, rest)
where
  /-- A character that has to have a place in the order. -/
  ordered (c : Char) (rest : List Char) : Except FormFault (Char × List Char) :=
    if s.ofOctets ∨ c.toNat < 0x80 then .ok (c, rest) else .error .badCharacter

/-- The items of a bracket, and what follows its end. -/
def Style.items (s : Style) : (fuel : Nat) → (first : Bool) → List Char →
    Except FormFault (List ClassItem × List Char)
  | 0, _, _ | _, _, [] => .error .unclosedBracket
  | _, false, ']' :: rest => .ok ([], rest)
  | fuel + 1, _, '[' :: ':' :: rest => do
    match delimited ':' rest with
    | none => throw .unclosedBracket
    | some (name, rest) =>
      let name := String.ofList name
      if (property? name).isNone then throw .unknownClass
      let (others, rest) ← s.items fuel false rest
      return (.named name :: others, rest)
  | fuel + 1, _, text => do
    let (low, rest) ← s.rangeEnd text
    match rest with
    | '-' :: ']' :: _ | [] =>
      let (others, rest) ← s.items fuel false rest
      return (.range low low :: others, rest)
    | '-' :: rest =>
      let (high, rest) ← s.rangeEnd rest
      if !s.ofOctets ∧ (0x80 ≤ low.toNat ∨ 0x80 ≤ high.toNat) then throw .badCharacter
      if high < low ∧ !s.emptyRanges then throw .badRange
      let (others, rest) ← s.items fuel false rest
      return (.range low high :: others, rest)
    | rest =>
      let (others, rest) ← s.items fuel false rest
      return (.range low low :: others, rest)

/-- The bracket whose opening stands in front of a text, and what follows it. -/
def Style.bracket (s : Style) (text : List Char) : Except FormFault (Regular × List Char) := do
  if text.isEmpty then throw .emptyBracket
  let (inverted, inner) := match text with
    | '^' :: inner => (true, inner)
    | inner => (false, inner)
  let (listed, rest) ← s.items (inner.length + 1) true inner
  match inner with
  | ':' :: _ =>
    let between := inner.take (inner.length - rest.length - 1)
    if 2 < between.length ∧ between.getLast? = some ':' then throw .loneClass
  | _ => pure ()
  return (.oneOf inverted listed, rest)

/-! ## Counts -/

/-- The bounds of a count behind its opening, and what follows it, if it has the form of
one. -/
def bounds? (s : Style) (text : List Char) :
    Except FormFault (Nat × Option Nat × List Char) := do
  let (low, rest) := text.span Char.isDigit
  let (high?, rest) : Option (List Char) × List Char := match rest with
    | ',' :: rest => let (high, rest) := rest.span Char.isDigit; (some high, rest)
    | rest => (none, rest)
  let closing : List Char := if s.extended then ['\x7d'] else ['\\', '\x7d']
  if !closing.isPrefixOf rest then
    throw (if closing.all fun c => rest.contains c then .badCount else .unclosedCount)
  if low.isEmpty ∧ high?.isNone then throw .badCount
  let least := Octets.valueOf 10 low
  let most? : Option Nat := match high? with
    | none => some least
    | some [] => none
    | some high => some (Octets.valueOf 10 high)
  if most?.any (· < least) then throw .badCount
  if 32767 < max least (most?.getD 0) then throw .tooGreatCount
  return (least, most?, rest.drop closing.length)

/-! ## Expressions -/

/-- How far reading has come: the text, and how many groups have been opened. -/
structure Reading where
  rest : List Char
  groups : Nat := 0
  /-- The groups that are complete. -/
  closed : List Nat := []

/-- Whether a caret or a star stands where an expression begins. -/
def beginsAt : Sign → Bool
  | .bar | .opening => true
  | _ => false

/-- What follows what has been read, with the repetitions written behind it. -/
def repetitions (s : Style) : (fuel : Nat) → Regular → List Char →
    Except FormFault (Regular × List Char)
  | 0, r, rest => .ok (r, rest)
  | fuel + 1, r, rest => do
    match ← s.sign? rest with
    | some (.star, rest) => repetitions s fuel (.times r 0 none) rest
    | some (.plus, rest) => repetitions s fuel (.times r 1 none) rest
    | some (.option, rest) => repetitions s fuel (.times r 0 (some 1)) rest
    | some (.count, rest') =>
      match bounds? s rest' with
      | .ok (least, most?, rest') => repetitions s fuel (.times r least most?) rest'
      | .error fault =>
        -- a brace that opens no count stands for itself
        if s.extended ∧ fault ≠ .tooGreatCount ∧
            !(fault = .badCount ∧ (rest'.head?.any fun c => c.isDigit ∨ c = ',')) then
          return (r, rest)
        else throw fault
    | _ => return (r, rest)

mutual

/-- Choices up to the end of the text or of the group. -/
def choices (s : Style) : (fuel depth : Nat) → Reading → Except FormFault (Regular × Reading)
  | 0, _, reading => .ok (.empty, reading)
  | fuel + 1, depth, reading => do
    let (first, reading) ← branch s fuel depth true .empty reading
    match ← s.sign? reading.rest with
    | some (.bar, rest) =>
      let (others, reading) ← choices s fuel depth { reading with rest }
      return (.choice first others, reading)
    | _ => return (first, reading)

/-- A branch of a choice, behind what has been read of it. -/
def branch (s : Style) : (fuel depth : Nat) → (atStart : Bool) → Regular → Reading →
    Except FormFault (Regular × Reading)
  | 0, _, _, r, reading => .ok (r, reading)
  | fuel + 1, depth, atStart, before, reading => do
    let joined (r : Regular) : Regular :=
      match before with
      | .empty => r
      | before => .sequence before r
    let further (r : Regular) (reading : Reading) : Except FormFault (Regular × Reading) := do
      let (r, rest) ← repetitions s (reading.rest.length + 1) r reading.rest
      branch s fuel depth false (joined r) { reading with rest }
    match ← s.sign? reading.rest with
    | none | some (.bar, _) => return (before, reading)
    | some (.closing, rest) =>
      if 0 < depth then return (before, reading)
      else if s.extended then further (.char ')') { reading with rest }
      else throw .unopenedGroup
    | some (.opening, rest) =>
      let number := reading.groups + 1
      let (inner, reading) ← choices s fuel (depth + 1) { reading with rest, groups := number }
      match ← s.sign? reading.rest with
      | some (.closing, rest) =>
        further (.group number inner) { reading with rest, closed := number :: reading.closed }
      | _ => throw .unclosedGroup
    | some (.bracket, rest) =>
      let (r, rest) ← s.bracket rest
      further r { reading with rest }
    | some (.caret, rest) =>
      if s.extended || atStart then
        -- a star behind the caret of a simple expression stands for itself
        match s.extended, rest with
        | false, '*' :: rest =>
          let (r, rest) ← repetitions s (rest.length + 1) (.char '*') rest
          branch s fuel depth false (joined (.sequence (.edge .lineStart) r)) { reading with rest }
        | true, _ => further (.edge .lineStart) { reading with rest }
        | false, _ => branch s fuel depth false (joined (.edge .lineStart)) { reading with rest }
      else further (.char '^') { reading with rest }
    | some (.dollar, rest) =>
      let isLast := match s.sign? rest with
        | .ok none | .ok (some (.bar, _)) | .ok (some (.closing, _)) => true
        | _ => false
      if s.extended || isLast then further (.edge .lineEnd) { reading with rest }
      else further (.char '$') { reading with rest }
    | some (.star, rest) =>
      if s.extended then branch s fuel depth atStart before { reading with rest }
      else further (.char '*') { reading with rest }
    | some (.plus, rest) =>
      if s.extended then branch s fuel depth atStart before { reading with rest }
      else further (.char '+') { reading with rest }
    | some (.option, rest) =>
      if s.extended then branch s fuel depth atStart before { reading with rest }
      else further (.char '?') { reading with rest }
    | some (.count, rest) =>
      if s.extended then further (.char '\x7b') { reading with rest }
      else if atStart then throw .nothingToRepeat
      else further (.char '\x7b') { reading with rest }
    | some (.plain (.again n), rest) =>
      if reading.closed.contains n then further (.again n) { reading with rest }
      else throw .unknownGroup
    | some (.plain r, rest) => further r { reading with rest }

end

/-- The expression that a text writes. -/
def ofText (s : Style) (text : List Char) : Except FormFault Regular := do
  let (r, _) ← choices s (2 * text.length + 2) 0 { rest := text }
  return r

/-- The expression that matches the text itself. -/
def literal (text : List Char) : Regular :=
  text.foldr (fun c r => .sequence (.char c) r) .empty

end ComponentReference.Regular
