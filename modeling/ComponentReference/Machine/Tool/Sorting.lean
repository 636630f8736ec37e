import ComponentReference.Machine.Tool.Reading

/-!
# Programs on the order of lines

They sort lines by keys, count the repeated ones, and compare sorted files.
-/

namespace ComponentReference.Tool

/-! ## Keys -/

/-- A place in a line: a field, and a character of it. -/
structure FieldPlace where
  field : Nat
  /-- The character, which is zero at the end of a key for the end of the field. -/
  character : Nat
  /-- Whether blanks in front of the field are passed over. -/
  skipsBlanks : Bool := false

/-- A key to sort by. -/
structure SortKey where
  start : FieldPlace := ⟨1, 1, false⟩
  finish? : Option FieldPlace := none
  /-- The letters that say how keys are compared. -/
  manner : List Char := []

/-- Whether an octet is blank. -/
def isBlankOctet (c : Char) : Bool :=
  c = ' ' ∨ c = '\t'

/-- The fields of a line, each with the blanks in front of it unless there is a separator. -/
def fieldsOf (separator? : Option Char) (line : Octets) : List Octets :=
  match separator? with
  | some c => Text.split c line
  | none => go (line.length + 1) line
where
  /-- Takes one field after the other. -/
  go : Nat → Octets → List Octets
    | 0, _ => []
    | _, [] => []
    | fuel + 1, s =>
      let (blanks, rest) := s.span isBlankOctet
      let (field, rest) := rest.span fun c => !isBlankOctet c
      (blanks ++ field) :: go fuel rest

/-- The offset in a line at which a field begins. -/
def fieldOffset (separator? : Option Char) (fields : List Octets) (n : Nat) : Nat :=
  let gap := if separator?.isSome then 1 else 0
  ((fields.take n).map fun field => field.length + gap).sum

namespace SortKey

/-- The part of a line that is the key. -/
def ofLine (k : SortKey) (separator? : Option Char) (line : Octets) : Octets :=
  let fields := fieldsOf separator? line
  let blanks (offset : Nat) : Nat := ((line.drop offset).takeWhile isBlankOctet).length
  let start :=
    let offset := fieldOffset separator? fields (k.start.field - 1)
    let offset := if k.start.skipsBlanks then offset + blanks offset else offset
    offset + (k.start.character - 1)
  let finish := match k.finish? with
    | none => line.length
    | some place =>
      if place.character = 0 then
        let gap := if separator?.isSome then 1 else 0
        fieldOffset separator? fields place.field - gap
      else
        let offset := fieldOffset separator? fields (place.field - 1)
        let offset := if place.skipsBlanks then offset + blanks offset else offset
        offset + place.character
  (line.take finish).drop start

/-- The letters of comparisons. -/
def letters : List Char := "bdfgiMhnRrV".toList

/-- A place in a key: a field, perhaps a character, and letters behind them. -/
def place (isFinish : Bool) (s : Octets) : Except Octets (FieldPlace × List Char × Octets) := do
  let (field, rest) := s.span Char.isDigit
  if field.isEmpty then
    throw (Octets.ofString (if isFinish then "invalid number after ','" else
      "invalid number at field start") ++
      Octets.ofString ": invalid count at start of " ++ quoted s)
  let n := Octets.valueOf 10 field
  if n = 0 then
    throw (Octets.ofString "field number is zero: invalid field specification " ++ quoted s)
  let (character, rest) ← match rest with
    | '.' :: rest =>
      let (digits, rest) := rest.span Char.isDigit
      if digits.isEmpty then
        throw (Octets.ofString "invalid number after '.': invalid count at start of " ++ quoted rest)
      let c := Octets.valueOf 10 digits
      if c = 0 ∧ !isFinish then
        throw (Octets.ofString "character offset is zero: invalid field specification " ++ quoted s)
      pure (c, rest)
    | rest => pure (if isFinish then 0 else 1, rest)
  let (given, rest) := rest.span letters.contains
  return (⟨n, character, given.contains 'b'⟩, given, rest)

/-- The key that a text writes. -/
def ofText (s : Octets) : Except Octets SortKey := do
  let stray : Octets := Octets.ofString "stray character in field spec: invalid field specification " ++
    quoted s
  let (start, given, rest) ← place false s
  match rest with
  | [] => return { start, manner := given }
  | ',' :: rest =>
    let (finish, more, rest) ← place true rest
    if !rest.isEmpty then throw stray
    return { start, finish? := some finish, manner := given ++ more }
  | _ => throw stray

end SortKey

/-! ## Comparing -/

/-- The octets in which they are below, the same as, or above others. -/
def compareOctets (s t : Octets) : Ordering :=
  if Octets.isBefore s t then .lt else if Octets.isBefore t s then .gt else .eq

/-- A decimal number at the beginning of a text: its digits without the point, and how many
of them are behind it. -/
def decimalAt (s : Octets) : Int × Nat × Octets :=
  let (negative, body) := match s.dropWhile isBlankOctet with
    | '-' :: body => (true, body)
    | body => (false, body)
  let (whole, rest) := body.span Char.isDigit
  let (fraction, rest) := match rest with
    | '.' :: after => after.span Char.isDigit
    | rest => ([], rest)
  let n : Int := Octets.valueOf 10 (whole ++ fraction)
  (if negative then -n else n, fraction.length, rest)

/-- How the numbers at the beginnings of two texts compare. -/
def compareNumbers (s t : Octets) : Ordering :=
  let (m, p, _) := decimalAt s
  let (n, q, _) := decimalAt t
  compare (m * 10 ^ (max p q - p)) (n * 10 ^ (max p q - q))

/-- How sizes with letters for their factors compare. -/
def compareSizes (s t : Octets) : Ordering :=
  let weight (s : Octets) : Int :=
    let (n, _, rest) := decimalAt s
    let order : Int := match rest with
      | c :: _ => (("KMGTPEZY".toList.findIdx? (· = c.toUpper)).map fun i => (i : Int) + 1).getD 0
      | [] => 0
    if n < 0 then -order - 1 else if n = 0 then 0 else order + 1
  (compare (weight s) (weight t)).then (compareNumbers s t)

/-- The number of the month with a name. -/
def monthOf (s : Octets) : Nat :=
  let name := ((s.dropWhile isBlankOctet).take 3).map Char.toUpper
  let months := ["JAN", "FEB", "MAR", "APR", "MAY", "JUN", "JUL", "AUG", "SEP", "OCT", "NOV", "DEC"]
  ((months.findIdx? (·.toList = name)).map (· + 1)).getD 0

/-- How versions compare: digits by their number, all else by octets. -/
def compareVersions : (fuel : Nat) → Octets → Octets → Ordering
  | 0, s, t => compareOctets s t
  | _, [], [] => .eq
  | fuel + 1, s, t =>
    let (a, s') := s.span fun c => !c.isDigit
    let (b, t') := t.span fun c => !c.isDigit
    let weight (c : Char) : Nat :=
      if c = '~' then 0 else if c.isAlpha then c.toNat + 2 else c.toNat + 1000
    let texts := compareWeights ((a.map weight) ++ [1]) ((b.map weight) ++ [1])
    let (m, s') := s'.span Char.isDigit
    let (n, t') := t'.span Char.isDigit
    (texts.then (compare (Octets.valueOf 10 m) (Octets.valueOf 10 n))).then
      (compareVersions fuel s' t')
where
  /-- The order of lists of weights. -/
  compareWeights : List Nat → List Nat → Ordering
    | [], [] => .eq
    | [], _ :: _ => .lt
    | _ :: _, [] => .gt
    | a :: s, b :: t => (compare a b).then (compareWeights s t)

/-- How two keys compare. -/
def compareKeys (manner : List Char) (s t : Octets) : Ordering :=
  let has (c : Char) : Bool := manner.contains c
  let trimmed (s : Octets) : Octets := if has 'b' then s.dropWhile isBlankOctet else s
  let plain (s : Octets) : Octets :=
    let s := trimmed s
    let s := if has 'd' then s.filter fun c => c.isAlphanum || isBlankOctet c else s
    let s := if has 'i' then s.filter fun c => ' ' ≤ c ∧ c ≤ '~' else s
    if has 'f' then s.map Char.toUpper else s
  let order :=
    if has 'n' || has 'g' then compareNumbers s t
    else if has 'h' then compareSizes s t
    else if has 'M' then compare (monthOf s) (monthOf t)
    else if has 'V' then compareVersions (s.length + t.length) (trimmed s) (trimmed t)
    else compareOctets (plain s) (plain t)
  if has 'r' then order.swap else order

/-- How lines are sorted. -/
structure SortOrder where
  keys : List SortKey
  manner : List Char
  separator? : Option Char
  /-- Whether lines with the same keys keep their order. -/
  keepsOrder : Bool

/-- How two lines compare by their keys. -/
def SortOrder.byKeys (o : SortOrder) (s t : Octets) : Ordering :=
  if o.keys.isEmpty then compareKeys o.manner s t
  else o.keys.foldl (fun order k =>
    order.then (compareKeys (if k.manner.isEmpty then o.manner else k.manner)
      (k.ofLine o.separator? s) (k.ofLine o.separator? t))) .eq

/-- How two lines compare in the end. -/
def SortOrder.compare (o : SortOrder) (s t : Octets) : Ordering :=
  let order := o.byKeys s t
  if o.keepsOrder then order
  else
    let last := compareOctets s t
    order.then (if o.manner.contains 'r' then last.swap else last)

/-- Lines of which those are left out that compare as the one before. -/
def withoutRepeats (same : Octets → Octets → Bool) : List Octets → List Octets
  | [] => []
  | line :: rest =>
    match withoutRepeats same rest with
    | [] => [line]
    | next :: others => if same line next then line :: others else line :: next :: others

/-- Sorts lines. -/
def sort : Program := do
  let a ← Options.taken { letters := "bcCdfgiMhnRrVmsuz", valued := "kotST", refusal := 2, words :=
    [("ignore-leading-blanks", 'b'), ("dictionary-order", 'd'), ("ignore-case", 'f'),
      ("general-numeric-sort", 'g'), ("month-sort", 'M'), ("human-numeric-sort", 'h'),
      ("numeric-sort", 'n'), ("random-sort", 'R'), ("reverse", 'r'), ("version-sort", 'V'),
      ("check", 'c'), ("key", 'k'), ("merge", 'm'), ("output", 'o'), ("stable", 's'),
      ("field-separator", 't'), ("unique", 'u'), ("zero-terminated", 'z')], optional := "c" }
  let manner := SortKey.letters.filter a.has
  let separator? ← match a.value? 't' with
    | none => pure none
    | some [c] => pure (some c)
    | some [] => Task.refuse 2 (Octets.ofString "empty tab")
    | some ['\\', '0'] => pure (some (Char.ofNat 0))
    | some s => Task.refuse 2 (Octets.ofString "multi-character tab " ++ quoted s)
  let keys ← (a.options.filter (·.1 = 'k')).mapM fun (_, s) =>
    match SortKey.ofText s with
    | .ok k => return { k with start := { k.start with
        skipsBlanks := k.start.skipsBlanks || (k.manner.isEmpty && a.has 'b') } }
    | .error message => Task.refuse 2 message
  let kinds := "ghnM".toList.filter a.has
  let clashing := "dighnM".toList.filter a.has
  if 1 < kinds.length ∨ (0 < kinds.length ∧ a.has 'd') then
    Task.refuse 2 (Octets.ofString ("options '-" ++
      String.ofList (clashing.mergeSort fun x y => x ≤ y) ++ "' are incompatible"))
  let order : SortOrder := { keys, manner, separator?, keepsOrder := a.has 's' || a.has 'u' }
  let ending := if a.has 'z' then Char.ofNat 0 else '\n'
  let names := namesOr a.operands
  let contents ← names.mapM fun name => do
    match ← Task.readOperand name with
    | .ok content => return content
    | .error errno =>
      Task.refuse 2 (Octets.ofString (if errno = .isDirectory then "read failed: " else "cannot read: ") ++
        shownName name ++ Octets.ofString (": " ++ errno.message))
  let lines := contents.flatMap fun content =>
    let parts := Text.split ending content
    if parts.getLast? = some [] then parts.dropLast else parts
  let same (s t : Octets) : Bool := (order.byKeys s t).isEq
  if a.has 'c' || a.has 'C' then
    let bad? := ((lines.zip (lines.drop 1)).zipIdx 2).find? fun ((s, t), _) =>
      (order.compare s t).isGT || (a.has 'u' && same s t)
    match bad? with
    | none => return 0
    | some ((_, line), n) =>
      if !(a.has 'C') then
        Task.complain (shownName (names.head?.getD []) ++ [':'] ++ Octets.ofNat n ++
          Octets.ofString ": disorder: " ++ line)
      return 1
  let sorted := lines.mergeSort fun s t => (order.compare s t).isLE
  let kept := if a.has 'u' then withoutRepeats same sorted else sorted
  let text := kept.flatMap (· ++ [ending])
  match a.value? 'o' with
  | none =>
    Task.write text
    return 0
  | some name =>
    match ← Task.writeFile .write name text with
    | .ok () => return 0
    | .error errno =>
      Task.refuse 2 (Octets.ofString "open failed: " ++ shownName name ++
        Octets.ofString (": " ++ errno.message))

/-! ## Repeated lines -/

/-- Lines in runs of such as count as the same. -/
def runsOf (same : Octets → Octets → Bool) : List Octets → List (List Octets)
  | [] => []
  | line :: rest =>
    match runsOf same rest with
    | (next :: run) :: others =>
      if same line next then (line :: next :: run) :: others else [line] :: (next :: run) :: others
    | runs => [line] :: runs

/-- Leaves out or counts lines that repeat the one before. -/
def uniq : Program := do
  let a ← Options.taken { letters := "cdDiuz", valued := "fsw", words :=
    [("count", 'c'), ("repeated", 'd'), ("all-repeated", 'D'), ("skip-fields", 'f'),
      ("ignore-case", 'i'), ("skip-chars", 's'), ("unique", 'u'), ("check-chars", 'w'),
      ("zero-terminated", 'z')], optional := "D" }
  let number (letter : Char) (what : String) : Task (Option Nat) := do
    match a.value? letter with
    | none => return none
    | some s =>
      match Octets.nat? s with
      | some n => return some n
      | none => Task.refuse 1 (s ++ Octets.ofString (": invalid number of " ++ what))
  let fields := (← number 'f' "fields to skip").getD 0
  let skipped := (← number 's' "bytes to skip").getD 0
  let compared? ← number 'w' "bytes to compare"
  match a.operands with
  | _ :: _ :: extra :: _ => refuseExtra extra
  | _ => pure ()
  let rec withoutFields : Nat → Octets → Octets
    | 0, s => s
    | n + 1, s => withoutFields n ((s.dropWhile isBlankOctet).dropWhile fun c => !isBlankOctet c)
  let keyOf (line : Octets) : Octets :=
    let s := (withoutFields fields line).drop skipped
    let s := match compared? with
      | some n => s.take n
      | none => s
    if a.has 'i' then s.map Char.toLower else s
  let name := a.operands.head?.getD ['-']
  match ← Task.readOperand name with
  | .error errno =>
    if errno = .isDirectory then
      Task.refuse 1 (Octets.ofString "error reading " ++ quotedName name ++
        Octets.ofString (": " ++ errno.message))
    complainOf name errno
    return 1
  | .ok content =>
    let ending := lineEndOf a
    let parts := Text.split ending content
    let lines := if parts.getLast? = some [] then parts.dropLast else parts
    let runs := runsOf (fun s t => keyOf s = keyOf t) lines
    let shown := runs.flatMap fun run =>
      let isRepeated := 1 < run.length
      if (a.has 'd' || a.has 'D') && !isRepeated then []
      else if a.has 'u' && isRepeated then []
      else
        let count := if a.has 'c' then padLeft 7 (Octets.ofNat run.length) ++ [' '] else []
        (if a.has 'D' then run else run.take 1).flatMap fun line => count ++ line ++ [ending]
    match a.operands with
    | [_, target] =>
      match ← Task.writeFile .write target shown with
      | .ok () => return 0
      | .error errno =>
        complainOf target errno
        return 1
    | _ =>
      Task.write shown
      return 0
where
  /-- What ends a line. -/
  lineEndOf (a : Arguments) : Char := if a.has 'z' then Char.ofNat 0 else '\n'

/-! ## Comparing sorted files -/

/-- The lines of two sorted files side by side, each with the column that it belongs to. -/
def columnsOf : (fuel : Nat) → List Octets → List Octets → List (Nat × Octets)
  | 0, _, _ => []
  | _, [], second => second.map (2, ·)
  | _, first, [] => first.map (1, ·)
  | fuel + 1, a :: first, b :: second =>
    match compareOctets a b with
    | .lt => (1, a) :: columnsOf fuel first (b :: second)
    | .gt => (2, b) :: columnsOf fuel (a :: first) second
    | .eq => (3, a) :: columnsOf fuel first second

/-- Compares two sorted files line by line. -/
def comm : Program := do
  let a ← Options.taken { letters := "123z", valued := "o", words :=
    [("output-delimiter", 'o'), ("check-order", 'C'), ("nocheck-order", 'N'), ("total", 'T')] }
  match a.operands with
  | [] | [_] => refuseMissing a.operands
  | _ :: _ :: extra :: _ => refuseExtra extra
  | [first, second] =>
    let linesOf (name : Octets) : Task (List Octets) := do
      match ← Task.readOperand name with
      | .ok content => return (Octets.lines content).map Octets.chomp
      | .error errno =>
        complainOf name errno
        Task.finish 1
    let s ← linesOf first
    let t ← linesOf second
    let between := (a.value? 'o').getD ['\t']
    let columns := columnsOf (s.length + t.length) s t
    Task.write (columns.flatMap fun (column, line) =>
      let digit := Char.ofNat ('0'.toNat + column)
      if a.has digit then []
      else
        let before := ((List.range column).drop 1).filter fun n => !(a.has (Char.ofNat ('0'.toNat + n)))
        (before.map fun _ => between).flatten ++ line ++ ['\n'])
    let isSorted (lines : List Octets) : Bool :=
      (lines.zip (lines.drop 1)).all fun (x, y) => Octets.le x y
    let mut status := 0
    if !isSorted s ∧ s ≠ t then
      Task.complain (Octets.ofString "file 1 is not in sorted order")
      status := 1
    if !isSorted t ∧ s ≠ t then
      Task.complain (Octets.ofString "file 2 is not in sorted order")
      status := 1
    if status ≠ 0 then Task.complain (Octets.ofString "input is not in sorted order")
    return status

end ComponentReference.Tool
