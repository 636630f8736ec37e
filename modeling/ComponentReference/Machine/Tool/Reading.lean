import ComponentReference.Machine.Tool.Arguments

/-!
# Programs that show files

They show files as a whole or in part, as they are or with marks, one after the other.
-/

namespace ComponentReference.Tool

/-- The names that are operands: a dash, which stands for the input, if there are none. -/
def namesOr (operands : List Octets) : List Octets :=
  if operands.isEmpty then [['-']] else operands

/-- Octets at the right end of so many columns. -/
def padLeft (width : Nat) (s : Octets) : Octets :=
  List.replicate (width - s.length) ' ' ++ s

/-- Octets at the left end of so many columns. -/
def padRight (width : Nat) (s : Octets) : Octets :=
  s ++ List.replicate (width - s.length) ' '

/-! ## Whole files -/

/-- How files are shown as a whole. -/
structure Display where
  numbersAll : Bool := false
  numbersFilled : Bool := false
  squeezes : Bool := false
  marksEnds : Bool := false
  marksTabs : Bool := false
  marksHidden : Bool := false

/-- Where the display of a file has come to. -/
structure DisplayState where
  number : Nat := 1
  /-- Whether the last line was empty, which counts as two with a line before it. -/
  blanks : Nat := 0
  atStart : Bool := true

namespace Display

/-- What an octet is shown by. -/
def shown (d : Display) (c : Char) : Octets :=
  if c = '\n' then (if d.marksEnds then ['$', '\n'] else ['\n'])
  else if c = '\t' then (if d.marksTabs then ['^', 'I'] else ['\t'])
  else if !d.marksHidden then [c]
  else
    let n := c.toNat
    let low (n : Nat) : Octets :=
      if n < 32 then ['^', Char.ofNat (n + 64)] else if n = 127 then ['^', '?'] else [Char.ofNat n]
    if n < 128 then low n else ['M', '-'] ++ low (n - 128)

/-- Shows the lines of a file. -/
def lines (d : Display) : List Octets → DisplayState → Octets × DisplayState
  | [], st => ([], st)
  | line :: rest, st =>
    let isBlank := line = ['\n'] && st.atStart
    let blanks := if isBlank then st.blanks + 1 else 0
    if d.squeezes && 1 < blanks then lines d rest { st with blanks }
    else
      let numbered := st.atStart && (if d.numbersFilled then !isBlank else d.numbersAll)
      let number := if numbered then padLeft 6 (Octets.ofNat st.number) ++ ['\t'] else []
      let next : DisplayState :=
        { number := if numbered then st.number + 1 else st.number, blanks,
          atStart := line.getLast? = some '\n' }
      let (after, st) := lines d rest next
      (number ++ line.flatMap d.shown ++ after, st)

/-- Whether files are shown as they are. -/
def isPlain (d : Display) : Bool :=
  !(d.numbersAll || d.numbersFilled || d.squeezes || d.marksEnds || d.marksTabs || d.marksHidden)

end Display

/-- Whether the output goes into the file that is read. -/
def isOutput (name : Octets) : Task Bool := do
  let m ← get
  let p ← read
  let target? (number? : Option Nat) : Option OpenFile :=
    number?.bind fun n => m.openFiles.lookup n
  match target? (p.streams.lookup 1) with
  | some { target := .file place, .. } =>
    let found ← Task.find name
    let (source?, offset) : Option Location × Nat :=
      if name = ['-'] then
        match target? (p.streams.lookup 0) with
        | some { target := .file l, offset, .. } => (some l, offset)
        | _ => (none, 0)
      else (found.toOption.map Prod.fst, 0)
    return source? == some place && (match m.files.get? place with
      | some (.file content) => offset < content.length
      | _ => false)
  | _ => return false

/-- Shows files as a whole. -/
def cat : Program := do
  let words := [("show-all", 'A'), ("number-nonblank", 'b'), ("show-ends", 'E'), ("number", 'n'),
    ("squeeze-blank", 's'), ("show-tabs", 'T'), ("show-nonprinting", 'v')]
  let a ← Options.taken { letters := "AbeEnstTuv", words }
  let display : Display :=
    { numbersAll := a.has 'n', numbersFilled := a.has 'b', squeezes := a.has 's',
      marksEnds := a.has 'A' || a.has 'e' || a.has 'E',
      marksTabs := a.has 'A' || a.has 't' || a.has 'T',
      marksHidden := a.has 'A' || a.has 'e' || a.has 't' || a.has 'v' }
  let (status, _) ← (namesOr a.operands).foldlM (fun (status, st) name => do
    if ← isOutput name then
      Task.complain (shownName name ++ Octets.ofString ": input file is output file")
      return (1, st)
    match ← Task.readOperand name with
    | .error errno =>
      complainOf name errno
      return (1, st)
    | .ok content =>
      if display.isPlain then
        Task.write content
        return (status, st)
      let (shown, st) := display.lines (Octets.lines content) st
      Task.write shown
      return (status, st)) ((0, {}) : Nat × DisplayState)
  return status

/-- Shows files, the last lines first. -/
def tac : Program := do
  let a ← Options.taken { letters := "br", valued := "s", words :=
    [("before", 'b'), ("regex", 'r'), ("separator", 's')] }
  Task.worst (namesOr a.operands) fun name => do
    match ← Task.readOperand name with
    | .ok content =>
      Task.write (Octets.lines content).reverse.flatten
      return 0
    | .error .isDirectory =>
      Task.complain (shownName name ++ Octets.ofString ": read error: Invalid argument")
      return 1
    | .error errno =>
      Task.complain (Octets.ofString "failed to open " ++ quotedName name ++
        Octets.ofString (" for reading: " ++ errno.message))
      return 1

/-- The characters of octets, each in its octets; octets that are no text stand alone. -/
def characters (s : Octets) : List Octets :=
  (nameParts s).map NamePart.octets

/-- Shows files with each line turned round. -/
def rev : Program := do
  let a ← Options.taken {}
  Task.worst (namesOr a.operands) fun name => do
    match ← Task.readOperand name with
    | .ok content =>
      Task.write ((Octets.lines content).flatMap fun line =>
        let text := Octets.chomp line
        (characters text).reverse.flatten ++ line.drop text.length)
      return 0
    | .error errno =>
      Task.complain (Octets.ofString "cannot open " ++ name ++ Octets.ofString (": " ++ errno.message))
      return 1

/-- Shows files with the lines numbered that are not empty, or all of them. -/
def nl : Program := do
  let a ← Options.taken { letters := "p", valued := "bdfhilnsvw" }
  let width := ((a.value? 'w').bind Octets.nat?).getD 6
  let separator := (a.value? 's').getD ['\t']
  let all := a.value? 'b' = some ['a']
  let none' := a.value? 'b' = some ['n']
  let step := ((a.value? 'i').bind Octets.nat?).getD 1
  let begin := ((a.value? 'v').bind Octets.nat?).getD 1
  let shownNumber (n : Nat) : Octets :=
    match a.value? 'n' with
    | some ['l', 'n'] => padRight width (Octets.ofNat n)
    | some ['r', 'z'] =>
      let digits := Octets.ofNat n
      List.replicate (width - digits.length) '0' ++ digits
    | _ => padLeft width (Octets.ofNat n)
  let (status, _) ← (namesOr a.operands).foldlM (fun (status, number) name => do
    match ← Task.readOperand name with
    | .error errno =>
      complainOf name errno
      return (1, number)
    | .ok content =>
      let (shown, number) := (Octets.lines content).foldl (fun (shown, number) line =>
        let text := Octets.chomp line
        if !none' && (all || !text.isEmpty) then
          ((shownNumber number ++ separator ++ text ++ ['\n']) :: shown, number + step)
        else
          ((List.replicate (width + separator.length) ' ' ++ text ++ ['\n']) :: shown, number))
        (([], number) : List Octets × Nat)
      Task.write shown.reverse.flatten
      return (status, number)) ((0, begin) : Nat × Nat)
  return status

/-! ## Parts of files -/

/-- The factors that letters behind a number stand for. -/
def factors : List (String × Nat) :=
  let powers (base : Nat) (ending : String) : List (String × Nat) :=
    ["K", "M", "G", "T", "P", "E"].mapIdx fun i letter => (letter ++ ending, base ^ (i + 1))
  [("", 1), ("b", 512), ("k", 1024), ("kB", 1000), ("m", 1024 ^ 2)] ++ powers 1024 "" ++
    powers 1000 "B" ++ powers 1024 "iB"

/-- The number that octets write, perhaps with a factor behind it. -/
def amount? (s : Octets) : Option Nat :=
  let (digits, letters) := s.span Char.isDigit
  match Octets.nat? digits, factors.lookup (String.ofList letters) with
  | some n, some factor => some (n * factor)
  | _, _ => none

/-- Which part of a file is shown. -/
structure Portion where
  ofOctets : Bool := false
  /-- What the number counts: from the beginning, or from the end. -/
  count : Nat := 10
  /-- The sign in front of the number, if there is one. -/
  sign? : Option Char := none
  ending : Char := '\n'

namespace Portion

/-- What the portion is counted in. -/
def pieces (p : Portion) (s : Octets) : List Octets :=
  if p.ofOctets then s.map ([·])
  else if p.ending = '\n' then Octets.lines s
  else
    let parts := Text.split p.ending s
    parts.dropLast.map (· ++ [p.ending]) ++ parts.getLast?.toList.filter (!·.isEmpty)

/-- The beginning of a file, or all but its end. -/
def front (p : Portion) (s : Octets) : Octets :=
  let all := p.pieces s
  (all.take (if p.sign? = some '-' then all.length - p.count else p.count)).flatten

/-- The end of a file, or all but its beginning. -/
def back (p : Portion) (s : Octets) : Octets :=
  let all := p.pieces s
  (all.drop (if p.sign? = some '+' then p.count - 1 else all.length - p.count)).flatten

/-- What a number in an argument says, where a sign is one of those that count. -/
def ofArgument (ofOctets : Bool) (s : Octets) : Task Portion := do
  let (sign?, digits) : Option Char × Octets := match s with
    | '-' :: digits => (some '-', digits)
    | '+' :: digits => (some '+', digits)
    | digits => (none, digits)
  match amount? digits with
  | some count => return { ofOctets, count, sign? }
  | none =>
    Task.refuse 1 (Octets.ofString ("invalid number of " ++ (if ofOctets then "bytes" else "lines") ++
      ": ") ++ quoted digits)

end Portion

/-- The arguments in which a number behind a dash has become an option. -/
def modernArguments (valued : List Octets) : List Octets → List Octets
  | [] => []
  | ['-', '-'] :: rest => ['-', '-'] :: rest
  | argument :: rest =>
    if valued.contains argument then
      match rest with
      | value :: rest => argument :: value :: modernArguments valued rest
      | [] => [argument]
    else
      match argument with
      | '-' :: c :: digits =>
        if c.isDigit then
          let (digits, letters) := (c :: digits).span Char.isDigit
          let unit := if letters.contains 'c' then 'c' else 'n'
          ('-' :: (letters.filter "qvz".toList.contains) ++ unit :: digits) ::
            modernArguments valued rest
        else argument :: modernArguments valued rest
      | _ => argument :: modernArguments valued rest

/-- Shows a part of each file, under the names of the files if there are several. -/
def showParts (choose : Portion → Octets → Octets) (keepsEmptyName : Bool) : Program := do
  let words := [("lines", 'n'), ("bytes", 'c'), ("quiet", 'q'), ("silent", 'q'),
    ("verbose", 'v'), ("zero-terminated", 'z'), ("follow", 'f'), ("retry", 'F')]
  let arguments := modernArguments [['-', 'n'], ['-', 'c']] (← read).arguments
  let a ← Options.take
    { letters := "qvzfF", valued := "nc", words, optional := "f" } arguments
  let portion ← match a.options.reverse.find? fun (c, _) => c = 'n' ∨ c = 'c' with
    | some (c, value) => Portion.ofArgument (c = 'c') value
    | none => pure {}
  let portion := if a.has 'z' then { portion with ending := Char.ofNat 0 } else portion
  let names := namesOr a.operands
  let heads := match a.last? "qv" with
    | some 'v' => true
    | some _ => false
    | none => 1 < names.length
  let header (isFirst : Bool) (name : Octets) : Task Unit := do
    if heads then
      let name := if name = ['-'] then Octets.ofString "standard input" else name
      Task.write ((if isFirst then [] else ['\n']) ++ Octets.ofString "==> " ++ name ++
        Octets.ofString " <==\n")
  let (status, _) ← names.foldlM (fun (status, isFirst) name => do
    match ← Task.readOperand name with
    | .error errno =>
      let isDirectory := errno = .isDirectory
      if isDirectory && keepsEmptyName then header isFirst name
      Task.complain (Octets.ofString (if isDirectory then "error reading " else "cannot open ") ++
        quotedName (if name = ['-'] then Octets.ofString "standard input" else name) ++
        Octets.ofString ((if isDirectory then ": " else " for reading: ") ++ errno.message))
      return (1, isFirst && !isDirectory)
    | .ok content =>
      header isFirst name
      Task.write (choose portion content)
      return (status, false)) ((0, true) : Nat × Bool)
  return status

/-- Shows the beginnings of files. -/
def head : Program :=
  showParts Portion.front true

/-- Shows the ends of files. -/
def tail : Program := do
  let p ← read
  -- a number behind a plus sign in front counts from the beginning
  let arguments := match p.arguments with
    | ('+' :: c :: digits) :: rest =>
      if c.isDigit then ("-n+".toList ++ c :: digits) :: rest else p.arguments
    | arguments => arguments
  ReaderT.adapt (fun p => { p with arguments }) (showParts Portion.back true)

/-- Copies the input to the output and into files. -/
def tee : Program := do
  let a ← Options.taken { letters := "aip", words :=
    [("append", 'a'), ("ignore-interrupts", 'i')] }
  let p ← read
  let opening := if a.has 'a' then Opening.append else .write
  let (status, numbers) ← a.operands.foldlM (fun (status, numbers) name => do
    match ← Task.attempt (Attempt.openFile p opening name) with
    | .ok number => return (status, numbers ++ [number])
    | .error errno =>
      complainOf name errno
      return (1, numbers)) ((0, []) : Nat × List Nat)
  let content ← Task.input
  Task.write content
  for number in numbers do
    let _ ← Task.attempt (Attempt.write number content)
  return status

/-! ## Counting -/

/-- What is counted in a file. -/
structure Counts where
  lines : Nat := 0
  words : Nat := 0
  characters : Nat := 0
  octets : Nat := 0
  longest : Nat := 0

namespace Counts

/-- What there is in both. -/
def add (a b : Counts) : Counts :=
  ⟨a.lines + b.lines, a.words + b.words, a.characters + b.characters, a.octets + b.octets,
    max a.longest b.longest⟩

/-- Whether a character of text stands between words. -/
def isGap (c : Char) : Bool :=
  let n := c.toNat
  (9 ≤ n && n ≤ 13) || n = 32 || [0xA0, 0x1680, 0x2028, 0x2029, 0x202F, 0x205F, 0x2060, 0x3000].contains n ||
    (0x2000 ≤ n && n ≤ 0x200A)

/-- Whether a character makes a word. -/
def isVisible (c : Char) : Bool :=
  let n := c.toNat
  32 < n && n ≠ 127 && !(0x80 ≤ n && n < 0xA0)

/-- The number of words. -/
def wordsIn : (inWord : Bool) → List Char → Nat
  | _, [] => 0
  | inWord, c :: rest =>
    if isGap c then wordsIn false rest
    else if isVisible c then (if inWord then 0 else 1) + wordsIn true rest
    else wordsIn inWord rest

/-- The width of a line on a display, where tabs lead to the next column of eight. -/
def width (line : List Char) : Nat :=
  let (most, last) := line.foldl (fun (most, column) c =>
    if c = '\t' then (most, column + 8 - column % 8)
    else if c = '\r' ∨ c = Char.ofNat 12 then (max most column, 0)
    else if c = ' ' ∨ isVisible c then (most, column + 1)
    else (most, column)) ((0, 0) : Nat × Nat)
  max most last

/-- What there is in octets. -/
def ofOctets (s : Octets) : Counts :=
  let text := match Octets.toString? s with
    | some text => text.toList
    | none => s
  { lines := s.count '\n', words := wordsIn false text, characters := text.length,
    octets := s.length, longest := ((Text.split '\n' text).map width).foldl max 0 }

end Counts

/-- Counts what there is in files. -/
def wc : Program := do
  let a ← Options.taken { letters := "clmwL", valued := "F", words :=
    [("bytes", 'c'), ("chars", 'm'), ("lines", 'l'), ("words", 'w'), ("max-line-length", 'L'),
      ("files0-from", 'F')] }
  let given := "lwmcL".toList.filter a.has
  let kinds := if given.isEmpty then ['l', 'w', 'c'] else given
  let names := namesOr a.operands
  let p ← read
  -- as many columns as the sizes of all files together have digits
  let sizes ← names.mapM fun name => do
    let m ← get
    if name = ['-'] then
      match (p.streams.lookup 0).bind fun n => m.openFiles.lookup n with
      | some { target := .file l, .. } =>
        match m.files.get? l with
        | some (.file content) => return some (some content.length)
        | _ => return some none
      | some _ => return some none
      | none => return none
    else
      match ← Task.find name with
      | .ok (_, .file content) =>
        return some (some content.length)
      | .ok _ => return some none
      | .error _ => return none
  let width :=
    if names.length = 1 ∧ kinds.length = 1 ∨ sizes.head? = some none then 1
    else
      let total := (sizes.filterMap id).filterMap id |>.sum
      let least := if sizes.any (· == some none) then 7 else 1
      max least (Octets.ofNat total).length
  let show' (counts : Counts) (name : Octets) : Task Unit := do
    let numbers := kinds.map fun kind => padLeft width <| Octets.ofNat <|
      match kind with
      | 'l' => counts.lines
      | 'w' => counts.words
      | 'm' => counts.characters
      | 'c' => counts.octets
      | _ => counts.longest
    Task.write (Octets.unwords numbers ++ (if name.isEmpty then [] else ' ' :: name) ++ ['\n'])
  let (status, total) ← names.foldlM (fun (status, total) name => do
    let shown := if a.operands.isEmpty then [] else shownName name
    match ← Task.readOperand name with
    | .ok content =>
      let counts := Counts.ofOctets content
      show' counts shown
      return (status, total.add counts)
    | .error errno =>
      complainOf name errno
      if errno = .isDirectory then show' {} shown
      return (1, total)) ((0, {}) : Nat × Counts)
  if 1 < names.length then show' total (Octets.ofString "total")
  return status

end ComponentReference.Tool
