import ComponentReference.Machine.Regular.Reader
import ComponentReference.Machine.Tool.Reading

/-!
# Programs on columns and characters

They take parts out of lines, put lines together, and exchange characters for others.
-/

namespace ComponentReference.Tool

/-- Does something with the content of each of the named files; gives the status. -/
def forContents (names : List Octets) (act : Octets → Task Unit) : Task Nat :=
  Task.worst names fun name => do
    match ← Task.readOperand name with
    | .ok content =>
      act content
      return 0
    | .error errno =>
      complainOf name errno
      return 1

/-! ## Taking parts out -/

/-- A range of positions, counted from one; it may have no end. -/
structure PositionRange where
  first : Nat
  last? : Option Nat

namespace PositionRange

/-- Whether a position lies in a range. -/
def holds (r : PositionRange) (n : Nat) : Bool :=
  r.first ≤ n && r.last?.all (n ≤ ·)

/-- The range that a text writes, or what is wrong with it. -/
def ofText (ofFields : Bool) (s : Octets) : Except Octets PositionRange := do
  let fromOne := Octets.ofString (if ofFields then "fields are numbered from 1"
    else "byte/character positions are numbered from 1")
  let number (s : Octets) : Except Octets Nat :=
    match Octets.nat? s with
    | some n => .ok n
    | none => .error (Octets.ofString (if ofFields then "invalid field value "
        else "invalid byte/character position ") ++ quoted (s.dropWhile Char.isDigit))
  match s.span (· ≠ '-') with
  | (first, []) =>
    let n ← if first.isEmpty then throw fromOne else number first
    if n = 0 then throw fromOne
    return ⟨n, some n⟩
  | (first, _ :: last) =>
    if last.contains '-' then
      throw (Octets.ofString (if ofFields then "invalid field range" else "invalid byte or character range"))
    if first.isEmpty ∧ last.isEmpty then
      throw (Octets.ofString "invalid range with no endpoint: -")
    let low ← if first.isEmpty then pure 1 else number first
    if low = 0 then throw fromOne
    if last.isEmpty then return ⟨low, none⟩
    let high ← number last
    if high < low then throw (Octets.ofString "invalid decreasing range")
    return ⟨low, some high⟩

end PositionRange

/-- Takes positions or fields out of lines. -/
def cut : Program := do
  let a ← Options.taken { letters := "ns!z", valued := "bcdfo", words :=
    [("bytes", 'b'), ("characters", 'c'), ("delimiter", 'd'), ("fields", 'f'),
      ("only-delimited", 's'), ("complement", '!'), ("output-delimiter", 'o'),
      ("zero-terminated", 'z')] }
  let lists := a.options.filter fun (c, _) => c = 'b' ∨ c = 'c' ∨ c = 'f'
  let (kind, list) ← match lists with
    | [list] => pure list
    | [] => refuseOperands (Octets.ofString "you must specify a list of bytes, characters, or fields")
    | _ => refuseOperands (Octets.ofString "only one list may be specified")
  let ofFields := kind = 'f'
  let delimiter ← match a.value? 'd' with
    | none => pure '\t'
    | some s =>
      if !ofFields then
        refuseOperands (Octets.ofString "an input delimiter may be specified only when operating on fields")
      match s with
      | [] => pure (Char.ofNat 0)
      | [c] => pure c
      | _ => refuseOperands (Octets.ofString "the delimiter must be a single character")
  if a.has 's' ∧ !ofFields then
    refuseOperands (Octets.ofString
      "suppressing non-delimited lines makes sense\n\tonly when operating on fields")
  let parts := (list.map fun c => if c = ' ' ∨ c = '\t' then ',' else c)
  let ranges ← match (Text.split ',' parts).mapM (PositionRange.ofText ofFields) with
    | .ok ranges => pure ranges
    | .error message => refuseOperands message
  let isWanted (n : Nat) : Bool := ranges.any (·.holds n) != a.has '!'
  let ending := if a.has 'z' then Char.ofNat 0 else '\n'
  let fieldsOf (line : Octets) : Option Octets :=
    if !line.contains delimiter then (if a.has 's' then none else some line)
    else
      let kept := ((Text.split delimiter line).zipIdx 1).filter fun (_, n) => isWanted n
      some (Octets.join ((a.value? 'o').getD [delimiter]) (kept.map Prod.fst))
  let positionsOf (line : Octets) : Octets :=
    let kept := (line.zipIdx 1).filter fun (_, n) => isWanted n
    match a.value? 'o' with
    | none => kept.map Prod.fst
    | some between =>
      -- what is not next to each other is kept apart
      (kept.foldl (fun (shown, last?) (c, n) =>
        let gap := (last?.any fun last => last + 1 < n ∨
          ranges.any fun r => r.first = n ∧ !ranges.any fun r => r.holds last ∧ r.holds n)
        (shown ++ (if gap then between else []) ++ [c], some n))
        (([], none) : Octets × Option Nat)).1
  forContents (namesOr a.operands) fun content => do
    let parts := Text.split ending content
    let lines := if parts.getLast? = some [] then parts.dropLast else parts
    Task.write (lines.flatMap fun line =>
      if ofFields then ((fieldsOf line).map (· ++ [ending])).getD []
      else positionsOf line ++ [ending])

/-! ## Putting lines together -/

/-- The delimiters that a list writes, in turn. -/
def delimitersOf : Octets → List Octets
  | [] => []
  | '\\' :: c :: rest =>
    (match c with
      | 'n' => ['\n']
      | 't' => ['\t']
      | '0' => []
      | c => [c]) :: delimitersOf rest
  | c :: rest => [c] :: delimitersOf rest

/-- Words with delimiters in turn between them. -/
def joinedInTurn (delimiters : List Octets) (words : List Octets) : Octets :=
  ((words.zipIdx).map fun (word, i) =>
    (if i = 0 then [] else (delimiters[(i - 1) % max delimiters.length 1]?).getD []) ++ word).flatten

/-- Puts lines together, one of each file, or all of one file. -/
def paste : Program := do
  let a ← Options.taken { letters := "sz", valued := "d", words :=
    [("delimiters", 'd'), ("serial", 's'), ("zero-terminated", 'z')] }
  let delimiters := match a.value? 'd' with
    | none | some [] => [['\t']]
    | some s => delimitersOf s
  let delimiters := if a.value? 'd' = some [] then [[]] else delimiters
  let names := namesOr a.operands
  let dashes := (names.filter (· = ['-'])).length
  let input ← if 0 < dashes then Task.input else pure []
  let inputLines := (Octets.lines input).map Octets.chomp
  let contents ← names.mapM fun name => do
    if name = ['-'] then return some inputLines
    match ← Task.readFile name with
    | .ok content => return some ((Octets.lines content).map Octets.chomp)
    | .error errno =>
      complainOf name errno
      return none
  let status := if contents.any Option.isNone then 1 else 0
  if a.has 's' then
    for lines in contents do
      if let some lines := lines then Task.write (joinedInTurn delimiters lines ++ ['\n'])
    return status
  if status ≠ 0 then return status
  -- several dashes take the lines of the input in turn
  let turn (lines : List Octets) (i : Nat) : List Octets :=
    ((lines.zipIdx).filter fun (_, j) => j % dashes = i).map Prod.fst
  let (columns, _) := (names.zip contents).foldl (fun (columns, seen) (name, lines?) =>
    let lines := lines?.getD []
    if name = ['-'] then (columns ++ [turn lines seen], seen + 1) else (columns ++ [lines], seen))
    (([], 0) : List (List Octets) × Nat)
  let height := (columns.map List.length).foldl max 0
  Task.write ((List.range height).flatMap fun i =>
    joinedInTurn delimiters (columns.map fun lines => (lines[i]?).getD []) ++ ['\n'])
  return 0

/-! ## Breaking lines -/

/-- Where a line has come to that is being broken. -/
structure Folding where
  /-- What is complete, the latest first. -/
  done : List Octets := []
  /-- The line so far, the latest first. -/
  line : Octets := []
  column : Nat := 0

/-- The column behind a character. -/
def columnBehind (countsOctets : Bool) (column : Nat) (c : Char) : Nat :=
  if countsOctets then column + 1
  else if c = '\t' then column + 8 - column % 8
  else if c = '\r' then 0
  else if c = Char.ofNat 8 then column - 1
  else column + 1

/-- The folding with one more character of a line. -/
def Folding.add (width : Nat) (atBlanks countsOctets : Bool) (f : Folding) (c : Char) : Folding :=
  let column := columnBehind countsOctets f.column c
  if column ≤ width then { f with line := c :: f.line, column }
  else
    let word := f.line.takeWhile fun c => c ≠ ' ' ∧ c ≠ '\t'
    if atBlanks ∧ word.length < f.line.length then
      let line := word
      let column := line.reverse.foldl (columnBehind countsOctets) 0
      let broken : Folding :=
        { done := ('\n' :: f.line.drop word.length).reverse :: f.done, line, column }
      let column := columnBehind countsOctets broken.column c
      if column ≤ width then { broken with line := c :: broken.line, column }
      else
        { done := ('\n' :: broken.line).reverse :: broken.done, line := [c],
          column := columnBehind countsOctets 0 c }
    else if f.line.isEmpty then { f with line := [c], column }
    else
      { done := ('\n' :: f.line).reverse :: f.done, line := [c]
        column := columnBehind countsOctets 0 c }

/-- Breaks lines that are too long. -/
def fold : Program := do
  let a ← Options.taken { letters := "bs", valued := "w", words :=
    [("bytes", 'b'), ("spaces", 's'), ("width", 'w')] }
  let width ← match a.value? 'w' with
    | none => pure 80
    | some s =>
      match Octets.nat? s with
      | some 0 | none => Task.refuse 1 (Octets.ofString "invalid number of columns: " ++ quoted s)
      | some n => pure n
  forContents (namesOr a.operands) fun content =>
    Task.write ((Octets.lines content).flatMap fun line =>
      let text := Octets.chomp line
      let f := text.foldl (Folding.add width (a.has 's') (a.has 'b')) {}
      (f.line.reverse :: f.done).reverse.flatten ++ line.drop text.length)

/-- Puts spaces in place of tabs. -/
def expand : Program := do
  let a ← Options.taken { letters := "i", valued := "t", words := [("initial", 'i'), ("tabs", 't')] }
  let width := max 1 (((a.value? 't').bind Octets.nat?).getD 8)
  forContents (namesOr a.operands) fun content =>
    Task.write (((content.foldl (fun (shown, column) c =>
      if c = '\n' then (c :: shown, 0)
      else if c = '\t' then
        let n := width - column % width
        (List.replicate n ' ' ++ shown, column + n)
      else (c :: shown, column + 1)) (([], 0) : Octets × Nat)).1).reverse)

/-! ## Exchanging characters -/

/-- An element of a set of octets. -/
inductive SetPart where
  | some (members : Octets)
  /-- The members of a class, by its name. -/
  | named (name : String)
  /-- One octet so many times, or as often as is needed. -/
  | times (c : Char) (count : Nat)
deriving DecidableEq

/-- The octets of a class, in order. -/
def classMembers (name : String) : Octets :=
  let all := (List.range 128).map Char.ofNat
  all.filter ((Regular.property? name).getD fun _ => false)

/-- Octets in which escapes have been replaced, each with whether it was escaped. -/
def unescapedSet : (fuel : Nat) → Octets → List (Char × Bool)
  | 0, _ => []
  | _, [] => []
  | _, ['\\'] => [('\\', false)]
  | fuel + 1, '\\' :: c :: rest =>
    let letters := [('a', 7), ('b', 8), ('f', 12), ('n', 10), ('r', 13), ('t', 9), ('v', 11)]
    match letters.lookup c with
    | some n => (Char.ofNat n, true) :: unescapedSet fuel rest
    | none =>
      let digits := ((c :: rest).take 3).takeWhile fun d => '0' ≤ d ∧ d ≤ '7'
      if digits.isEmpty then (c, true) :: unescapedSet fuel rest
      else
        (Char.ofNat (Octets.valueOf 8 digits % 256), true) ::
          unescapedSet fuel ((c :: rest).drop digits.length)
  | fuel + 1, c :: rest => (c, false) :: unescapedSet fuel rest

/-- The parts of a set. -/
def setParts : (fuel : Nat) → List (Char × Bool) → Except Octets (List SetPart)
  | 0, _ => .ok []
  | _, [] => .ok []
  | fuel + 1, ('[', false) :: (sign, false) :: rest => do
    let plain := rest.map Prod.fst
    let single : Except Octets (List SetPart) := do
      return .some ['['] :: (← setParts fuel ((sign, false) :: rest))
    if sign = ':' ∨ sign = '=' then
      match Regular.delimited sign plain with
      | some (inner, after) =>
        let further := rest.drop (rest.length - after.length)
        if sign = ':' then
          let name := String.ofList inner
          if (Regular.property? name).isNone then
            throw (Octets.ofString "invalid character class " ++ quoted inner)
          return .named name :: (← setParts fuel further)
        else
          match inner with
          | [c] => return .some [c] :: (← setParts fuel further)
          | _ => throw (inner ++ Octets.ofString ": equivalence class operand must be a single character")
      | none => single
    else
      match rest with
      | ('*', false) :: rest' =>
        let (digits, after) := rest'.span fun (c, _) => c.isDigit
        match after with
        | (']', false) :: after =>
          let digits := digits.map Prod.fst
          let base := if digits.head? = some '0' then 8 else 10
          return .times sign (Octets.valueOf base digits) :: (← setParts fuel after)
        | _ => single
      | _ =>
        match rest with
        | ('-', false) :: (high, _) :: rest' =>
          -- the bracket stands for itself in front of a range
          return .some ['['] :: (← setParts fuel ((sign, false) :: ('-', false) :: (high, false) :: rest'))
        | _ => single
  | fuel + 1, (low, _) :: ('-', false) :: (high, _) :: rest => do
    if high < low then
      throw (Octets.ofString "range-endpoints of '" ++ [low, '-', high] ++
        Octets.ofString "' are in reverse collating sequence order")
    let members := (List.range (high.toNat + 1 - low.toNat)).map fun i => Char.ofNat (low.toNat + i)
    return .some members :: (← setParts fuel rest)
  | fuel + 1, (c, _) :: rest => do
    return .some [c] :: (← setParts fuel rest)

/-- The octets of a set, where a part that is repeated as needed fills it to a length. -/
def setMembers (length : Nat) (parts : List SetPart) : Octets :=
  let fixed := (parts.map fun part => match part with
    | .some members => members.length
    | .named name => (classMembers name).length
    | .times _ n => n).sum
  parts.flatMap fun part => match part with
    | .some members => members
    | .named name => classMembers name
    | .times c n => List.replicate (if n = 0 then length - fixed else n) c

/-- Octets in which runs of one of a set are single. -/
def squeezed (set : Octets) : (last? : Option Char) → Octets → Octets
  | _, [] => []
  | last?, c :: rest =>
    if last? = some c ∧ set.contains c then squeezed set last? rest
    else c :: squeezed set (some c) rest

/-- Exchanges, deletes or squeezes characters of the input. -/
def tr : Program := do
  let a ← Options.taken { letters := "cCdst", anywhere := false, words :=
    [("complement", 'c'), ("delete", 'd'), ("squeeze-repeats", 's'), ("truncate-set1", 't')] }
  let title := (← read).title
  let hint : Task Unit := Task.tell
    (Octets.ofString "Try '" ++ title ++ Octets.ofString " --help' for more information.\n")
  let deletes := a.has 'd'
  let squeezes := a.has 's'
  let least := if deletes = squeezes then 2 else 1
  let most := if deletes ∧ !squeezes then 1 else 2
  match a.operands with
  | [] => refuseMissing []
  | first :: others =>
    if a.operands.length < least then
      Task.complain (Octets.ofString "missing operand after " ++ quoted first)
      Task.tell (Octets.ofString (if squeezes
        then "Two strings must be given when both deleting and squeezing repeats.\n"
        else "Two strings must be given when translating.\n"))
      hint
      Task.finish 1
    if most < a.operands.length then
      Task.complain (Octets.ofString "extra operand " ++ quoted ((a.operands[most]?).getD []))
      if a.operands.length = 2 then
        Task.tell (Octets.ofString
          "Only one string may be given when deleting without squeezing repeats.\n")
      hint
      Task.finish 1
    let partsOf (s : Octets) : Task (List SetPart) := do
      if s.getLast? = some '\\' ∧ (s.reverse.takeWhile (· = '\\')).length % 2 = 1 then
        Task.complain (Octets.ofString
          "warning: an unescaped backslash at end of string is not portable")
      let marked := unescapedSet (s.length + 1) s
      match setParts (marked.length + 1) marked with
      | .ok parts => return parts
      | .error message => Task.refuse 1 message
    let firstParts ← partsOf first
    let secondParts? ← match others with
      | second :: _ => do pure (some (← partsOf second))
      | [] => pure none
    let listed := setMembers 0 firstParts
    let set : Octets := if a.has 'c' || a.has 'C'
      then ((List.range 256).map Char.ofNat).filter fun c => !listed.contains c
      else listed
    let second := setMembers set.length (secondParts?.getD [])
    let replaces := !deletes && secondParts?.isSome
    if replaces then
      if second.isEmpty ∧ !(a.has 't') then
        Task.refuse 1 (Octets.ofString "when not truncating set1, string2 must be non-empty")
      let isCase (part : SetPart) : Bool := part = .named "upper" ∨ part = .named "lower"
      if (secondParts?.getD []).any fun part => match part with
          | .named _ => !isCase part
          | _ => false then
        Task.refuse 1 (Octets.ofString ("when translating, the only character classes that may " ++
          "appear in\nstring2 are 'upper' and 'lower'"))
      if (secondParts?.getD []).any isCase ∧ !firstParts.any isCase then
        Task.refuse 1 (Octets.ofString "misaligned [:upper:] and/or [:lower:] construct")
    let content ← Task.input
    let exchanged := if deletes then content.filter fun c => !set.contains c
      else if replaces then
        let table := (set.zipIdx).reverse
        let exchange (c : Char) : Char :=
          match table.lookup c with
          | some i =>
            match second[i]? with
            | some d => d
            | none => if a.has 't' then c else second.getLast?.getD c
          | none => c
        content.map exchange
      else content
    let repeats := if deletes ∨ replaces then second else set
    Task.write (if squeezes then squeezed repeats none exchanged else exchanged)
    return 0

end ComponentReference.Tool
