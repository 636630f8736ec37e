import ComponentReference.Machine.Editor.Command
import ComponentReference.Machine.Tool.Searching

/-!
# Reading scripts of the stream editor

Commands stand in lines or behind semicolons.  What is wrong with a script is told with
the number of characters that have been read.
-/

namespace ComponentReference.Editor

/-- What is wrong with a script. -/
inductive ScriptFault where
  | unknownCommand (c : Char)
  | missingCommand
  | excessJunk
  | unterminated (command : Char)
  | unterminatedAddress
  | unexpectedClosing
  | unmatchedOpening
  | unknownOption
  | multipleOptions (option : Char)
  | multipleNumbers
  | zeroNumber
  | textExpected
  | unexpectedComma
  | commentAddress
  | labelAddress
  | oneAddress
  | multipleInversions
  | lineZero
  | unequalLengths
  | missingLabel
  | missingFile
  | unknownGroup (n : Nat)
  | badExpression (fault : Regular.FormFault)

/-- The wording of a fault. -/
def ScriptFault.message : ScriptFault → String
  | unknownCommand c => "unknown command: \x60" ++ String.singleton c ++ "'"
  | missingCommand => "missing command"
  | excessJunk => "extra characters after command"
  | unterminated c => "unterminated \x60" ++ String.singleton c ++ "' command"
  | unterminatedAddress => "unterminated address regex"
  | unexpectedClosing => "unexpected \x60\x7d'"
  | unmatchedOpening => "unmatched \x60\x7b'"
  | unknownOption => "unknown option to \x60s'"
  | multipleOptions c => "multiple \x60" ++ String.singleton c ++ "' options to \x60s' command"
  | multipleNumbers => "multiple number options to \x60s' command"
  | zeroNumber => "number option to \x60s' command may not be zero"
  | textExpected => "expected \\ after \x60a', \x60c' or \x60i'"
  | unexpectedComma => "unexpected \x60,'"
  | commentAddress => "comments don't accept any addresses"
  | labelAddress => ": doesn't want any addresses"
  | oneAddress => "command only uses one address"
  | multipleInversions => "multiple \x60!'s"
  | lineZero => "invalid usage of line address 0"
  | unequalLengths => "strings for \x60y' command are different lengths"
  | missingLabel => "\":\" lacks a label"
  | missingFile => "missing filename in r/R/w/W commands"
  | unknownGroup n => "invalid reference \\" ++ toString n ++ " on \x60s' command's RHS"
  | badExpression fault => fault.message

/-- What is left of a script, and how much has been read. -/
structure Cursor where
  rest : Octets
  count : Nat := 0
  style : Regular.Style := {}

/-- What reads a script.  A fault comes with the number of characters that had been read. -/
abbrev ScriptReader := StateT Cursor (Except (Nat × ScriptFault))

namespace ScriptReader

/-- Finds fault with the script. -/
def refuse {α : Type} (fault : ScriptFault) : ScriptReader α := do
  throw ((← get).count, fault)

/-- The next character. -/
def peek : ScriptReader (Option Char) :=
  return (← get).rest.head?

/-- Takes the next character. -/
def next : ScriptReader (Option Char) := do
  let s ← get
  match s.rest with
  | [] => return none
  | c :: rest =>
    set { s with rest, count := s.count + 1 }
    return some c

/-- Takes the characters in front for which a test holds. -/
def takeWhile (test : Char → Bool) : ScriptReader Octets := do
  let s ← get
  let (taken, rest) := s.rest.span test
  set { s with rest, count := s.count + taken.length }
  return taken

/-- Whether a character is a blank in a line. -/
def isBlank (c : Char) : Bool :=
  c = ' ' ∨ c = '\t'

/-- Whether a character is blank, be it the end of a line. -/
def isSpace (c : Char) : Bool :=
  c = ' ' ∨ ('\t' ≤ c ∧ c ≤ '\r')

/-- Passes over blanks. -/
def skipBlanks : ScriptReader Unit := do
  let _ ← takeWhile isBlank

/-- A number. -/
def number : ScriptReader Nat :=
  return Octets.valueOf 10 (← takeWhile Char.isDigit)

/-- The characters of a bracket in an expression behind its opening, up to the closing one or
the end of the line.  A class in the bracket is told by the character at its ends. -/
def bracket : (fuel : Nat) → (begun : Bool) → (inside? : Option Char) → ScriptReader Octets
  | 0, _, _ => return []
  | fuel + 1, begun, inside? => do
    match ← peek with
    | none | some '\n' => return []
    | some c =>
      let _ ← next
      match inside? with
      | some mark =>
        if c = mark ∧ (← peek) = some ']' then
          let _ ← next
          return c :: ']' :: (← bracket fuel true none)
        return c :: (← bracket fuel true inside?)
      | none =>
        if c = ']' ∧ begun then return [c]
        if c = '^' ∧ !begun then
          if (← peek) = some ']' then
            let _ ← next
            return c :: ']' :: (← bracket fuel true none)
          return c :: (← bracket fuel true none)
        match c, ← peek with
        | '[', some mark =>
          if ['.', ':', '='].contains mark then
            let _ ← next
            return c :: mark :: (← bracket fuel true (some mark))
          return c :: (← bracket fuel true none)
        | c, _ => return c :: (← bracket fuel true none)

/-- What stands up to a delimiter, which a backslash keeps from being the end; `none` if
the end is missing in the line.  In an expression, a letter for a line feed becomes one,
and a bracket may hold the delimiter. -/
def delimited (delimiter : Char) (inExpression : Bool) : (fuel : Nat) →
    ScriptReader (Option Octets)
  | 0 => return none
  | fuel + 1 => do
    let more (front : Octets) : ScriptReader (Option Octets) :=
      return (← delimited delimiter inExpression fuel).map (front ++ ·)
    match ← peek with
    | none | some '\n' => return none
    | some c =>
      let _ ← next
      if c = delimiter then return some []
      else if c = '\\' then
        match ← next with
        | none => return none
        | some d =>
          if d = delimiter then
            if !inExpression ∧ d = '&' then more ['\\', d] else more [d]
          else if d = 'n' ∧ inExpression then more ['\n']
          else if d = '\n' then (if inExpression then more ['\n'] else more ['\\', '\n'])
          else more ['\\', d]
      else if c = '[' ∧ inExpression then
        let inner ← bracket ((← get).rest.length + 1) false none
        more (c :: inner)
      else more [c]

/-- What is left to read, as a bound for reading. -/
def fuel : ScriptReader Nat :=
  return (← get).rest.length + 1

/-- What the letter of an escape stands for. -/
def escapeLetter? (c : Char) : Option Char :=
  match c with
  | 'a' => some (Char.ofNat 7)
  | 'f' => some (Char.ofNat 12)
  | 'n' => some '\n'
  | 'r' => some '\r'
  | 't' => some '\t'
  | 'v' => some (Char.ofNat 11)
  | _ => none

/-- The character that an escape with a code stands for, and what is behind it. -/
def codedEscape? (c : Char) (rest : List Char) : Option (Char × List Char) :=
  let (base, most) : Nat × Nat := match c with
    | 'x' => (16, 2)
    | 'd' => (10, 3)
    | 'o' => (8, 3)
    | _ => (0, 0)
  let digits := (rest.take most).takeWhile fun d =>
    ((Text.hexValue? d).map (decide <| · < base)).getD false
  if c = 'c' then
    match rest with
    | d :: rest => some (Char.ofNat (Nat.xor d.toUpper.toNat 64), rest)
    | [] => none
  else if digits.isEmpty then none
  else some (Char.ofNat (Octets.valueOf base digits % 256), rest.drop digits.length)

/-- The character that an escape stands for, and what is behind it, if it is one. -/
def escape? (c : Char) (rest : List Char) : Option (Char × List Char) :=
  match escapeLetter? c with
  | some d => some (d, rest)
  | none => codedEscape? c rest

/-- An expression in which escapes that stand for characters have been replaced. -/
def plainEscapes : (fuel : Nat) → List Char → List Char
  | 0, s => s
  | _, [] => []
  | fuel + 1, '\\' :: c :: rest =>
    match escape? c rest with
    | some (d, after) => d :: plainEscapes fuel after
    | none => '\\' :: c :: plainEscapes fuel rest
  | fuel + 1, c :: rest => c :: plainEscapes fuel rest

/-- The expression that a text writes, unless the text is empty. -/
def expression (text : Octets) (manner : Regular.Manner) : ScriptReader (Option Expression) := do
  if text.isEmpty then return none
  let characters := Tool.charactersOf text
  match Regular.ofText (← get).style (plainEscapes characters.length characters) with
  | .ok regular => return some { regular, manner }
  | .error fault => refuse (.badExpression fault)

/-! ## Addresses -/

/-- The letters behind an expression that is an address. -/
def addressManner : (fuel : Nat) → Regular.Manner → ScriptReader Regular.Manner
  | 0, manner => return manner
  | fuel + 1, manner => do
    match ← peek with
    | some 'I' =>
      let _ ← next
      addressManner fuel { manner with ignoresCase := true }
    | some 'M' =>
      let _ ← next
      addressManner fuel { manner with manyLines := true }
    | _ => return manner

/-- An address, if there is one. -/
def address? : ScriptReader (Option Address) := do
  let matching (delimiter : Char) : ScriptReader (Option Address) := do
    match ← delimited delimiter true (← fuel) with
    | none => refuse .unterminatedAddress
    | some text =>
      let manner ← addressManner 10 {}
      return some (.matching (← expression text manner))
  match ← peek with
  | some '$' =>
    let _ ← next
    return some .last
  | some '/' =>
    let _ ← next
    matching '/'
  | some '\\' =>
    let _ ← next
    match ← next with
    | some delimiter => matching delimiter
    | none => refuse .unterminatedAddress
  | some c =>
    if !c.isDigit then return none
    let n ← number
    skipBlanks
    if (← peek) = some '~' then
      let _ ← next
      skipBlanks
      return some (.step n (← number))
    return some (.line n)
  | none => return none

/-- The end of a range. -/
def rangeEnd : ScriptReader RangeEnd := do
  skipBlanks
  match ← peek with
  | some '+' =>
    let _ ← next
    return .count (← number)
  | some '~' =>
    let _ ← next
    return .multiple (← number)
  | _ =>
    match ← address? with
    | some a => return .at a
    | none =>
      -- the character that is no address has been looked at
      let _ ← next
      refuse .unexpectedComma

/-- The lines that a command is for. -/
def selector : ScriptReader Selector := do
  let first? ← address?
  skipBlanks
  let finish? ← match first?, ← peek with
    | some _, some ',' => do
      let _ ← next
      pure (some (← rangeEnd))
    | _, _ => pure none
  skipBlanks
  let inverted := (← peek) = some '!'
  if inverted then
    let _ ← next
    skipBlanks
    if (← peek) = some '!' then
      let _ ← next
      refuse .multipleInversions
  match first?, finish? with
  | some (.line 0), some (.at (.matching _)) => pure ()
  | some (.line 0), _ =>
    let _ ← next
    refuse .lineZero
  | _, _ => pure ()
  return { first?, finish?, inverted }

/-! ## Operands -/

/-- The end of a command. -/
def commandEnd : ScriptReader Unit := do
  skipBlanks
  match ← peek with
  | none | some '\x7d' | some '#' => return
  | some c =>
    let _ ← next
    if c ≠ '\n' ∧ c ≠ ';' then refuse .excessJunk

/-- The text behind a command, whose lines but the last end in a backslash. -/
def textLines : (fuel : Nat) → ScriptReader Octets
  | 0 => return []
  | fuel + 1 => do
    match ← next with
    | none | some '\n' => return ['\n']
    | some '\\' =>
      match ← next with
      | none => return ['\n']
      | some c =>
        match escape? c (← get).rest with
        | some (d, rest) =>
          modify fun s => { s with rest, count := s.count + (s.rest.length - rest.length) }
          return d :: (← textLines fuel)
        | none => return c :: (← textLines fuel)
    | some c => return c :: (← textLines fuel)

/-- The text that a command puts into the output. -/
def text : ScriptReader Octets := do
  skipBlanks
  match ← peek with
  | none => refuse .textExpected
  | some '\\' =>
    let _ ← next
    let before ← get
    skipBlanks
    match ← peek with
    | none => return []
    | some '\n' =>
      let _ ← next
      textLines (← fuel)
    | some _ =>
      -- blanks behind the backslash are part of the text
      set before
      textLines (← fuel)
  | some _ => textLines (← fuel)

/-- The name of a file up to the end of the line. -/
def fileName : ScriptReader Octets := do
  skipBlanks
  let name ← takeWhile (· ≠ '\n')
  let _ ← next
  if name.isEmpty then refuse .missingFile
  return name

/-- The name of a label. -/
def label : ScriptReader Octets := do
  skipBlanks
  takeWhile fun c => !isSpace c && c ≠ ';' && c ≠ '\x7d'

/-- The pieces of what replaces a part. -/
def pieces : (fuel : Nat) → List Char → List Piece
  | 0, _ => []
  | _, [] => []
  | fuel + 1, '\\' :: c :: rest =>
    let change? : Option CaseChange := match c with
      | 'U' => some .upper
      | 'L' => some .lower
      | 'u' => some .upperNext
      | 'l' => some .lowerNext
      | 'E' => some .none
      | _ => none
    match change?, escape? c rest with
    | some change, _ => .change change :: pieces fuel rest
    | none, some (d, after) => .char d :: pieces fuel after
    | none, none =>
      if c.isDigit then .group (c.toNat - '0'.toNat) :: pieces fuel rest
      else .char c :: pieces fuel rest
  | fuel + 1, '&' :: rest => .group 0 :: pieces fuel rest
  | fuel + 1, c :: rest => .char c :: pieces fuel rest

/-- The options behind a substitution. -/
structure SubstitutionOptions where
  number? : Option Nat := none
  replacesAll : Bool := false
  prints : Bool := false
  manner : Regular.Manner := {}
  file? : Option Octets := none

/-- Reads the options behind a substitution, and the end of the command. -/
def substitutionOptions : (fuel : Nat) → SubstitutionOptions → ScriptReader SubstitutionOptions
  | 0, o => return o
  | fuel + 1, o => do
    match ← peek with
    | none | some '\x7d' | some '#' => return o
    | some c =>
      if c.isDigit then
        if o.number?.isSome then
          let _ ← next
          refuse .multipleNumbers
        let n ← number
        if n = 0 then refuse .zeroNumber
        substitutionOptions fuel { o with number? := some n }
      else
        let _ ← next
        match c with
        | '\n' | ';' => return o
        | 'g' =>
          if o.replacesAll then refuse (.multipleOptions 'g')
          substitutionOptions fuel { o with replacesAll := true }
        | 'p' =>
          if o.prints then refuse (.multipleOptions 'p')
          substitutionOptions fuel { o with prints := true }
        | 'i' | 'I' => substitutionOptions fuel { o with manner := { o.manner with ignoresCase := true } }
        | 'm' | 'M' => substitutionOptions fuel { o with manner := { o.manner with manyLines := true } }
        | 'w' => return { o with file? := some (← fileName) }
        | c =>
          if isBlank c then substitutionOptions fuel o
          else refuse .unknownOption

/-- A substitution behind its letter. -/
def substitution : ScriptReader Substitution := do
  let some delimiter ← next | refuse (.unterminated 's')
  let some pattern ← delimited delimiter true (← fuel) | refuse (.unterminated 's')
  let some replacement ← delimited delimiter false (← fuel) | refuse (.unterminated 's')
  let o ← substitutionOptions (← fuel) {}
  let expression? ← expression pattern o.manner
  let characters := Tool.charactersOf replacement
  let pieces := pieces (characters.length + 1) characters
  let groups := (expression?.map fun e => Regular.groupCount e.regular).getD 9
  match pieces.find? fun piece => match piece with
      | .group n => groups < n
      | _ => false with
  | some (.group n) => refuse (.unknownGroup n)
  | _ => pure ()
  return {
    expression?
    pieces
    number := o.number?.getD 1
    replacesAll := o.replacesAll
    prints := o.prints
    file? := o.file? }

/-- The characters of one side of a table of replacements. -/
def replacements : List Char → List Char
  | [] => []
  | '\\' :: c :: rest => (escapeLetter? c).getD c :: replacements rest
  | c :: rest => c :: replacements rest

/-- A table of replacements behind its letter. -/
def replacementTable : ScriptReader (List (Char × Char)) := do
  let some delimiter ← next | refuse (.unterminated 'y')
  let some source ← delimited delimiter false (← fuel) | refuse (.unterminated 'y')
  let some target ← delimited delimiter false (← fuel) | refuse (.unterminated 'y')
  let source := replacements (Tool.charactersOf source)
  let target := replacements (Tool.charactersOf target)
  if source.length ≠ target.length then refuse .unequalLengths
  commandEnd
  return source.zip target

/-! ## Commands -/

/-- A command behind its selector; `none` for the end of a block. -/
def action (s : Selector) : ScriptReader (Option Action) := do
  let ended (a : Action) : ScriptReader (Option Action) := do
    commandEnd
    return some a
  let one (a : ScriptReader Action) : ScriptReader (Option Action) := do
    if s.finish?.isSome then refuse .oneAddress
    return some (← a)
  let optionalNumber : ScriptReader (Option Nat) := do
    skipBlanks
    match ← peek with
    | some c => if c.isDigit then return some (← number) else return none
    | none => return none
  match ← next with
  | none => refuse .missingCommand
  | some c =>
    match c with
    | '#' =>
      if s.first?.isSome then refuse .commentAddress
      let _ ← takeWhile (· ≠ '\n')
      let _ ← next
      return some .nothing
    | ':' =>
      if s.first?.isSome then refuse .labelAddress
      let name ← label
      if name.isEmpty then refuse .missingLabel
      return some (.label name)
    | '\x7b' => return some (.block 0)
    | '\x7d' => return none
    | 'a' => return some (.appendText (← text))
    | 'i' => return some (.insertText (← text))
    | 'c' => return some (.changeText (← text))
    | 'b' | 't' | 'T' =>
      let name ← label
      commandEnd
      return some (.jump (if c = 'b' then none else some (c = 't')) name)
    | 'd' => ended .delete
    | 'D' => ended .deleteFirst
    | '=' => ended .number
    | 'F' => ended .fileName
    | 'h' => ended (.hold false)
    | 'H' => ended (.hold true)
    | 'g' => ended (.get false)
    | 'G' => ended (.get true)
    | 'x' => ended .exchange
    | 'l' =>
      let width? ← optionalNumber
      ended (.list width?)
    | 'n' => ended .next
    | 'N' => ended .nextAppend
    | 'p' => ended .print
    | 'P' => ended .printFirst
    | 'q' | 'Q' => one do
      let status ← optionalNumber
      commandEnd
      return .quit (c = 'Q') (status.getD 0)
    | 'r' => return some (.readFile (← fileName))
    | 'R' => return some (.readLine (← fileName))
    | 'w' => return some (.writeFile (← fileName) false)
    | 'W' => return some (.writeFile (← fileName) true)
    | 's' => return some (.substitute (← substitution))
    | 'y' => return some (.replaceEach (← replacementTable))
    | 'z' => ended .clear
    | 'v' =>
      let _ ← label
      ended .nothing
    | c => refuse (.unknownCommand c)

/-- The commands up to the end of the script, or of the block at a depth. -/
def commands : (fuel depth : Nat) → ScriptReader (List Command)
  | 0, _ => return []
  | fuel + 1, depth => do
    let _ ← takeWhile fun c => isSpace c || c = ';'
    if (← peek).isNone then
      if depth = 0 then return [] else throw (0, .unmatchedOpening)
    let selector ← selector
    match ← action selector with
    | none =>
      if depth = 0 then refuse .unexpectedClosing
      if selector.first?.isSome then refuse .unexpectedClosing
      commandEnd
      return []
    | some (.block _) =>
      let inner ← commands fuel (depth + 1)
      let block : Command := { selector, action := .block (inner.length + 1) }
      return block :: inner ++ { action := .blockEnd } :: (← commands fuel depth)
    | some action => return { selector, action } :: (← commands fuel depth)

end ScriptReader

/-- The commands that a script writes. -/
def commandsOf (style : Regular.Style) (script : Octets) :
    Except (Nat × ScriptFault) (List Command) := do
  let (commands, _) ← (ScriptReader.commands (2 * script.length + 2) 0).run { rest := script, style }
  return commands

end ComponentReference.Editor
