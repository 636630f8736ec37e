import ComponentReference.Machine.Shell.Source

/-!
# Reading shell scripts

Readers call each other along the grammar; each call is one level deeper, and a script
needs no more levels than it has octets, but for a factor.  A script is read one
complete command at a time, for what it has run so far may decide how it goes on.
-/

namespace ComponentReference.Shell

namespace Reader

/-- Where pieces of a word stand. -/
inductive Place where
  | word
  /-- In the word that ends a here-text. -/
  | delimiter
  /-- Between the braces of a parameter, perhaps inside quotes, and there perhaps inside
  quotes again. -/
  | braces (quoted inner : Bool)
  | quotes
  | hereText
  /-- In an arithmetic expression, with brackets still open. -/
  | sum (depth : Nat)
deriving DecidableEq

namespace Place

/-- Whether text at the place is quoted. -/
def quoted : Place → Bool
  | word | delimiter | braces false _ => false
  | braces true _ | quotes | hereText | sum _ => true

/-- Whether an octet may mean something at the place. -/
def mayMean (place : Place) (c : Char) : Bool :=
  c.toNat = 0x60 || ['\\', '\'', '"', '$', '}', '\n', '(', ')'].contains c ||
    (!place.quoted && endsWord c)

/-- Whether a word at the place ends at an octet that ends words. -/
def isWord : Place → Bool
  | word | delimiter => true
  | _ => false

/-- What is missing if the source ends at the place. -/
def missing? : Place → Option SyntaxFault
  | word | delimiter | hereText => none
  | braces false _ => some .unclosedBraces
  | braces true _ | quotes => some .unterminatedQuotes
  | sum _ => some .unclosedSum

/-- Whether a backslash before the octet stands for itself. -/
def keepsBackslash (place : Place) (c : Char) : Bool :=
  place.quoted && c ≠ '\\' && c ≠ '$' && c.toNat ≠ 0x60 && (c ≠ '"' || place = hereText) &&
    (c ≠ '}' || !(place = braces true true ∨ place = braces true false))

/-- The place between the braces of a parameter that stands at the place. -/
def inside (place : Place) (change : Change) : Place :=
  match change with
  | .withoutStart _ | .withoutEnd _ => braces false false
  | _ => braces place.quoted false

end Place

/-- The script of the commands, of which there may be none. -/
def orNothing : Option Script → Script :=
  fun script? => script?.getD .nothing

/-- What kind of list of commands is read. -/
inductive ListKind where
  /-- One complete command, up to the end of a line. -/
  | line
  /-- At least one command, on any lines. -/
  | some
  /-- Commands on any lines. -/
  | any
deriving DecidableEq

/-- Complains that a token stands here. -/
def unexpected {α : Type} (t : Token) (expected : Option String := none) : Reader α :=
  fail (.unexpected t.name expected)

/-- Two words as one. -/
def joined (first rest : Word) : Word :=
  match first with
  | [.text s quoted] => Word.withText s quoted rest
  | _ => first ++ rest

/-- What follows the sign of a redirection from a file. -/
def fromSign : Reader RedirectionKind := do
  if ← accept '<' then return .hereText (← accept '-')
  if ← accept '&' then return .copy
  if ← accept '>' then return .file .readWrite
  return .file .read

/-- What follows the sign of a redirection to a file. -/
def toSign : Reader RedirectionKind := do
  if ← accept '>' then return .file .append
  if ← accept '|' then return .file .overwrite
  if ← accept '&' then return .copy
  return .file .write

/-- The commands that no function may be named like. -/
def specialNames : List String :=
  ["break", "continue", ".", "eval", "exec", "exit", "export", "readonly", "local", "return",
    "set", "shift", "times", "trap", ":", "unset"]

/-- The script that runs while others go on. -/
def inBackground : Script → Script
  | .pipe stages _ => .pipe stages true
  | .redirected line script rs => .background line script rs
  | script => .background 0 script []

mutual

/-- What follows a dollar sign. -/
def afterDollar (place : Place) : (fuel : Nat) → Reader Word
  | 0 => fail .unterminatedQuotes
  | fuel + 1 => do
    skipJoins
    match (← get).rest with
    | '(' :: rest =>
      moveTo rest
      if ← accept '(' then
        return [.sum (← pieces (.sum 0) fuel) place.quoted]
      let pending := (← get).pending
      modify fun s => { s with pending := [] }
      let script ← list .any none fuel
      match ← token false false false fuel with
      | .closing =>
        hereTexts fuel
        modify fun s => { s with pending }
        return [.output (orNothing script) place.quoted]
      | t => unexpected t (Token.closing).name
    | '{' :: rest =>
      let (rest, lines) := withoutJoins rest
      let (name, change, rest) := parameterAt rest
      moveDown rest lines
      let word ← if change = .plain then pure [] else pieces (place.inside change) fuel
      return [.parameter name change word place.quoted]
    | c :: rest =>
      if c.isAlpha ∨ c = '_' then
        let (name, rest, lines) := nameAt (c :: rest)
        moveDown rest lines
        return [.parameter name .plain [] place.quoted]
      else if isSpecial c then
        moveTo rest
        return [.parameter [c] .plain [] place.quoted]
      else return [.text ['$'] place.quoted]
    | [] => return [.text ['$'] place.quoted]

/-- The pieces of a word up to where it ends. -/
def pieces (place : Place) : (fuel : Nat) → Reader Word
  | 0 => fail .unterminatedQuotes
  | fuel + 1 => do
    let (plain, rest) := (← get).rest.span (!place.mayMean ·)
    if !plain.isEmpty then
      moveTo rest
      return Word.withText plain place.quoted (← pieces place fuel)
    match rest with
    | [] =>
      match place.missing? with
      | some fault => fail fault
      | none => return []
    | '\\' :: [] =>
      moveTo []
      return Word.withText ['\\'] true (← pieces place fuel)
    | '\\' :: '\n' :: rest =>
      moveDown rest
      pieces place fuel
    | '\\' :: c :: rest =>
      moveTo rest
      return Word.withText (if place.keepsBackslash c then ['\\', c] else [c]) true
        (← pieces place fuel)
    | '\'' :: rest =>
      if place.quoted then
        moveTo rest
        return Word.withText ['\''] true (← pieces place fuel)
      match rest.span (· ≠ '\'') with
      | (s, _ :: rest) =>
        moveDown rest (lineCount s)
        return Word.withText s true (← pieces place fuel)
      | (s, []) =>
        moveDown [] (lineCount s)
        fail .unterminatedQuotes
    | '"' :: rest =>
      moveTo rest
      match place with
      | .quotes => return []
      | .braces true inner => pieces (.braces true !inner) fuel
      | .hereText | .sum _ => return Word.withText ['"'] true (← pieces place fuel)
      | .word | .delimiter | .braces false _ =>
        match ← pieces .quotes fuel with
        -- all arguments in quotes are as many words, and may be none
        | [.parameter ['@'] .plain [] true] =>
          return .parameter ['@'] .plain [] true :: (← pieces place fuel)
        | inner => return Word.withText [] true (inner ++ (← pieces place fuel))
    | '$' :: rest =>
      moveTo rest
      if place = .delimiter then return Word.withText ['$'] false (← pieces place fuel)
      let first ← afterDollar place fuel
      return joined first (← pieces place fuel)
    | '}' :: rest =>
      match place with
      | .braces _ false =>
        moveTo rest
        return []
      | _ =>
        moveTo rest
        return Word.withText ['}'] place.quoted (← pieces place fuel)
    | '\n' :: rest =>
      if place.isWord then return []
      moveDown rest
      return Word.withText ['\n'] place.quoted (← pieces place fuel)
    | c :: rest =>
      if c.toNat = 0x60 then
        if place = .delimiter then
          moveTo rest
          return Word.withText [c] true (← pieces place fuel)
        match upToBacktick place.quoted (rest.length + 1) rest with
        | none =>
          moveDown [] (lineCount rest)
          fail .unclosedBackticks
        | some (inner, after) =>
          let outer ← get
          set { rest := inner, texts := outer.texts, aliases := outer.aliases : Source }
          let script ← list .any none fuel
          let lines := lineCount (rest.take (rest.length - after.length))
          let texts := (← get).texts
          set { outer with rest := after, line := outer.line + lines, texts }
          return .output (orNothing script) place.quoted :: (← pieces place fuel)
      match place with
      | .word | .delimiter => return []
      | .sum depth =>
        moveTo rest
        if c = '(' then return Word.withText [c] true (← pieces (.sum (depth + 1)) fuel)
        if depth = 0 then
          if ← accept ')' then return []
          return Word.withText [c] true (← pieces place fuel)
        return Word.withText [c] true (← pieces (.sum (depth - 1)) fuel)
      | _ =>
        moveTo rest
        return Word.withText [c] place.quoted (← pieces place fuel)

/-- Takes the lines of the here-texts that are still to come. -/
def hereTexts : (fuel : Nat) → Reader Unit
  | 0 => return
  | fuel + 1 => do
    let s ← get
    match s.pending with
    | [] => return
    | t :: pending =>
      let (body, after) := hereLines t (s.rest.length + 1) false s.rest
      let lines := lineCount (s.rest.take (s.rest.length - after.length))
      let word ←
        if t.quoted then pure [.text body true]
        else
          set { s with rest := body, pending := [], pushed := none, inUse := [] }
          pieces .hereText fuel
      let texts := (← get).texts
      set { s with
        rest := after, line := s.line + lines, pending, texts := (t.number, word) :: texts }
      hereTexts fuel

/-- The next token, which may be the delimiter of a here-text. -/
def scan (place : Place) : (fuel : Nat) → Reader Token
  | 0 => return .endOfFile
  | fuel + 1 => do
    skipSpaces
    match (← get).rest with
    | [] => return .endOfFile
    | c :: rest =>
      let either (next : Char) (double single : Token) : Reader Token := do
        moveTo rest
        return if ← accept next then double else single
      match c with
      | '\n' =>
        moveDown rest
        return .newline
      | '&' => either '&' .and .ampersand
      | '|' => either '|' .or .bar
      | ';' => either ';' .doubleSemicolon .semicolon
      | '(' =>
        moveTo rest
        return .opening
      | ')' =>
        moveTo rest
        return .closing
      | '<' =>
        moveTo rest
        return .redirection 0 (← fromSign)
      | '>' =>
        moveTo rest
        return .redirection 1 (← toSign)
      | c =>
        match c.isDigit, rest with
        | true, '<' :: rest =>
          moveTo rest
          return .redirection (c.toNat - '0'.toNat) (← fromSign)
        | true, '>' :: rest =>
          moveTo rest
          return .redirection (c.toNat - '0'.toNat) (← toSign)
        | _, _ => return .word (← pieces place fuel)

/-- The next token, be it one that has been looked ahead at.  A word may be an alias. -/
def token (pastBreaks keywords aliases : Bool) : (fuel : Nat) → Reader Token
  | 0 => return .endOfFile
  | fuel + 1 => do
    let (t, mayBeAlias) ← match (← get).pushed with
      | some t =>
        modify fun s => { s with pushed := none }
        pure (t, false)
      | none =>
        let t ← scan .word fuel
        let follows ← leaveAliases
        pure (t, aliases || follows)
    match t, pastBreaks with
    | .newline, true =>
      hereTexts fuel
      token pastBreaks keywords aliases fuel
    | t, _ =>
      match if keywords then t.withKeywords else t with
      | .word w =>
        if mayBeAlias then
          if ← enterAlias w then return ← token pastBreaks keywords true fuel
        return .word w
      | t => return t

/-- A redirection whose sign has been read. -/
def redirection (stream : Nat) (kind : RedirectionKind) : (fuel : Nat) → Reader Redirection
  | 0 => fail .unterminatedQuotes
  | fuel + 1 => do
    let t ← match kind with
      | .hereText _ => scan .delimiter fuel
      | _ => token false false false fuel
    match t, kind with
    | .word w, .file opening => return .file stream opening w
    | .word w, .copy => return .copy stream w
    | .word w, .hereText withoutTabs =>
      let (delimiter, quoted) := w.textAndQuotes
      modify fun s =>
        let number := s.texts.length + s.pending.length
        { s with pending := s.pending ++ [⟨number, delimiter, quoted, withoutTabs⟩] }
      let s ← get
      return .hereText stream (s.texts.length + s.pending.length - 1)
    | t, _ => unexpected t

/-- The redirections behind a command. -/
def redirections : (fuel : Nat) → Reader (List Redirection)
  | 0 => return []
  | fuel + 1 => do
    match ← token false true true fuel with
    | .redirection stream kind =>
      let r ← redirection stream kind fuel
      return r :: (← redirections fuel)
    | t =>
      pushBack t
      return []

/-- The settings, the words and the redirections of a call, or the name of a function
that is defined. -/
def callParts (settings : List (Octets × Word)) (words : List Word) (rs : List Redirection) :
    (fuel : Nat) → Reader Script
  | 0 => fail .unterminatedQuotes
  | fuel + 1 => do
    match ← token false false words.isEmpty fuel with
    | .word w =>
      match words, w.setting? with
      | [], some setting => callParts (settings ++ [setting]) words rs fuel
      | _, _ => callParts settings (words ++ [w]) rs fuel
    | .redirection stream kind =>
      let r ← redirection stream kind fuel
      callParts settings words (rs ++ [r]) fuel
    | .opening =>
      match settings, words, rs with
      | [], [w], [] =>
        match ← token false false false fuel with
        | .closing =>
          match w with
          | [.text name false] =>
            if !isName name ∨ specialNames.contains (String.ofList name) then fail .badFunctionName
            else
              let line := (← get).line
              return .define line name (← command true fuel)
          | _ => fail .badFunctionName
        | t => unexpected t (Token.closing).name
      | _, _, _ =>
        pushBack .opening
        return .call 0 settings words rs
    | t =>
      pushBack t
      return .call 0 settings words rs

/-- Patterns between bars, up to a closing bracket; the first token has been read. -/
def alternatives (first : Token) : (fuel : Nat) → Reader (List Word)
  | 0 => fail .unterminatedQuotes
  | fuel + 1 => do
    let w : Word := match first with
      | .word w => w
      | .keyword name => [.text name.toList false]
      | _ => []
    match ← token false false false fuel with
    | .bar => return w :: (← alternatives (← token false false false fuel) fuel)
    | .closing => return [w]
    | t => unexpected t (Token.closing).name

/-- The branches of a choice. -/
def branches : (fuel : Nat) → Reader (List (List Word × Script))
  | 0 => fail .unterminatedQuotes
  | fuel + 1 => do
    let t ← token true true false fuel
    if t.isKeyword "esac" then return []
    let t ← match t with
      | .opening => token false false false fuel
      | t => pure t
    let patterns ← alternatives t fuel
    let body ← list .any none fuel
    match ← token true true true fuel with
    | .doubleSemicolon => return (patterns, orNothing body) :: (← branches fuel)
    | t =>
      if t.isKeyword "esac" then return [(patterns, orNothing body)]
      unexpected t (Token.doubleSemicolon).name

/-- Takes the keyword that has to come next. -/
def expectKeyword (wanted : String) (pastBreaks : Bool) : (fuel : Nat) → Reader Unit
  | 0 => fail .unterminatedQuotes
  | fuel + 1 => do
    let t ← token pastBreaks true true fuel
    if t.isKeyword wanted then return
    unexpected t (Token.keyword wanted).name

/-- What follows the condition of a branch. -/
def afterCondition (condition : Script) : (fuel : Nat) → Reader Script
  | 0 => fail .unterminatedQuotes
  | fuel + 1 => do
    expectKeyword "then" false fuel
    let yes := orNothing (← list .some none fuel)
    let t ← token false true true fuel
    if t.isKeyword "elif" then
      let condition' := orNothing (← list .some none fuel)
      return .branch condition yes (← afterCondition condition' fuel)
    if t.isKeyword "else" then
      return .branch condition yes (orNothing (← list .some none fuel))
    pushBack t
    return .branch condition yes .nothing

/-- Words up to the end of the line or a semicolon. -/
def words : (fuel : Nat) → Reader (List Word)
  | 0 => return []
  | fuel + 1 => do
    match ← token false false false fuel with
    | .word w => return w :: (← words fuel)
    | .newline | .semicolon => return []
    | t => unexpected t

/-- A loop over words, whose keyword has been read. -/
def overWords (line : Nat) : (fuel : Nat) → Reader Script
  | 0 => fail .unterminatedQuotes
  | fuel + 1 => do
    let name ← match ← token false false false fuel with
      | .word w =>
        match w.plain? with
        | some name => if isName name then pure name else fail .badLoopVariable
        | none => fail .badLoopVariable
      | _ => fail .badLoopVariable
    let t ← token true true true fuel
    let ws ←
      if t.isKeyword "in" then words fuel
      else do
        match t with
        | .semicolon => pure ()
        | t => pushBack t
        pure [[.parameter ['@'] .plain [] true]]
    expectKeyword "do" true fuel
    let body := orNothing (← list .some none fuel)
    expectKeyword "done" false fuel
    return .each line name ws body

/-- A command.  Keywords count at its beginning. -/
def command (pastBreaks : Bool) : (fuel : Nat) → Reader Script
  | 0 => fail .unterminatedQuotes
  | fuel + 1 => do
    let line := (← get).line
    let t ← token pastBreaks true true fuel
    let script ← match t with
      | .opening =>
        let body := orNothing (← list .some none fuel)
        match ← token false true true fuel with
        | .closing => pure (Script.apart line body [])
        | t => unexpected t (Token.closing).name
      | .keyword "if" =>
        let condition := orNothing (← list .some none fuel)
        let script ← afterCondition condition fuel
        expectKeyword "fi" false fuel
        pure script
      | .keyword "while" | .keyword "until" =>
        let condition := orNothing (← list .some none fuel)
        expectKeyword "do" false fuel
        let body := orNothing (← list .some none fuel)
        expectKeyword "done" false fuel
        pure (.loop (t.isKeyword "while") condition body)
      | .keyword "for" => overWords line fuel
      | .keyword "case" =>
        match ← token false false false fuel with
        | .word w =>
          expectKeyword "in" true fuel
          pure (.choice line w (← branches fuel))
        | t => unexpected t "word"
      | .keyword "\x7b" =>
        let body := orNothing (← list .some none fuel)
        expectKeyword "\x7d" false fuel
        pure body
      | .word _ | .redirection _ _ =>
        let line := (← get).line
        pushBack t
        match ← callParts [] [] [] fuel with
        | .call _ settings words rs => return .call line settings words rs
        | script => return script
      | t => unexpected t
    match ← redirections fuel with
    | [] => return script
    | rs =>
      match script with
      | .apart line body [] => return .apart line body rs
      | script => return .redirected line script rs

/-- The commands between bars that follow a first one. -/
def stages : (fuel : Nat) → Reader (List Script)
  | 0 => fail .unterminatedQuotes
  | fuel + 1 => do
    let first ← command true fuel
    match ← token false false false fuel with
    | .bar => return first :: (← stages fuel)
    | t =>
      pushBack t
      return [first]

/-- Commands between bars. -/
def pipeline (pastBreaks : Bool) : (fuel : Nat) → Reader Script
  | 0 => fail .unterminatedQuotes
  | fuel + 1 => do
    let t ← token pastBreaks true true fuel
    let inverted := t.isKeyword "!"
    if !inverted then pushBack t
    let first ← command false fuel
    let script ← match ← token false false false fuel with
      | .bar => pure (Script.pipe (first :: (← stages fuel)) false)
      | t =>
        pushBack t
        pure first
    return if inverted then .inverted script else script

/-- What follows commands in a list that depends on how they ended. -/
def chain (left : Script) : (fuel : Nat) → Reader Script
  | 0 => fail .unterminatedQuotes
  | fuel + 1 => do
    match ← token false false false fuel with
    | .and => chain (.both left (← pipeline true fuel)) fuel
    | .or => chain (.either left (← pipeline true fuel)) fuel
    | t =>
      pushBack t
      return left

/-- Commands one after the other, behind those that have been read. -/
def list (kind : ListKind) (before : Option Script) : (fuel : Nat) → Reader (Option Script)
  | 0 => fail .unterminatedQuotes
  | fuel + 1 => do
    let t ← token (kind ≠ .line) true true fuel
    match t with
    | .newline =>
      hereTexts fuel
      return before
    | .endOfFile =>
      hereTexts fuel
      pushBack t
      return before
    | t =>
      pushBack t
      if kind ≠ .line ∧ (before.isSome ∨ kind = .any) ∧ t.endsList then return before
      let first ← chain (← pipeline false fuel) fuel
      let t ← token false false false fuel
      let next := match t with
        | .ampersand => inBackground first
        | _ => first
      let all := match before with
        | some before => .sequence before next
        | none => next
      match t with
      | .endOfFile =>
        hereTexts fuel
        pushBack t
        return some all
      | .newline =>
        pushBack t
        list kind (some all) fuel
      | .ampersand | .semicolon => list kind (some all) fuel
      | t =>
        if kind = .line then unexpected t
        pushBack t
        return some all

end

/-- The next complete command of a source, unless the source is at its end.  A command
may be empty. -/
def nextCommand? : Reader (Option Script) := do
  modify fun s => { s with pushed := none, pending := [] }
  let s ← get
  let fuel := 8 * (s.rest.length + 4) * ((s.aliases.map (·.2.length)).sum + 1)
  match ← list .line none fuel with
  | some script => return some script
  | none =>
    match (← get).pushed with
    | some .endOfFile => return none
    | _ => return some .nothing

end Reader

/-- The lines of a source of which something was read for a command, be that well formed or
not. -/
def Source.linesRead (source : Source) :
    Except (Nat × SyntaxFault) (Option Script × Source) → Octets
  | .ok (_, after) => source.rest.take (source.rest.length - after.rest.length)
  | .error (line, _) =>
    let lines := Text.split '\n' source.rest
    let all := (lines.take (line + 1 - source.line)).map (· ++ ['\n'])
    all.flatten.take source.rest.length

end ComponentReference.Shell
