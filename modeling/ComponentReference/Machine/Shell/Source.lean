import ComponentReference.Machine.Shell.Script

/-!
# The source of a script

What is left to read of a script, and what the reader keeps in mind: the line that it
is on, a token that it has looked ahead at, and the here-texts whose lines are still to
come.  A reader takes a prefix of the source and gives what that stands for, or finds
fault with its form.
-/

namespace ComponentReference.Shell

/-- What is wrong with the form of a script. -/
inductive SyntaxFault where
  /-- Something stands where it must not, perhaps instead of something else. -/
  | unexpected (token : String) (expected : Option String)
  | unterminatedQuotes
  | unclosedBraces
  | unclosedSum
  | unclosedBackticks
  | badLoopVariable
  | badFunctionName
  | badStream
deriving DecidableEq, Repr

/-- The wording of a fault. -/
def SyntaxFault.message : SyntaxFault → String
  | unexpected token none => token ++ " unexpected"
  | unexpected token (some expected) => token ++ " unexpected (expecting " ++ expected ++ ")"
  | unterminatedQuotes => "Unterminated quoted string"
  | unclosedBraces => "Missing '\x7d'"
  | unclosedSum => "Missing '))'"
  | unclosedBackticks => "EOF in backquote substitution"
  | badLoopVariable => "Bad for loop variable"
  | badFunctionName => "Bad function name"
  | badStream => "Bad fd number"

/-- What kind of redirection a sign stands for. -/
inductive RedirectionKind where
  | file (opening : Opening)
  | copy
  | hereText (withoutTabs : Bool)
deriving DecidableEq, Repr

/-- What the grammar is made of. -/
inductive Token where
  | newline
  | endOfFile
  | semicolon
  | ampersand
  | and
  | or
  | bar
  | opening
  | closing
  | doubleSemicolon
  | redirection (stream : Nat) (kind : RedirectionKind)
  | word (w : Word)
  | keyword (name : String)

namespace Token

/-- How a token is called in complaints. -/
def name : Token → String
  | newline => "newline"
  | endOfFile => "end of file"
  | semicolon => "\";\""
  | ampersand => "\"&\""
  | and => "\"&&\""
  | or => "\"||\""
  | bar => "\"|\""
  | opening => "\"(\""
  | closing => "\")\""
  | doubleSemicolon => "\";;\""
  | redirection _ _ => "redirection"
  | word _ => "word"
  | keyword name => "\"" ++ name ++ "\""

/-- The words that are keywords where a command begins. -/
def keywords : List String :=
  ["!", "case", "do", "done", "elif", "else", "esac", "fi", "for", "if", "in", "then", "until",
    "while", "\x7b", "\x7d"]

/-- The token as it is where keywords count. -/
def withKeywords : Token → Token
  | word w =>
    match w.plain? with
    | some s => if keywords.contains (String.ofList s) then keyword (String.ofList s) else word w
    | none => word w
  | t => t

/-- Whether a token ends a list of commands. -/
def endsList : Token → Bool
  | endOfFile | closing | doubleSemicolon => true
  | keyword name => ["do", "done", "elif", "else", "esac", "fi", "then", "\x7d"].contains name
  | _ => false

/-- Whether a token is the keyword. -/
def isKeyword (wanted : String) : Token → Bool
  | keyword name => name = wanted
  | _ => false

end Token

/-- A here-text whose lines are still to come. -/
structure PendingText where
  number : Nat
  delimiter : Octets
  /-- Whether the text is taken as it stands. -/
  quoted : Bool
  withoutTabs : Bool

/-- The use of an alias: its name, how many octets follow what it stands for, and whether
that ends in a space, by which the next word may be an alias too. -/
structure AliasUse where
  name : Octets
  behind : Nat
  endsInSpace : Bool

/-- The source of a script, as far as it is still to be read. -/
structure Source where
  rest : Octets
  line : Nat := 1
  /-- Whether the script is in a file, whose lines may be shown as they are read. -/
  isFile : Bool := false
  /-- The token that has been looked ahead at. -/
  pushed : Option Token := none
  pending : List PendingText := []
  /-- The here-texts by number, the latest first. -/
  texts : List (Nat × Word) := []
  /-- The names that stand for other texts where a command begins, with those texts. -/
  aliases : List (Octets × Octets) := []
  /-- The uses of aliases that may not be behind the octets read last. -/
  inUse : List AliasUse := []

/-- What reads a prefix of a source.  A fault comes with the line that it is found on. -/
abbrev Reader := StateT Source (Except (Nat × SyntaxFault))

namespace Reader

/-- Gives up. -/
def fail {α : Type} (fault : SyntaxFault) : Reader α := do
  throw ((← get).line, fault)

/-- Goes on at the given octets, which end the source. -/
def moveTo (rest : Octets) : Reader Unit :=
  modify fun s => { s with rest }

/-- Goes on at the given octets, on a later line. -/
def moveDown (rest : Octets) (lines : Nat := 1) : Reader Unit :=
  modify fun s => { s with rest, line := s.line + lines }

/-- Gives a token back, to be read again. -/
def pushBack (t : Token) : Reader Unit :=
  modify fun s => { s with pushed := some t }

/-- Whether an octet stands between words on a line. -/
def isSpace (c : Char) : Bool :=
  c = ' ' ∨ c = '\t'

/-- Whether an unquoted octet ends a word. -/
def endsWord (c : Char) : Bool :=
  isSpace c || [';', '&', '|', '<', '>', '(', ')', '\n'].contains c

/-- The octets behind joined lines, and how many lines that goes down. -/
def pastJoins : Octets → Octets × Nat
  | '\\' :: '\n' :: rest => let (rest, lines) := pastJoins rest; (rest, lines + 1)
  | rest => (rest, 0)

/-- Moves past joined lines. -/
def skipJoins : Reader Unit := do
  let (rest, lines) := pastJoins (← get).rest
  moveDown rest lines

/-- The octets behind spaces, joined lines and comments, and how many lines that goes
down. -/
def pastSpaces : (fuel : Nat) → Octets → Octets × Nat
  | 0, s => (s, 0)
  | fuel + 1, s =>
    match pastJoins s with
    | (c :: rest, lines) =>
      if isSpace c then let (rest, more) := pastSpaces fuel rest; (rest, lines + more)
      else if c = '#' then (rest.dropWhile (· ≠ '\n'), lines)
      else (c :: rest, lines)
    | ([], lines) => ([], lines)

/-- Moves to the next token. -/
def skipSpaces : Reader Unit := do
  let s ← get
  let (rest, lines) := pastSpaces (s.rest.length + 1) s.rest
  moveDown rest lines

/-- Takes the octet if it comes next. -/
def accept (c : Char) : Reader Bool := do
  skipJoins
  match (← get).rest with
  | x :: rest =>
    if x = c then
      moveTo rest
      return true
    return false
  | [] => return false

/-! ## Aliases -/

/-- Forgets the uses of aliases that lie behind; gives whether the word read last may be an
alias for that reason. -/
def leaveAliases : Reader Bool := do
  let s ← get
  let (left, inUse) := s.inUse.partition (s.rest.length < ·.behind)
  set { s with inUse }
  return left.any AliasUse.endsInSpace

/-- Goes on at what a word stands for, if it is an alias that is not being read already;
gives whether it is. -/
def enterAlias (w : Word) : Reader Bool := do
  let s ← get
  match w.plain? with
  | none => return false
  | some name =>
    if s.inUse.any (·.name = name) then return false
    match s.aliases.lookup name with
    | none => return false
    | some text =>
      let use : AliasUse := ⟨name, s.rest.length, text.getLast?.any isSpace⟩
      set { s with
        rest := text ++ s.rest
        inUse := if text.isEmpty then s.inUse else use :: s.inUse }
      return true

/-! ## Here-texts -/

/-- How many lines end in octets. -/
def lineCount (s : Octets) : Nat :=
  s.count '\n'

/-- Whether a line ends in a backslash that joins it to the next one. -/
def joinsNext (line : Octets) : Bool :=
  (line.reverse.takeWhile (· = '\\')).length % 2 = 1

/-- The lines up to one that is the delimiter, and the octets after that one.  A line
that is joined to the one before it does not count as the delimiter. -/
def hereLines (t : PendingText) : (fuel : Nat) → (joined : Bool) → Octets → Octets × Octets
  | 0, _, s => ([], s)
  | fuel + 1, joined, s =>
    if s.isEmpty then ([], [])
    else
      let s := if t.withoutTabs && !joined then s.dropWhile (· = '\t') else s
      let (line, rest) := s.span (· ≠ '\n')
      if line = t.delimiter && !joined then ([], rest.drop 1)
      else
        let (body, after) := hereLines t fuel (!t.quoted && joinsNext line) (rest.drop 1)
        (line ++ rest.take 1 ++ body, after)

/-- The octets up to an unescaped backtick, without the backslashes that take the
meaning from what follows them, and the octets after it. -/
def upToBacktick (quoted : Bool) : (fuel : Nat) → Octets → Option (Octets × Octets)
  | 0, _ | _, [] => none
  | fuel + 1, '\\' :: '\n' :: rest => upToBacktick quoted fuel rest
  | fuel + 1, '\\' :: c :: rest =>
    (upToBacktick quoted fuel rest).map fun (s, after) =>
      let escaped := c.toNat = 0x60 ∨ c = '\\' ∨ c = '$' ∨ (quoted ∧ c = '"')
      (if escaped then c :: s else '\\' :: c :: s, after)
  | fuel + 1, c :: rest =>
    if c.toNat = 0x60 then some ([], rest)
    else (upToBacktick quoted fuel rest).map fun (s, after) => (c :: s, after)

/-! ## Parameters -/

/-- The octets that name a parameter by themselves. -/
def isSpecial (c : Char) : Bool :=
  ['#', '$', '?', '@', '*', '!', '-'].contains c || c.isDigit

/-- The octets of a name at the front, the octets behind them, and how many lines that goes
down; lines may be joined in a name. -/
def nameAt : Octets → Octets × Octets × Nat
  | '\\' :: '\n' :: rest => let (name, after, lines) := nameAt rest; (name, after, lines + 1)
  | c :: rest =>
    if isNameOctet c then let (name, after, lines) := nameAt rest; (c :: name, after, lines)
    else ([], c :: rest, 0)
  | [] => ([], [], 0)

/-- The octets without the joins of lines among those at the front that may name a parameter
and its change, and how many lines that goes down. -/
def withoutJoins : Octets → Octets × Nat
  | '\\' :: '\n' :: rest => let (rest, lines) := withoutJoins rest; (rest, lines + 1)
  | c :: rest =>
    if isNameOctet c ∨ isSpecial c ∨ [':', '=', '+', '%'].contains c then
      let (rest, lines) := withoutJoins rest
      (c :: rest, lines)
    else (c :: rest, 0)
  | [] => ([], 0)

/-- The change that is written behind a parameter's name, and the octets after it.  What
is written at the end of a parameter without a change is its closing brace. -/
def changeAt : Octets → Change × Octets
  | '}' :: rest => (.plain, rest)
  | ':' :: '-' :: rest => (.fallback true, rest)
  | ':' :: '=' :: rest => (.assigned true, rest)
  | ':' :: '?' :: rest => (.demanded true, rest)
  | ':' :: '+' :: rest => (.replaced true, rest)
  | '-' :: rest => (.fallback false, rest)
  | '=' :: rest => (.assigned false, rest)
  | '?' :: rest => (.demanded false, rest)
  | '+' :: rest => (.replaced false, rest)
  | '#' :: '#' :: rest => (.withoutStart true, rest)
  | '#' :: rest => (.withoutStart false, rest)
  | '%' :: '%' :: rest => (.withoutEnd true, rest)
  | '%' :: rest => (.withoutEnd false, rest)
  | ':' :: _ :: rest => (.unknown, rest)
  | _ :: rest => (.unknown, rest)
  | [] => (.unknown, [])

/-- The name of a parameter in braces, its change, and the octets after those. -/
def parameterAt (s : Octets) : Octets × Change × Octets :=
  match s with
  | [] => ([], .unknown, [])
  | '#' :: rest =>
    match rest with
    | c :: after =>
      if isNameOctet c then
        let (name, after) := rest.span (if c.isDigit then Char.isDigit else isNameOctet)
        (name, if after.head? = some '}' then .count else .unknown, after)
      else if c ≠ '}' ∧ after.head? = some '}' then
        ([c], if isSpecial c then .count else .unknown, after)
      else (['#'], changeAt rest)
    | [] => (['#'], .unknown, [])
  | c :: rest =>
    if isNameOctet c then
      let (name, after) := s.span (if c.isDigit then Char.isDigit else isNameOctet)
      (name, changeAt after)
    else if isSpecial c then ([c], changeAt rest)
    else ([c], .unknown, if c = '}' then s else rest)

end Reader

end ComponentReference.Shell
