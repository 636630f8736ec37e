import ComponentReference.Machine.Number.Arithmetic
import ComponentReference.Machine.Rule.Pattern
import ComponentReference.Machine.Rule.Syntax

/-!
# The words of rules

The text of rules is cut into words one at a time, for what a word is hangs on what has
been read: a slash divides where something can be divided, a greater sign directs output
behind the word for printing, a name that is called is that of a function, and a brace ends
the act in front of it.
-/

namespace ComponentReference.Rule

/-- A word of a program. -/
inductive Word where
  | number (x : Double) (s : Octets)
  | text (s : Octets)
  | regular (s : Octets)
  | name (s : String)
  /-- The name of a function that the program defines. -/
  | function (s : String)
  | keyword (s : String)
  | builtin (s : String)
  /-- The word for a length, without a bracket behind it. -/
  | bareLength
  /-- The field with a number. -/
  | field (n : Nat)
  /-- A variable that is kept like a field. -/
  | setting (s : String)
  | sign (s : String)
  /-- A sign that says where output goes. -/
  | outlet (s : String)
  /-- The sign in front of the name of what is read. -/
  | inlet
  | lineEnd
  /-- The end of an act that a closing brace implies. -/
  | impliedEnd
  | textEnd
  /-- What begins no word. -/
  | stray (c : Char)
deriving DecidableEq

/-- The words that are no names. -/
def keywords : List String :=
  ["BEGIN", "END", "function", "if", "else", "while", "for", "do", "break", "continue",
    "next", "nextfile", "exit", "return", "delete", "in", "getline", "print", "printf"]

/-- The functions that are there from the beginning, and how many arguments they take. -/
def builtins : List (String × Nat × Nat) :=
  [("substr", 2, 3), ("index", 2, 2), ("split", 2, 3), ("sub", 2, 3), ("gsub", 2, 3),
    ("match", 2, 2), ("sprintf", 1, 255), ("sin", 1, 1), ("cos", 1, 1), ("atan2", 2, 2),
    ("exp", 1, 1), ("log", 1, 1), ("sqrt", 1, 1), ("int", 1, 1), ("rand", 0, 0), ("srand", 0, 1),
    ("tolower", 1, 1), ("toupper", 1, 1), ("system", 1, 1), ("close", 1, 1), ("fflush", 0, 1),
    ("length", 0, 1), ("systime", 0, 0), ("mktime", 1, 2), ("strftime", 0, 3)]

/-- The variables that are kept like fields. -/
def settings : List String :=
  ["NF", "RS", "FS", "CONVFMT", "OFMT"]

/-- What a name of the whole program is for. -/
inductive Kind where
  | single
  | array
  | function
deriving DecidableEq

/-- What has been passed to a function. -/
inductive Passed where
  | value
  /-- A variable, and what it was for at the time. -/
  | name (s : String) (isLocal : Bool) (kind? : Option Kind)

/-- A call of a function. -/
structure Called where
  line : Nat
  function : String
  arguments : List Passed

/-- Where acts stand. -/
inductive Scope where
  | start
  | finish
  | main
  | function
deriving DecidableEq

/-- How far reading has come. -/
structure Reading where
  /-- The text behind the word in front, and its line. -/
  rest : List Char
  line : Nat := 1
  /-- The word in front, and its line. -/
  front : Word := .lineEnd
  place : Nat := 1
  /-- How many brackets and braces are open. -/
  brackets : Nat := 0
  braces : Nat := 0
  /-- Whether a greater sign or a bar says where output goes. -/
  directs : Bool := false
  /-- Whether a less sign says what is read. -/
  reads : Bool := false
  /-- What the names of the program are for. -/
  kinds : List (String × Kind) := []
  /-- The parameters of the function that is read, and what they are for. -/
  locals : List (String × Option Kind) := []
  scope : Scope := .main
  /-- How many loops are open. -/
  loops : Nat := 0
  functions : List Function := []
  /-- What the parameters of functions are for. -/
  heads : List (String × List (Option Kind)) := []
  calls : List Called := []
  /-- What is wrong, the latest first. -/
  faults : List Octets := []
  /-- How many words have to be read before a form is called broken again. -/
  quiet : Nat := 0

/-- Why reading does not go on. -/
inductive Halt where
  /-- The word in front has no place. -/
  | broken
  /-- Nothing more is read. -/
  | final

/-- What reads words. -/
abbrev WordReader := ExceptT Halt (StateM Reading)

namespace WordReader

/-- Ends reading. -/
def stop {α : Type} : WordReader α :=
  throw .final

/-- Notes something that is wrong; after the fifth of them, reading ends. -/
def noteAt (line : Nat) (message : Octets) : WordReader Unit := do
  let shown := Octets.ofString "line " ++ Octets.ofNat line ++ Octets.ofString ": " ++ message
  modify fun s => { s with faults := shown :: s.faults }
  if 5 ≤ (← get).faults.length then stop

/-- Notes something that is wrong at the word in front. -/
def note (message : Octets) : WordReader Unit := do
  noteAt (← get).place message

/-- Passes over blanks, comments and ends of lines; the number of lines grows with them. -/
def overLines : (fuel : Nat) → List Char → Nat → List Char × Nat
  | 0, s, line => (s, line)
  | fuel + 1, s, line =>
    match s with
    | '\n' :: rest => overLines fuel rest (line + 1)
    | '#' :: rest => overLines fuel (rest.dropWhile (· ≠ '\n')) line
    | '\\' :: rest =>
      match rest.dropWhile fun c => c = ' ' ∨ c = '\t' with
      | '\n' :: rest => overLines fuel rest (line + 1)
      | _ => (s, line)
    | c :: rest => if c = ' ' ∨ c = '\t' ∨ c = '\r' then overLines fuel rest line else (s, line)
    | [] => ([], line)

/-- Passes over what is left of a line and over empty ones, in front of the next word. -/
def passLines : WordReader Unit :=
  modify fun s =>
    let (rest, line) := overLines (s.rest.length + 1) s.rest s.line
    { s with rest, line }

/-- Passes over a semicolon in the same line. -/
def passSemicolon : WordReader Unit :=
  modify fun s =>
    match s.rest.dropWhile fun c => c = ' ' ∨ c = '\t' with
    | ';' :: rest => { s with rest }
    | rest => { s with rest }

/-- A string behind its quote: what it stands for, and what is behind it. -/
def stringAt : (fuel : Nat) → List Char → Option (Octets × List Char)
  | 0, _ | _, [] => none
  | fuel + 1, c :: rest =>
    if c = '"' then some ([], rest)
    else if c = '\n' then none
    else if c = '\\' then
      match rest with
      | [] => none
      | d :: after =>
        let (shown, after) : Octets × List Char :=
          if d = '\n' then ([], after)
          else if d = '"' ∨ d = '\\' then ([d], after)
          else if Escape.isOctal d then
            let (x, after) := Escape.octal 3 rest
            ([x], after)
          else match Pattern.escapeLetter? d with
            | some x => ([x], after)
            | none => (['\\', d], after)
        (stringAt fuel after).map fun (s, behind) => (shown ++ s, behind)
    else (stringAt fuel rest).map fun (s, behind) => (c :: s, behind)

/-- An expression behind its slash, and what is behind it. -/
def regularAt : (fuel : Nat) → (inBracket : Bool) → List Char → Option (Octets × List Char)
  | 0, _, _ | _, _, [] => none
  | fuel + 1, inBracket, c :: rest =>
    if c = '/' ∧ !inBracket then some ([], rest)
    else if c = '\n' then none
    else if c = '\\' then
      match rest with
      | [] => none
      | d :: after =>
        let shown : Octets := if d = '/' then ['/'] else if d = '\n' then [] else ['\\', d]
        (regularAt fuel inBracket after).map fun (s, behind) => (shown ++ s, behind)
    else if c = '[' ∧ !inBracket then
      -- a closing bracket right behind the opening one is part of the class
      let (front, after) : Octets × List Char := match rest with
        | '^' :: ']' :: after => (['^', ']'], after)
        | '^' :: after => (['^'], after)
        | ']' :: after => ([']'], after)
        | after => ([], after)
      (regularAt fuel true after).map fun (s, behind) => (c :: front ++ s, behind)
    else if c = '[' ∧ rest.head? = some ':' then
      let (name, after) := (rest.drop 1).span Char.isAlpha
      match after with
      | ':' :: ']' :: after =>
        (regularAt fuel true after).map fun (s, behind) =>
          ('[' :: ':' :: name ++ ':' :: ']' :: s, behind)
      | _ => (regularAt fuel true rest).map fun (s, behind) => (c :: s, behind)
    else
      let inBracket := inBracket && c ≠ ']'
      (regularAt fuel inBracket rest).map fun (s, behind) => (c :: s, behind)

/-- Text in which slashes have lost their backslashes. -/
def unslashed : List Char → List Char
  | '\\' :: '/' :: rest => '/' :: unslashed rest
  | c :: rest => c :: unslashed rest
  | [] => []

/-- The number at the front of text, and what is behind it. -/
def numberAt (s : List Char) : Double × List Char :=
  let (digits, rest) := s.span Char.isDigit
  let (fraction, rest) := match rest with
    | '.' :: rest =>
      let (fraction, rest) := rest.span Char.isDigit
      (fraction, rest)
    | rest => ([], rest)
  let (exponent, rest) : Int × List Char := match rest with
    | e :: more =>
      if e = 'e' ∨ e = 'E' then
        let (sign, number) : Int × List Char := match more with
          | '-' :: number => (-1, number)
          | '+' :: number => (1, number)
          | number => (1, number)
        let (power, after) := number.span Char.isDigit
        if power.isEmpty then (0, rest) else (sign * Octets.valueOf 10 power, after)
      else (0, rest)
    | [] => (0, rest)
  (Double.ofDecimal false (Octets.valueOf 10 (digits ++ fraction)) (exponent - fraction.length), rest)

/-- Whether something can be divided behind a word. -/
def canDivide : Word → Bool
  | .number _ _ | .text _ | .regular _ | .name _ | .field _ | .setting _ => true
  | .sign s => [")", "]", "++", "--"].contains s
  | .keyword s => s = "getline"
  | _ => false

/-- Makes a word the one in front. -/
def put (w : Word) (rest : List Char) : WordReader Unit :=
  modify fun s => { s with front := w, rest, place := s.line }

/-- The signs of more than one character and those of one, behind which nothing hangs on
what has been read. -/
def plainSigns : List String :=
  ["++", "--", "+=", "-=", "*=", "%=", "^=", "==", "!=", "!~", "<=", "+", "-", "*", "%", "^", "!",
    "[", "]", "?", ":", "~", "$", "="]

/-- Reads a name, a keyword, or the name of a function. -/
def readName (letters rest : List Char) : WordReader Unit := do
  let name := String.ofList letters
  let s ← get
  if keywords.contains name then put (.keyword name) rest
  else if settings.contains name then put (.setting name) rest
  else if name = "length" then
    match rest.dropWhile fun c => c = ' ' ∨ c = '\t' with
    | '(' :: _ => put (.builtin name) rest
    | _ => put .bareLength rest
  else if (builtins.lookup name).isSome then put (.builtin name) rest
  else if (s.locals.lookup name).isSome then put (.name name) rest
  else
    match s.kinds.lookup name with
    | some .function => put (.function name) rest
    | some _ => put (.name name) rest
    | none =>
      if rest.head? = some '(' then
        modify fun s => { s with kinds := (name, .function) :: s.kinds }
        put (.function name) rest
      else put (.name name) rest

/-- Reads a number, for a field or for itself. -/
def readNumber (ofField : Bool) (text : List Char) : WordReader Unit := do
  let (x, rest) := numberAt text
  let written := text.take (text.length - rest.length)
  match x with
  | .finite _ 0 _ =>
    if (written.takeWhile fun c => c ≠ 'e' ∧ c ≠ 'E').any fun c => c.isDigit ∧ c ≠ '0' then
      noteAt (← get).line (written ++ Octets.ofString " : decimal underflow")
  | .infinite _ => noteAt (← get).line (written ++ Octets.ofString " : decimal overflow")
  | _ => pure ()
  if ofField then put (.field ((x.whole?.getD 0).toNat)) rest
  else put (.number x written) rest

/-- Reads the word that comes next. -/
def readWord : (fuel : Nat) → WordReader Unit
  | 0 => stop
  | fuel + 1 => do
    let s ← get
    let again (rest : List Char) : WordReader Unit := do
      modify fun s => { s with rest }
      readWord fuel
    match s.rest with
    | [] => put .textEnd []
    | c :: rest =>
      if c = ' ' ∨ c = '\t' ∨ c = '\r' then again rest
      else if c = '#' then again (rest.dropWhile (· ≠ '\n'))
      else if c = '\n' then
        put .lineEnd rest
        modify fun s => { s with line := s.line + 1 }
        passLines
      else if c = '\\' then
        match rest.dropWhile fun c => c = ' ' ∨ c = '\t' with
        | '\n' :: rest =>
          modify fun s => { s with line := s.line + 1 }
          again rest
        | rest => put (.stray '\\') rest
      else if c = '"' then
        match stringAt (rest.length + 1) rest with
        | some (text, rest) => put (.text text) rest
        | none =>
          noteAt s.line (Octets.ofString "runaway string constant " ++
            '"' :: (rest.takeWhile (· ≠ '\n')).take 10 ++ Octets.ofString " ...")
          stop
      else if c.isDigit ∨ (c = '.' ∧ rest.head?.any Char.isDigit) then readNumber false s.rest
      else if c.isAlpha ∨ c = '_' then
        let (letters, rest) := s.rest.span fun d => d.isAlphanum || d = '_'
        readName letters rest
      else if c = '$' then
        let behind := rest.dropWhile fun c => c = ' ' ∨ c = '\t'
        match behind with
        | d :: more =>
          if d.isDigit ∨ (d = '.' ∧ more.head?.any Char.isDigit) then readNumber true behind
          else put (.sign "$") behind
        | [] => put (.sign "$") behind
      else if c = '/' then
        if canDivide s.front then
          match rest with
          | '=' :: rest => put (.sign "/=") rest
          | rest => put (.sign "/") rest
        else
          match regularAt (rest.length + 1) false rest with
          | some (text, rest) =>
            match Pattern.ofText text with
            | .ok _ => put (.regular text) rest
            | .error fault =>
              noteAt s.line (Octets.ofString ("regular expression compile failed (" ++
                fault.message ++ ")\n") ++ text)
              stop
          | none =>
            noteAt s.line (Octets.ofString "runaway regular expression /" ++
              (unslashed (rest.takeWhile (· ≠ '\n'))).take 10 ++ Octets.ofString " ...")
            stop
      else if c = '(' then
        put (.sign "(") rest
        modify fun s => { s with brackets := s.brackets + 1 }
      else if c = ')' then
        if s.brackets = 0 then
          noteAt s.line (Octets.ofString "extra ')'")
          again rest
        else
          put (.sign ")") rest
          modify fun s => { s with brackets := s.brackets - 1 }
      else if c = '\x7b' then
        put (.sign "\x7b") rest
        modify fun s => { s with braces := s.braces + 1 }
        passLines
      else if c = '\x7d' then
        if s.braces = 0 then
          noteAt s.line (Octets.ofString "extra '\x7d'")
          modify fun s => { s with rest }
          passSemicolon
          readWord fuel
        else if [Word.lineEnd, .sign ";", .impliedEnd, .sign "\x7d"].contains s.front then
          put (.sign "\x7d") rest
          modify fun s => { s with braces := s.braces - 1 }
          if s.braces = 1 then passSemicolon
          passLines
        else put .impliedEnd s.rest
      else if c = ';' ∨ c = ',' then
        put (.sign (String.singleton c)) rest
        passLines
      else if c = '>' then
        match s.directs && s.brackets = 0, rest with
        | true, '>' :: rest =>
          put (.outlet ">>") rest
          modify fun s => { s with directs := false }
        | true, rest =>
          put (.outlet ">") rest
          modify fun s => { s with directs := false }
        | false, '=' :: rest => put (.sign ">=") rest
        | false, rest => put (.sign ">") rest
      else if c = '|' then
        match rest with
        | '|' :: rest =>
          put (.sign "||") rest
          passLines
        | rest =>
          if s.directs ∧ s.brackets = 0 then
            put (.outlet "|") rest
            modify fun s => { s with directs := false }
          else put (.sign "|") rest
      else if c = '&' ∧ rest.head? = some '&' then
        put (.sign "&&") (rest.drop 1)
        passLines
      else if c = '<' ∧ rest.head? ≠ some '=' ∧ s.reads then
        put .inlet rest
        modify fun s => { s with reads := false }
      else if c = '<' ∧ rest.head? ≠ some '=' then put (.sign "<") rest
      else
        match plainSigns.find? fun sign => sign.toList.isPrefixOf s.rest with
        | some sign => put (.sign sign) (s.rest.drop sign.length)
        | none => put (.stray c) rest

/-- Passes over the word in front. -/
def advance : WordReader Unit := do
  modify fun s => { s with quiet := s.quiet - 1 }
  readWord ((← get).rest.length + 2)

end WordReader

/-- What a word looks like in a complaint. -/
def Word.shown : Word → Octets
  | .sign s | .outlet s | .name s | .function s | .keyword s | .builtin s => s.toList
  | .text s | .number _ s => s
  | .regular s => '/' :: s ++ ['/']
  | .bareLength => Octets.ofString "length"
  | .field _ | .setting _ => ['$']
  | .inlet => ['<']
  | .lineEnd => Octets.ofString "end of line"
  | .impliedEnd => ['\x7d']
  | .textEnd => Octets.ofString "end of file"
  | .stray c => [c]

end ComponentReference.Rule
