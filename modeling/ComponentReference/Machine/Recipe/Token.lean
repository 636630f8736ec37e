import ComponentReference.Json.Reader
import ComponentReference.Machine.Text.Octets

/-!
# The words of a recipe

A recipe is a script whose blocks are told by how far their lines stand in.  Its text is
cut into words, line ends, and the places where a block begins or ends.
-/

namespace ComponentReference.Recipe

/-- A word of a recipe, or what holds its lines together. -/
inductive Token where
  | name (s : String)
  | number (n : Json)
  | text (s : String)
  /-- Text in which parts in braces stand for values. -/
  | template (s : List Char)
  | octets (s : Octets)
  | sign (s : String)
  | lineEnd
  | indent
  | dedent

/-- A word with its place: its line, how far it is from the line's front, and how wide it
is. -/
structure Placed where
  token : Token
  line : Nat
  column : Nat := 0
  width : Nat := 0

/-- Why a text is no recipe, and where. -/
structure Misreading where
  kind : String := "SyntaxError"
  message : String
  line : Nat
  column : Nat
  width : Nat := 1

/-- The signs, the longer ones first. -/
def signs : List String :=
  ["**=", "//=", ">>=", "<<=", "**", "//", ">>", "<<", "<=", ">=", "==", "!=", "->", "+=", "-=",
    "*=", "/=", "%=", "&=", "|=", "^=", ":=", "+", "-", "*", "/", "%", "@", "&", "|", "^", "~",
    "<", ">", "(", ")", "[", "]", "\x7b", "\x7d", ",", ":", ".", ";", "="]

/-- Whether a character may stand in a name. -/
def isNamePart (c : Char) : Bool :=
  c.isAlphanum || c = '_' || c.toNat ≥ 128

/-- What the letter of an escape stands for. -/
def escaped? (c : Char) : Option Char :=
  match c with
  | 'n' => some '\n'
  | 't' => some '\t'
  | 'r' => some '\r'
  | 'a' => some (Char.ofNat 7)
  | 'b' => some (Char.ofNat 8)
  | 'f' => some (Char.ofNat 12)
  | 'v' => some (Char.ofNat 11)
  | '\\' | '\'' | '"' => some c
  | _ => none

/-- Characters in which escapes have been replaced; some of them are for text alone. -/
def unescaped (isText : Bool) : (fuel : Nat) → List Char → List Char
  | 0, _ => []
  | _, [] => []
  | fuel + 1, '\\' :: c :: rest =>
    let digits (most : Nat) (base : Nat) : List Char := (rest.take most).takeWhile fun d =>
      ((Text.hexValue? d).map (decide <| · < base)).getD false
    let coded (n : Nat) : List Char :=
      Char.ofNat (Octets.valueOf 16 (digits n 16)) :: unescaped isText fuel (rest.drop n)
    if c = '\n' then unescaped isText fuel rest
    else if c = 'x' ∧ (digits 2 16).length = 2 then coded 2
    else if isText ∧ c = 'u' ∧ (digits 4 16).length = 4 then coded 4
    else if isText ∧ c = 'U' ∧ (digits 8 16).length = 8 then coded 8
    else if '0' ≤ c ∧ c ≤ '7' then
      let more := digits 2 8
      Char.ofNat (Octets.valueOf 8 (c :: more)) :: unescaped isText fuel (rest.drop more.length)
    else match escaped? c with
      | some d => d :: unescaped isText fuel rest
      | none => '\\' :: c :: unescaped isText fuel rest
  | fuel + 1, c :: rest => c :: unescaped isText fuel rest

/-- What is being cut into words. -/
structure Scan where
  rest : List Char
  line : Nat := 1
  /-- How much was left at the front of the line. -/
  atFront : Nat := 0
  /-- The brackets that are open, the innermost first; lines do not end in them. -/
  brackets : List Placed := []
  /-- How far the open blocks stand in, the innermost first. -/
  blocks : List Nat := []
  /-- The words so far, the latest first. -/
  tokens : List Placed := []

namespace Scan

/-- How far what is left is from the front of the line. -/
def column (s : Scan) : Nat :=
  s.atFront - s.rest.length

/-- A word in front, which leaves the rest. -/
def placed (s : Scan) (token : Token) (rest : List Char) : Placed :=
  ⟨token, s.line, s.column, s.rest.length - rest.length⟩

/-- What has been cut off with one more word, which leaves the rest. -/
def put (s : Scan) (token : Token) (rest : List Char) : Scan :=
  { s with rest, tokens := s.placed token rest :: s.tokens }

/-- What is left from the front of the next line. -/
def nextLine (s : Scan) (rest : List Char) : Scan :=
  { s with rest, line := s.line + 1, atFront := rest.length }

/-- Why the word in front cannot be. -/
def misread {α : Type} (s : Scan) (message : String) : Except Misreading α :=
  .error { message, line := s.line, column := s.column }

/-- What is up to the closing quote, and what is behind it. -/
def upTo (closing : List Char) : List Char → Option (List Char × List Char)
  | [] => none
  | '\\' :: c :: rest => (upTo closing rest).map fun (s, after) => ('\\' :: c :: s, after)
  | c :: rest =>
    if closing.isPrefixOf (c :: rest) then some ([], (c :: rest).drop closing.length)
    else if c = '\n' ∧ closing.length = 1 then none
    else (upTo closing rest).map fun (s, after) => (c :: s, after)

/-- A string, given the letters in front of its quote. -/
def string (s : Scan) (letters : List Char) (rest : List Char) : Except Misreading Scan :=
  match rest with
  | [] => s.misread "invalid syntax"
  | quote :: rest' =>
    let triple := List.replicate 3 quote
    let isTriple := triple.isPrefixOf rest
    let (closing, rest) := if isTriple then (triple, rest.drop 3) else ([quote], rest')
    match upTo closing rest with
    | none =>
      let lines := if isTriple then (rest.count '\n') - (if rest.getLast? = some '\n' then 1 else 0) else 0
      s.misread ((if isTriple then "unterminated triple-quoted string literal"
        else "unterminated string literal") ++ " (detected at line " ++ toString (s.line + lines) ++ ")")
    | some (content, after) =>
      let has (c : Char) : Bool := (letters.map Char.toLower).contains c
      let plain (isText : Bool) : List Char :=
        if has 'r' then content else unescaped isText (content.length + 1) content
      let token : Token :=
        if has 'b' then .octets (plain false)
        else if has 'f' then .template (plain true)
        else .text (String.ofList (plain true))
      let s' := s.put token after
      let lines := content.count '\n'
      let behind := (content.reverse.takeWhile (· ≠ '\n')).length + closing.length
      return if lines = 0 then s' else { s' with line := s.line + lines, atFront := after.length + behind }

/-- A number at the front. -/
def number (s : Scan) : Scan :=
  let front := s.rest.takeWhile fun c => isNamePart c || c = '.'
  let behind := s.rest.drop front.length
  let isHexadecimal := ['0', 'x'].isPrefixOf front
  let exponent := match front.getLast?, behind with
    | some e, sign :: digits =>
      if (e = 'e' ∨ e = 'E') ∧ (sign = '-' ∨ sign = '+') ∧ !isHexadecimal then
        sign :: digits.takeWhile Char.isDigit
      else []
    | _, _ => []
  let taken := front ++ exponent
  let rest := behind.drop exponent.length
  let plain := taken.filter (· ≠ '_')
  match plain with
  | '0' :: 'x' :: digits => s.put (.number (.int (Octets.valueOf 16 digits))) rest
  | '0' :: 'o' :: digits => s.put (.number (.int (Octets.valueOf 8 digits))) rest
  | plain =>
    -- a number has digits on both sides of its point in the notation of values
    let plain := if plain.getLast? = some '.' then plain ++ ['0'] else plain
    let plain := if plain.head? = some '.' then '0' :: plain else plain
    match Json.parse plain with
    | .ok j => s.put (.number j) rest
    | .error _ => s.put (.number .null) rest

/-- Enters or leaves blocks at the front of a line that stands in so far. -/
def stand (s : Scan) (column : Nat) : Except Misreading Scan :=
  let here := s.blocks.headD 0
  if column = here then return s
  else if here < column then
    return { s.put .indent s.rest with blocks := column :: s.blocks }
  else
    let left := s.blocks.takeWhile (column < ·)
    let s' := left.foldl (fun s _ => s.put .dedent s.rest) s
    let blocks := s.blocks.drop left.length
    if blocks.headD 0 = column then return { s' with blocks }
    else .error
      { kind := "IndentationError", message := "unindent does not match any outer indentation level"
        line := s.line, column := s.column + (s.rest.takeWhile (· ≠ '\n')).length }

/-- Opens or closes the bracket that a sign is. -/
def bracket (s : Scan) (sign : String) : Except Misreading (List Placed) :=
  let pairs := [(")", "("), ("]", "["), ("\x7d", "\x7b")]
  match pairs.lookup sign with
  | none =>
    return if pairs.any fun (_, opening) => opening = sign then s.placed (.sign sign) (s.rest.drop 1) :: s.brackets
      else s.brackets
  | some opening =>
    match s.brackets with
    | [] => s.misread ("unmatched '" ++ sign ++ "'")
    | ⟨.sign open', line, _, _⟩ :: outer =>
      if open' = opening then return outer
      else s.misread ("closing parenthesis '" ++ sign ++ "' does not match opening parenthesis '" ++
        open' ++ "'" ++ (if line = s.line then "" else " on line " ++ toString line))
    | _ :: outer => return outer

/-- Cuts what is left into words, at the front of a line or not; gives the brackets too
that are left open. -/
def words : (fuel : Nat) → (isFront : Bool) → Scan → Except Misreading (List Placed × List Placed)
  | 0, _, s => s.misread "invalid syntax"
  | fuel + 1, true, s =>
    let blanks := s.rest.takeWhile fun c => c = ' ' ∨ c = '\t'
    let rest := s.rest.drop blanks.length
    let s := { s with rest }
    match rest with
    | [] => words fuel false s
    | '\n' :: rest => words fuel true (s.nextLine rest)
    | '#' :: rest => words fuel true { s with rest := rest.dropWhile (· ≠ '\n') }
    | _ => do
      let column := blanks.foldl (fun n c => if c = '\t' then (n / 8 + 1) * 8 else n + 1) 0
      words fuel false (← s.stand column)
  | fuel + 1, false, s =>
    match s.rest with
    | [] =>
      let s := s.put .lineEnd []
      return ((s.blocks.foldl (fun s _ => s.put .dedent []) s).tokens.reverse, s.brackets)
    | '\n' :: rest =>
      if s.brackets.isEmpty then words fuel true ((s.put .lineEnd rest).nextLine rest)
      else words fuel false (s.nextLine rest)
    | '\\' :: '\n' :: rest => words fuel false (s.nextLine rest)
    | '\\' :: rest => { s with rest }.misread "unexpected character after line continuation character"
    | '#' :: rest => words fuel false { s with rest := rest.dropWhile (· ≠ '\n') }
    | c :: rest => do
      if c = ' ' ∨ c = '\t' ∨ c = '\r' ∨ c.toNat = 12 then words fuel false { s with rest }
      else if c = '"' ∨ c = '\'' then words fuel false (← s.string [] s.rest)
      else if c.isDigit ∨ (c = '.' ∧ rest.head?.any Char.isDigit) then words fuel false s.number
      else if isNamePart c then
        let (name, after) := s.rest.span isNamePart
        let isQuoted := match after with
          | q :: _ => (q = '"' || q = '\'') && name.all ("rRbBfFuU".toList.contains ·)
          | [] => false
        if isQuoted then words fuel false (← s.string name after)
        else words fuel false (s.put (.name (String.ofList name)) after)
      else
        match signs.find? fun sign => sign.toList.isPrefixOf s.rest with
        | none => s.misread "invalid syntax"
        | some sign =>
          let brackets ← s.bracket sign
          words fuel false { s.put (.sign sign) (s.rest.drop sign.length) with brackets }

end Scan

/-- The words of a recipe with the brackets that are left open, if all of it can be cut
into words. -/
def wordsOf (text : List Char) : Except Misreading (List Placed × List Placed) :=
  Scan.words (2 * text.length + 4) true { rest := text, atFront := text.length }

end ComponentReference.Recipe
