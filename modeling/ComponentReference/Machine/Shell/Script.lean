import ComponentReference.Machine.Process

/-!
# Shell scripts

The shell language as data: words that are expanded, redirections, and commands that
are called, joined, repeated and chosen between.  A command keeps the number of the
line that it stands on, which complaints about it name.
-/

namespace ComponentReference.Shell

/-- What is taken instead of the value of a parameter.  A condition on the value may
count an empty value as none. -/
inductive Change where
  /-- The value itself. -/
  | plain
  /-- How many octets the value has. -/
  | count
  /-- Another word if there is no value. -/
  | fallback (emptyToo : Bool)
  /-- Another word if there is no value, which becomes the value. -/
  | assigned (emptyToo : Bool)
  /-- A complaint, and the end of the script, if there is no value. -/
  | demanded (emptyToo : Bool)
  /-- Another word if there is a value, and nothing otherwise. -/
  | replaced (emptyToo : Bool)
  /-- The value without the shortest or longest beginning that matches. -/
  | withoutStart (longest : Bool)
  /-- The value without the shortest or longest end that matches. -/
  | withoutEnd (longest : Bool)
  /-- A form that means nothing, which is complained about when it is expanded. -/
  | unknown
deriving DecidableEq, Repr

mutual

/-- A part of a word. -/
inductive Piece where
  | text (s : Octets) (quoted : Bool)
  | parameter (name : Octets) (change : Change) (word : List Piece) (quoted : Bool)
  /-- The output of a script. -/
  | output (script : Script) (quoted : Bool)
  /-- The value of an arithmetic expression. -/
  | sum (word : List Piece) (quoted : Bool)

/-- Where a stream comes from or goes to. -/
inductive Redirection where
  | file (stream : Nat) (opening : Opening) (word : List Piece)
  /-- The stream goes where the one that the word names goes, or is closed. -/
  | copy (stream : Nat) (word : List Piece)
  /-- The stream comes from the here-text with this number. -/
  | hereText (stream number : Nat)

/-- A script. -/
inductive Script where
  | nothing
  /-- A call, with variables set before it. -/
  | call (line : Nat) (settings : List (Octets × List Piece)) (words : List (List Piece))
    (redirections : List Redirection)
  | redirected (line : Nat) (script : Script) (redirections : List Redirection)
  /-- A script that runs apart and changes nothing here. -/
  | apart (line : Nat) (script : Script) (redirections : List Redirection)
  /-- A script that runs apart while this one goes on. -/
  | background (line : Nat) (script : Script) (redirections : List Redirection)
  | pipe (stages : List Script) (inBackground : Bool)
  | inverted (script : Script)
  | sequence (first second : Script)
  /-- The second runs only if the first succeeds. -/
  | both (first second : Script)
  /-- The second runs only if the first fails. -/
  | either (first second : Script)
  | branch (condition yes no : Script)
  /-- The body runs as long as the condition succeeds, or as long as it fails. -/
  | loop (whileSuccess : Bool) (condition body : Script)
  | each (line : Nat) (name : Octets) (words : List (List Piece)) (body : Script)
  | choice (line : Nat) (word : List Piece) (branches : List (List (List Piece) × Script))
  | define (line : Nat) (name : Octets) (body : Script)

end

instance : Inhabited Script := ⟨.nothing⟩

/-- A word is made of pieces. -/
abbrev Word := List Piece

namespace Word

/-- The octets of a word that is plain text without quotes. -/
def plain? : Word → Option Octets
  | [.text s false] => some s
  | _ => none

/-- The word with text in front, unless it is empty and unquoted.  Text of one kind
makes up one piece. -/
def withText (s : Octets) (quoted : Bool) : Word → Word
  | .text more quoted' :: pieces =>
    if quoted = quoted' then .text (s ++ more) quoted :: pieces
    else if s = [] ∧ !quoted then .text more quoted' :: pieces
    else .text s quoted :: .text more quoted' :: pieces
  | pieces => if s = [] ∧ !quoted then pieces else .text s quoted :: pieces

/-- The octets of the text in a word, and whether any of it is quoted. -/
def textAndQuotes (w : Word) : Octets × Bool :=
  (w.flatMap fun
    | .text s _ => s
    | _ => [],
  w.any fun
    | .text _ quoted => quoted
    | _ => false)

end Word

/-- Whether an octet may stand in a variable's name. -/
def isNameOctet (c : Char) : Bool :=
  c.isAlphanum || c = '_'

/-- Whether octets are a variable's name. -/
def isName (s : Octets) : Bool :=
  match s with
  | [] => false
  | c :: _ => !c.isDigit && s.all isNameOctet

/-- The variable that a word sets, and its value. -/
def Word.setting? : Word → Option (Octets × Word)
  | .text s false :: pieces =>
    match s.span (· ≠ '=') with
    | (name, _ :: value) =>
      if isName name then some (name, Word.withText value false pieces) else none
    | _ => none
  | _ => none

end ComponentReference.Shell
