import ComponentReference.Machine.Regular.Reader

/-!
# Commands of the stream editor

A script of the stream editor is a list of commands, each with the lines that it is for.
A block is the commands between an opening and its end; it is entered or passed over as a
whole.
-/

namespace ComponentReference.Editor

/-- An expression with the way in which it is matched. -/
structure Expression where
  regular : Regular
  manner : Regular.Manner := {}


/-- Which lines are meant. -/
inductive Address where
  | line (n : Nat)
  | last
  /-- Every so many lines from one on. -/
  | step (first step : Nat)
  /-- The lines that match, by the last expression if there is none. -/
  | matching (e? : Option Expression)

/-- Where a range of lines ends. -/
inductive RangeEnd where
  | at (a : Address)
  /-- After so many more lines. -/
  | count (n : Nat)
  /-- At the next line whose number is a multiple. -/
  | multiple (n : Nat)

/-- The lines that a command is for. -/
structure Selector where
  first? : Option Address := none
  finish? : Option RangeEnd := none
  inverted : Bool := false

/-- How letters are changed in what replaces a part. -/
inductive CaseChange where
  | upper
  | lower
  | upperNext
  | lowerNext
  | none
deriving DecidableEq, Repr

/-- A piece of what replaces a part. -/
inductive Piece where
  | char (c : Char)
  | group (n : Nat)
  | change (c : CaseChange)
deriving DecidableEq, Repr

/-- The replacement of parts that match. -/
structure Substitution where
  expression? : Option Expression
  pieces : List Piece
  /-- Which of the parts is the first to be replaced. -/
  number : Nat := 1
  /-- Whether those after it are replaced too. -/
  replacesAll : Bool := false
  prints : Bool := false
  file? : Option Octets := none

/-- What a command does. -/
inductive Action where
  /-- A block, with the number of commands in it. -/
  | block (size : Nat)
  | blockEnd
  | label (name : Octets)
  | appendText (text : Octets)
  | insertText (text : Octets)
  | changeText (text : Octets)
  /-- A jump to a label, or to the end; it may depend on whether a part has been replaced. -/
  | jump (ifReplaced? : Option Bool) (label : Octets)
  | delete
  | deleteFirst
  | number
  | fileName
  | hold (appends : Bool)
  | get (appends : Bool)
  | exchange
  | list (width? : Option Nat)
  | next
  | nextAppend
  | print
  | printFirst
  | quit (silently : Bool) (status : Nat)
  | readFile (name : Octets)
  | readLine (name : Octets)
  | writeFile (name : Octets) (first : Bool)
  | substitute (s : Substitution)
  | replaceEach (table : List (Char × Char))
  | clear
  | nothing

/-- A command. -/
structure Command where
  selector : Selector := {}
  action : Action

end ComponentReference.Editor
