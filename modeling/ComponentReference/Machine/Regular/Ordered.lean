import ComponentReference.Machine.Regular.Basic

/-!
# Ordered expressions

An ordered expression says not only what it matches but also which way of matching is tried
first: the first alternative, and as many rounds of a repetition as there can be, or as few.
The first way that works out counts, be it the longest or not.
-/

namespace ComponentReference.Regular

/-- How many rounds of a repetition are tried first. -/
inductive Eagerness where
  | most
  | least
  /-- As many as there are, and no others. -/
  | mostOnly
deriving DecidableEq, Repr

/-- An ordered expression. -/
inductive Ordered where
  | empty
  /-- One of the listed characters, or one of all others. -/
  | one (manner : Manner) (inverted : Bool) (items : List ClassItem)
  /-- Any character, the end of a line only if that is said. -/
  | any (linesToo : Bool)
  | edge (manner : Manner) (e : Edge)
  | sequence (first second : Ordered)
  | choice (first second : Ordered)
  | times (eagerness : Eagerness) (body : Ordered) (least : Nat) (most? : Option Nat)
  | group (number : Nat) (body : Ordered)
  /-- What a group has matched before. -/
  | again (manner : Manner) (number : Nat)
  /-- What follows, or what is in front, is matched, or is not. -/
  | look (behind wanted : Bool) (body : Ordered)
  /-- The first way of matching the body, and no other. -/
  | once (body : Ordered)
  /-- What is found begins here. -/
  | begins
  /-- One of two expressions, depending on whether a group has matched something. -/
  | depending (number : Nat) (yes no : Ordered)

namespace Ordered

/-- How far matching has come: the text in front, backwards, the text behind, and what the
groups have matched, each with where that begins. -/
structure Stand where
  before : List Char := []
  rest : List Char
  position : Nat := 0
  groups : List (Nat × Nat × List Char) := []
  /-- Where what is found begins, if that is not where matching has begun. -/
  begin? : Option Nat := none

namespace Stand

/-- The place that matching has come to. -/
def place (st : Stand) : Place :=
  { before? := st.before.head?, position := st.position, rest := st.rest }

/-- The stand behind the next character. -/
def next (st : Stand) : Stand :=
  match st.rest with
  | c :: rest => { st with before := c :: st.before, rest, position := st.position + 1 }
  | [] => st

/-- The stand so many characters before. -/
def back (st : Stand) (n : Nat) : Stand :=
  { st with
    before := st.before.drop n
    rest := (st.before.take n).reverse ++ st.rest
    position := st.position - n }

/-- The stand at the end of a group. -/
def closed (st : Stand) (number start : Nat) : Stand :=
  let matched := (st.before.take (st.position - start)).reverse
  { st with groups := (number, start, matched) :: st.groups.filter (·.1 ≠ number) }

/-- The stand behind a text that comes next. -/
def behind? (m : Manner) (st : Stand) : List Char → Option Stand
  | [] => some st
  | c :: wanted =>
    match st.rest with
    | d :: _ => if m.same c d then st.next.behind? m wanted else none
    | [] => none

end Stand

/-- What is still to be matched. -/
inductive Step where
  | match (r : Ordered)
  /-- The end of a group that began at a position. -/
  | close (number start : Nat)
  /-- Further rounds, after so many of which the last began at a position. -/
  | round (eagerness : Eagerness) (body : Ordered) (least : Nat) (most? : Option Nat)
    (done start : Nat)
  /-- The position is this one, or is not. -/
  | at (position : Nat) (wanted : Bool)

/-- Where the first way ends of matching all steps. -/
def run : (fuel : Nat) → List Step → Stand → Option Stand
  | 0, _, _ => none
  | _ + 1, [], st => some st
  | fuel + 1, step :: rest, st =>
    match step with
    | .close number start => run fuel rest (st.closed number start)
    | .at position wanted => if (st.position == position) == wanted then run fuel rest st else none
    | .round eagerness body least most? done start =>
      let more (_ : Unit) : Option Stand :=
        run fuel (.match body :: .round eagerness body least most? (done + 1) st.position :: rest) st
      if done < least then more ()
      else if (0 < done && st.position == start) || most?.any (· ≤ done) then run fuel rest st
      else
        match eagerness with
        | .least =>
          match run fuel rest st with
          | some st => some st
          | none => more ()
        | _ =>
          match more () with
          | some st => some st
          | none => run fuel rest st
    | .match r =>
      match r with
      | empty => run fuel rest st
      | one m inverted items =>
        match st.rest with
        | c :: _ => if m.listed items c != inverted then run fuel rest st.next else none
        | [] => none
      | any linesToo =>
        match st.rest with
        | c :: _ => if linesToo || c ≠ '\n' then run fuel rest st.next else none
        | [] => none
      | edge m e => if holdsAt m st.place e then run fuel rest st else none
      | sequence first second => run fuel (.match first :: .match second :: rest) st
      | choice first second =>
        match run fuel (.match first :: rest) st with
        | some st => some st
        | none => run fuel (.match second :: rest) st
      | times .mostOnly body least most? =>
        match run fuel [.round .most body least most? 0 0] st with
        | some st => run fuel rest st
        | none => none
      | times eagerness body least most? =>
        run fuel (.round eagerness body least most? 0 0 :: rest) st
      | group number body => run fuel (.match body :: .close number st.position :: rest) st
      | again m number =>
        match st.groups.lookup number with
        | some (_, matched) =>
          match st.behind? m matched with
          | some st => run fuel rest st
          | none => none
        | none => none
      | look false wanted body =>
        match run fuel [.match body] st, wanted with
        | some there, true => run fuel rest { st with groups := there.groups }
        | none, false => run fuel rest st
        | _, _ => none
      | look true wanted body =>
        let found? := (List.range (st.position + 1)).findSome? fun n =>
          run fuel [.match body, .at st.position true] (st.back n)
        match found?, wanted with
        | some there, true => run fuel rest { st with groups := there.groups }
        | none, false => run fuel rest st
        | _, _ => none
      | once body =>
        match run fuel [.match body] st with
        | some st => run fuel rest st
        | none => none
      | begins => run fuel rest { st with begin? := some st.position }
      | depending number yes no =>
        run fuel (.match (if (st.groups.lookup number).isSome then yes else no) :: rest) st

/-- More steps than any match takes. -/
def manySteps : Nat := 10 ^ 12

/-- A part of a text that an ordered expression has matched. -/
structure Part where
  start : Nat
  finish : Nat
  /-- What the groups have matched, each with where that begins. -/
  groups : List (Nat × Nat × List Char)

/-- The first part behind a place that is matched; one that begins at the place itself has to
be longer than nothing if that is said. -/
def findFrom (r : Ordered) : (fuel : Nat) → (advancing : Bool) → Stand → Option (Part × Stand)
  | 0, _, _ => none
  | fuel + 1, advancing, st =>
    let steps : List Step := .match r :: if advancing then [.at st.position false] else []
    match run manySteps steps st with
    | some there => some (⟨there.begin?.getD st.position, there.position, there.groups⟩, there)
    | none => if st.rest.isEmpty then none else findFrom r fuel false st.next

/-- The first part of a text that is matched. -/
def find (r : Ordered) (text : List Char) : Option Part :=
  (findFrom r (text.length + 1) false { rest := text }).map Prod.fst

/-- The parts of a text that are matched, one behind the other; an empty part may follow
another one. -/
def findAll (r : Ordered) : (fuel : Nat) → (advancing : Bool) → Stand → List Part
  | 0, _, _ => []
  | fuel + 1, advancing, st =>
    match findFrom r (st.rest.length + 1) advancing st with
    | none => []
    | some (part, there) =>
      part :: findAll r fuel (part.start = part.finish) { there with groups := [], begin? := none }

/-- All parts of a text that are matched. -/
def all (r : Ordered) (text : List Char) : List Part :=
  findAll r (2 * text.length + 2) false { rest := text }

/-- The parts of a text that are matched and not empty, one behind the other. -/
def filled (r : Ordered) : (fuel : Nat) → Stand → List Part
  | 0, _ => []
  | fuel + 1, st =>
    match findFrom r (st.rest.length + 1) false st with
    | none => []
    | some (part, there) =>
      let there := { there with groups := [], begin? := none }
      if part.start = part.finish then
        if there.rest.isEmpty then [] else filled r fuel there.next
      else part :: filled r fuel there

/-- How many characters an expression matches, if that is always the same number. -/
def width? : Ordered → Option Nat
  | empty | edge _ _ | look _ _ _ | begins => some 0
  | one _ _ _ | any _ => some 1
  | sequence a b => do return (← width? a) + (← width? b)
  | choice a b => do
    let n ← width? a
    if (← width? b) = n then some n else none
  | times _ body least most? => if most? = some least then (width? body).map (least * ·) else none
  | group _ body | once body => width? body
  | again _ _ => none
  | depending _ a b => do
    let n ← width? a
    if (← width? b) = n then some n else none

/-- The alternatives that an expression consists of. -/
def alternatives : Ordered → List Ordered
  | choice a b => alternatives a ++ alternatives b
  | r => [r]

end Ordered

end ComponentReference.Regular
