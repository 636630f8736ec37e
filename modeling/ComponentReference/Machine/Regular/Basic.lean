import ComponentReference.Machine.Text.Letters
import ComponentReference.Machine.Text.Octets

/-!
# Regular expressions

A regular expression matches parts of a text.  `Regular.ends` lists, for a place in a
text, every place at which a part that begins there can end, the farthest first, each
with what the groups of the expression have matched on the way.  A search gives the first
part that matches and of those that begin there the longest.
-/

namespace ComponentReference

/-- What a bracket lists. -/
inductive ClassItem where
  | range (low high : Char)
  /-- The characters with a property, by the name of that. -/
  | named (name : String)
  /-- The characters without a property. -/
  | lacking (name : String)
deriving DecidableEq, Repr

/-- Where in a text an expression matches without taking up any of it. -/
inductive Edge where
  | lineStart
  | lineEnd
  | textStart
  | textEnd
  /-- At the end, or in front of a line feed that ends the text. -/
  | lastLineEnd
  | wordStart
  | wordEnd
  | wordEdge
  | noWordEdge
  | behindNoWord
  | beforeNoWord
deriving DecidableEq, Repr

/-- A regular expression. -/
inductive Regular where
  /-- What matches the empty text everywhere. -/
  | empty
  | char (c : Char)
  /-- Any character, apart from the end of a line if there are several. -/
  | any
  /-- One of the listed characters, or one of all others. -/
  | oneOf (inverted : Bool) (items : List ClassItem)
  | edge (e : Edge)
  | sequence (first second : Regular)
  | choice (first second : Regular)
  /-- So many times, and no more than there is a bound for. -/
  | times (body : Regular) (least : Nat) (most? : Option Nat)
  | group (number : Nat) (body : Regular)
  /-- What a group has matched before. -/
  | again (number : Nat)
deriving DecidableEq, Repr

namespace Regular

/-- The characters with a property, by its name. -/
def property? (name : String) : Option (Char → Bool) :=
  let graphic (c : Char) : Bool := Text.isShown c && !Text.isSpacing c
  match name with
  | "alpha" => some Text.isLetter
  | "digit" => some Char.isDigit
  | "alnum" => some fun c => Text.isLetter c || c.isDigit
  | "upper" => some Text.isCapital
  | "lower" => some Text.isSmall
  | "space" => some Text.isSpacing
  | "blank" => some fun c => c = '\t' || (Text.isSpacing c && Text.isShown c)
  | "punct" => some fun c => graphic c && !Text.isLetter c && !c.isDigit
  | "print" => some Text.isShown
  | "graph" => some graphic
  | "cntrl" => some fun c => c < ' ' || (0x7F ≤ c.toNat && c.toNat < 0xA0) || c.toNat = 0x2028 || c.toNat = 0x2029
  | "xdigit" => some fun c => (Text.hexValue? c).isSome
  | _ => none

/-- How an expression is matched. -/
structure Manner where
  ignoresCase : Bool := false
  /-- Whether the text is one of several lines. -/
  manyLines : Bool := false
  /-- Whether what is matched are octets, of which only those of ASCII have properties. -/
  ofOctets : Bool := false
  /-- Whether only characters of ASCII have properties. -/
  plainClasses : Bool := false
  /-- Whether what the groups have matched has an effect on what follows. -/
  remembers : Bool := false

namespace Manner

/-- Whether two characters count as the same. -/
def same (m : Manner) (a b : Char) : Bool :=
  a = b || (m.ignoresCase && if m.ofOctets then a.toLower = b.toLower else Text.capital a = Text.capital b)

/-- Whether a character has a property. -/
def has (m : Manner) (name : String) (c : Char) : Bool :=
  if (m.ofOctets || m.plainClasses) && 0x80 ≤ c.toNat then false
  else if name = "word" then Text.isLetter c || c.isDigit || c = '_'
  else ((property? name).map (· c)).getD false

/-- Whether a character is part of words. -/
def isWordChar (m : Manner) (c : Char) : Bool :=
  m.has "word" c

/-- Whether an item of a bracket lists a character. -/
def lists (m : Manner) (c : Char) : ClassItem → Bool
  | .range low high => low ≤ c && c ≤ high
  | .named name => m.has name c
  | .lacking name => !m.has name c

/-- Whether items of a bracket list a character. -/
def listed (m : Manner) (items : List ClassItem) (c : Char) : Bool :=
  let variants := if m.ignoresCase then
      (if m.ofOctets then [c.toLower, c.toUpper] else [c, Text.small c, Text.capital c])
    else [c]
  items.any fun item => variants.any (m.lists · item)

end Manner

/-- A place in a text: the character in front of it, how many there are, the text behind
it, and what the groups have matched so far. -/
structure Place where
  before? : Option Char := none
  position : Nat := 0
  rest : List Char
  groups : List (Nat × List Char) := []

/-- The place behind the next character. -/
def Place.next (p : Place) : Place :=
  match p.rest with
  | c :: rest => { p with before? := some c, position := p.position + 1, rest }
  | [] => p

/-- Whether a place is at an edge. -/
def holdsAt (m : Manner) (p : Place) : Edge → Bool
  | .lineStart => p.before?.isNone || (m.manyLines && p.before? = some '\n')
  | .lineEnd => p.rest.isEmpty || (m.manyLines && p.rest.head? = some '\n')
  | .textStart => p.before?.isNone
  | .textEnd => p.rest.isEmpty
  | .lastLineEnd => p.rest.isEmpty || p.rest = ['\n']
  | .wordStart => !behindWord && beforeWord
  | .wordEnd => behindWord && !beforeWord
  | .wordEdge => behindWord != beforeWord
  | .noWordEdge => behindWord == beforeWord
  | .behindNoWord => !behindWord
  | .beforeNoWord => !beforeWord
where
  /-- Whether a word ends or goes on here. -/
  behindWord : Bool := p.before?.any m.isWordChar
  /-- Whether a word begins or goes on here. -/
  beforeWord : Bool := p.rest.head?.any m.isWordChar

/-- Whether nothing tells two places apart that matters behind them. -/
def Manner.isLike (m : Manner) (p q : Place) : Bool :=
  p.position = q.position && (!m.remembers || p.groups = q.groups)

/-- Places in order of their distance, the farthest first, of several that are alike only the
first. -/
def farthestFirst (m : Manner) (places : List Place) : List Place :=
  let sorted := places.mergeSort fun p q => q.position ≤ p.position
  if m.remembers then
    sorted.foldl (fun kept p => if kept.any (m.isLike p) then kept else kept ++ [p]) []
  else sorted.foldr (fun p kept => p :: kept.dropWhile (·.position = p.position)) []

/-- The place behind a text that stands there. -/
def Place.behind? (m : Manner) (p : Place) : List Char → Option Place
  | [] => some p
  | c :: wanted =>
    match p.rest with
    | d :: _ => if m.same c d then p.next.behind? m wanted else none
    | [] => none

/-- The places that any number of steps lead to from those of the frontier, with those
that have been reached before. -/
def closure (m : Manner) (step : Place → List Place) : (fuel : Nat) → (reached frontier : List Place) →
    List Place
  | 0, reached, _ | _, reached, [] => reached
  | fuel + 1, reached, p :: frontier =>
    let new := (step p).filter fun q => !reached.any (m.isLike q)
    closure m step fuel (new ++ reached) (new ++ frontier)

/-- The places that at most so many further steps lead to from places. -/
def within (m : Manner) (step : Place → List Place) : (steps : Nat) → List Place → List Place
  | 0, places => places
  | steps + 1, places =>
    let next := farthestFirst m (places.flatMap step)
    if next.isEmpty then places else farthestFirst m (next ++ within m step steps next ++ places)

/-- The places that exactly so many steps lead to from places. -/
def exactly (m : Manner) (step : Place → List Place) : (steps : Nat) → List Place → List Place
  | 0, places => places
  | steps + 1, places => exactly m step steps (farthestFirst m (places.flatMap step))

/-- How many places there are behind a place to go on from, at most. -/
def Manner.roundsFrom (m : Manner) (p : Place) (first : List Place) : Nat :=
  if m.remembers then (p.rest.length + first.length + 1) * 1000 else p.rest.length + first.length + 1

/-- The places that steps lead to from a place, of which there are to be at least and at
most so many. -/
def repeated (m : Manner) (step : Place → List Place) (least : Nat) (most? : Option Nat) (p : Place) :
    List Place :=
  let first := exactly m step least [p]
  farthestFirst m <| match most? with
    | some most => within m step (most - least) first
    | none => closure m step (m.roundsFrom p first) first first

/-- The places at which a part can end that begins at a place, the farthest first. -/
def ends (m : Manner) : Regular → Place → List Place
  | empty, p => [p]
  | char c, p =>
    match p.rest with
    | d :: _ => if m.same c d then [p.next] else []
    | [] => []
  | any, p =>
    match p.rest with
    | _ :: _ => [p.next]
    | [] => []
  | oneOf inverted items, p =>
    match p.rest with
    | d :: _ =>
      if m.listed items d != inverted then [p.next] else []
    | [] => []
  | edge e, p => if holdsAt m p e then [p] else []
  | sequence first second, p => farthestFirst m ((ends m first p).flatMap (ends m second))
  | choice first second, p => farthestFirst m (ends m first p ++ ends m second p)
  | times body least most?, p =>
    repeated m (ends m body) least most? p
  | group number body, p =>
    (ends m body p).map fun q =>
      let matched := p.rest.take (q.position - p.position)
      { q with groups := (number, matched) :: q.groups.filter (·.1 ≠ number) }
  | again number, p =>
    match p.groups.lookup number with
    | some matched => (p.behind? m matched).toList
    | none => []

/-- Whether an expression refers to what its groups have matched. -/
def refers : Regular → Bool
  | again _ => true
  | sequence a b | choice a b => refers a || refers b
  | times body _ _ => refers body
  | group _ body => refers body
  | _ => false

/-- The manner in which an expression is matched that is given. -/
def fitted (m : Manner) (r : Regular) : Manner :=
  { m with remembers := refers r }

/-- A part of a text that an expression has matched. -/
structure Found where
  start : Nat
  finish : Nat
  groups : List (Nat × List Char)

/-- The first part of the rest of a text that an expression matches. -/
def findFrom (m : Manner) (r : Regular) : (fuel : Nat) → Place → Option Found
  | 0, _ => none
  | fuel + 1, p =>
    match ends m r p with
    | q :: _ => some ⟨p.position, q.position, q.groups⟩
    | [] => if p.rest.isEmpty then none else findFrom m r fuel p.next

/-- The first part of a text that an expression matches. -/
def find (m : Manner) (r : Regular) (text : List Char) : Option Found :=
  findFrom (fitted m r) r (text.length + 1) { rest := text }

/-- Whether an expression matches a part of a text. -/
def occursIn (m : Manner) (r : Regular) (text : List Char) : Bool :=
  (find m r text).isSome

/-- The parts of a text that an expression matches, one behind the other.  An empty part
right behind another one does not count. -/
def findAll (m : Manner) (r : Regular) : (fuel : Nat) → (last? : Option Nat) → Place →
    List Found
  | 0, _, _ => []
  | fuel + 1, last?, p =>
    match findFrom m r (p.rest.length + 1) p with
    | none => []
    | some f =>
      let place (n : Nat) : Place := (List.range (n - p.position)).foldl (fun p _ => p.next) p
      if f.start = f.finish then
        let here := if last? = some f.finish then [] else [f]
        let q := place f.finish
        here ++ if q.rest.isEmpty then [] else findAll m r fuel none q.next
      else f :: findAll m r fuel (some f.finish) (place f.finish)

/-- All parts of a text that an expression matches. -/
def all (m : Manner) (r : Regular) (text : List Char) : List Found :=
  findAll (fitted m r) r (text.length + 2) none { rest := text }

/-- The number of groups. -/
def groupCount : Regular → Nat
  | sequence a b | choice a b => groupCount a + groupCount b
  | times body _ _ => groupCount body
  | group _ body => groupCount body + 1
  | _ => 0

end Regular

end ComponentReference
