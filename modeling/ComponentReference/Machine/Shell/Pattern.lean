import ComponentReference.Machine.Text.Octets

/-!
# Patterns

A pattern matches whole texts: an asterisk stands for any octets, a question mark for
one, and brackets for one of those that they list.  What is quoted stands for itself, as
does what follows a backslash.
-/

namespace ComponentReference.Shell

/-- An octet of a word, and whether it is quoted. -/
structure Mark where
  octet : Char
  quoted : Bool := false
deriving DecidableEq, Repr

/-- An element of a pattern. -/
inductive Pattern where
  /-- Any octets. -/
  | any
  /-- One octet of those for which the test holds. -/
  | one (test : Char → Bool)

namespace Pattern

/-- The octets of a class, by its name. -/
def class? (name : String) : Option (Char → Bool) :=
  let graphic (c : Char) : Bool := '!' ≤ c ∧ c ≤ '~'
  match name with
  | "alpha" => some Char.isAlpha
  | "digit" => some Char.isDigit
  | "alnum" => some Char.isAlphanum
  | "upper" => some Char.isUpper
  | "lower" => some Char.isLower
  | "space" => some fun c => c = ' ' ∨ ('\t' ≤ c ∧ c ≤ '\r')
  | "blank" => some fun c => c = ' ' ∨ c = '\t'
  | "punct" => some fun c => graphic c && !c.isAlphanum
  | "print" => some fun c => graphic c || c = ' '
  | "graph" => some graphic
  | "cntrl" => some fun c => c < ' ' ∨ c = Char.ofNat 127
  | "xdigit" => some fun c => (Text.hexValue? c).isSome
  | _ => none

/-- The name of a class at the beginning of what follows a bracket, and what follows it. -/
def className? (s : List Mark) : Option (String × List Mark) :=
  match s with
  | ⟨':', false⟩ :: rest =>
    let (name, after) := rest.span fun m => m.octet.isAlpha
    match after with
    | ⟨':', _⟩ :: ⟨']', _⟩ :: after => some (String.ofList (name.map Mark.octet), after)
    | _ => none
  | _ => none

/-- The octets that brackets list, and what follows the closing bracket, which is not the
first octet. -/
def listed (fuel : Nat) (first : Bool) (s : List Mark) : Option ((Char → Bool) × List Mark) :=
  match fuel, s with
  | 0, _ | _, [] => none
  | fuel + 1, m :: rest =>
    if m = ⟨']', false⟩ ∧ !first then some (fun _ => false, rest)
    else
      let add (test : Char → Bool) (rest : List Mark) : Option ((Char → Bool) × List Mark) :=
        (listed fuel false rest).map fun (others, after) => (fun c => test c || others c, after)
      match if m = ⟨'[', false⟩ then className? rest else none with
      | some (name, after) => add ((class? name).getD fun _ => false) after
      | none =>
        let (low, rest) := match m, rest with
          | ⟨'\\', false⟩, escaped :: rest => (escaped.octet, rest)
          | m, rest => (m.octet, rest)
        match rest with
        | ⟨'-', false⟩ :: high :: after =>
          if high = ⟨']', false⟩ then add (· = low) rest
          else
            let (high, after) := match high, after with
              | ⟨'\\', false⟩, escaped :: after => (escaped.octet, after)
              | high, after => (high.octet, after)
            add (fun c => low ≤ c ∧ c ≤ high) after
        | _ => add (· = low) rest

/-- The pattern that marks write. -/
def ofMarks : (fuel : Nat) → List Mark → List Pattern
  | 0, _ | _, [] => []
  | fuel + 1, ⟨c, true⟩ :: rest => one (· = c) :: ofMarks fuel rest
  | fuel + 1, ⟨c, false⟩ :: rest =>
    match c with
    | '*' => any :: ofMarks fuel rest
    | '?' => one (fun _ => true) :: ofMarks fuel rest
    | '\\' =>
      match rest with
      | escaped :: rest => one (· = escaped.octet) :: ofMarks fuel rest
      | [] => [one (· = c)]
    | '[' =>
      let (inverted, inside) := match rest with
        | ⟨'!', false⟩ :: rest => (true, rest)
        | rest => (false, rest)
      match listed (inside.length + 1) true inside with
      | some (test, after) => one (fun c => test c != inverted) :: ofMarks fuel after
      | none => one (· = c) :: ofMarks fuel rest
    | c => one (· = c) :: ofMarks fuel rest

/-- The pattern that a word writes. -/
def ofWord (marks : List Mark) : List Pattern :=
  ofMarks (marks.length + 1) marks

/-- Whether octets match a pattern. -/
def isMatch : List Pattern → Octets → Bool
  | [], s => s.isEmpty
  | any :: p, [] => isMatch p []
  | any :: p, c :: s => isMatch p (c :: s) || isMatch (any :: p) s
  | one test :: p, c :: s => test c && isMatch p s
  | one _ :: _, [] => false
termination_by p s => p.length + s.length

/-- The octets without the shortest or longest beginning that matches. -/
def dropStart (p : List Pattern) (longest : Bool) (s : Octets) : Octets :=
  let lengths := List.range (s.length + 1)
  match (if longest then lengths.reverse else lengths).find? fun n => isMatch p (s.take n) with
  | some n => s.drop n
  | none => s

/-- The octets without the shortest or longest end that matches. -/
def dropEnd (p : List Pattern) (longest : Bool) (s : Octets) : Octets :=
  let lengths := List.range (s.length + 1)
  match (if longest then lengths else lengths.reverse).find? fun n => isMatch p (s.drop n) with
  | some n => s.take n
  | none => s

end Pattern

end ComponentReference.Shell
