import ComponentReference.Number.Standard

/-!
# Text

The few operations on text that the rest of the library is built from.  They
are given on lists of characters, where a proof can follow them, and wrapped
for `String` where a page or a message is assembled.
-/

namespace ComponentReference.Text

/-- The text with every occurrence of `c` replaced by `replacement`. -/
def substitute (c : Char) (replacement : String) (s : String) : String :=
  String.ofList (s.toList.flatMap fun x => if x = c then replacement.toList else [x])

@[simp] theorem toList_substitute (c : Char) (replacement s : String) :
    (substitute c replacement s).toList =
      s.toList.flatMap fun x => if x = c then replacement.toList else [x] :=
  String.toList_ofList

/-- The text, or `placeholder` when there is none or it is empty. -/
def presentOr (placeholder : String) : Option String → String
  | some s => if s.isEmpty then placeholder else s
  | none => placeholder

/-- A line break is a line feed, a carriage return, or the two together;
afterwards each is one line feed. -/
def unifyBreaks : List Char → List Char
  | [] => []
  | '\r' :: '\n' :: rest => '\n' :: unifyBreaks rest
  | c :: rest => (if c = '\r' then '\n' else c) :: unifyBreaks rest

/-- The hexadecimal digit of a number below sixteen, in lower case. -/
def hexDigit (n : Nat) : Char :=
  if n < 10 then Char.ofNat ('0'.toNat + n) else Char.ofNat ('a'.toNat + (n - 10))

/-- The last `width` hexadecimal digits of `n`. -/
def hex : (width n : Nat) → List Char
  | 0, _ => []
  | width + 1, n => hex width (n / 16) ++ [hexDigit (n % 16)]

/-- The value of a hexadecimal digit in either case. -/
def hexValue? (c : Char) : Option Nat :=
  if '0' ≤ c ∧ c ≤ '9' then some (c.toNat - '0'.toNat)
  else if 'a' ≤ c ∧ c ≤ 'f' then some (c.toNat - 'a'.toNat + 10)
  else if 'A' ≤ c ∧ c ≤ 'F' then some (c.toNat - 'A'.toNat + 10)
  else none

/-- Whether the text is written with the given beginning. -/
def beginsWith (beginning s : String) : Bool :=
  beginning.toList.isPrefixOf s.toList

/-- The text before the first `c` and the text after it, if `c` occurs. -/
def cutAt? (c : Char) (s : String) : Option (String × String) :=
  match s.toList.span (· ≠ c) with
  | (before, _ :: after) => some (String.ofList before, String.ofList after)
  | (_, []) => none

/-- The pieces between the occurrences of `c`, of which there is one more than
there are occurrences. -/
def split (c : Char) : List Char → List (List Char)
  | [] => [[]]
  | x :: rest =>
    if x = c then [] :: split c rest
    else match split c rest with
      | [] => [[x]]
      | piece :: pieces => (x :: piece) :: pieces

end ComponentReference.Text
