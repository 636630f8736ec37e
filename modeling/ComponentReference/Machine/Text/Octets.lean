import ComponentReference.Text.Utf8

/-!
# Octets

Programs exchange bytes, which may or may not be the text that they look like.  Here
each byte is held as the character of its number, so that bytes can be taken apart and
put together as text is.
-/

namespace ComponentReference

/-- Bytes, each as the character of its number. -/
abbrev Octets := List Char

namespace Octets

/-- The octets of bytes. -/
def ofBytes (bytes : Bytes) : Octets :=
  bytes.map fun b => Char.ofNat b.toNat

/-- The bytes that octets stand for. -/
def toBytes (s : Octets) : Bytes :=
  s.map fun c => c.toNat.toUInt8

/-- The octets of a text in UTF-8. -/
def ofString (s : String) : Octets :=
  ofBytes (Utf8.encode s.toList)

/-- The text that octets stand for, if they are UTF-8. -/
def toString? (s : Octets) : Option String :=
  match Utf8.decode (toBytes s) with
  | .ok text => some (String.ofList text)
  | .error _ => none

theorem toNat_ofNat_byte (b : UInt8) : (Char.ofNat b.toNat).toNat = b.toNat := by
  have hb : b.toNat.isValidChar := Or.inl (Nat.lt_trans b.toNat_lt (by decide))
  unfold Char.ofNat
  rw [dif_pos hb]
  rfl

theorem toBytes_ofBytes (bytes : Bytes) : toBytes (ofBytes bytes) = bytes := by
  simp [toBytes, ofBytes, Function.comp_def, toNat_ofNat_byte]

/-! ## Numbers -/

/-- The digits of a number. -/
def ofNat (n : Nat) : Octets :=
  n.repr.toList

/-- The digits of a number, with a sign if it is negative. -/
def ofInt (n : Int) : Octets :=
  n.repr.toList

/-- The digits of a number in a base of at most sixteen, at least one of them. -/
def digits (base n : Nat) : Octets :=
  Nat.toDigits base n

/-- The value of digits in a base of at most sixteen. -/
def valueOf (base : Nat) (s : Octets) : Nat :=
  s.foldl (fun n c => base * n + (Text.hexValue? c).getD 0) 0

/-- The number that decimal digits make up. -/
def nat? (s : Octets) : Option Nat :=
  if s.isEmpty ∨ !s.all Char.isDigit then none else some (valueOf 10 s)

/-- The number that decimal digits make up, perhaps behind a sign. -/
def int? : Octets → Option Int
  | '-' :: digits => (nat? digits).map fun n => -(n : Int)
  | '+' :: digits => (nat? digits).map Int.ofNat
  | digits => (nat? digits).map Int.ofNat

/-! ## Lines and words -/

/-- The lines of octets, each with the line feed that ends it. -/
def lines (s : Octets) : List Octets :=
  let (done, current) := s.foldl (fun (done, current) c =>
    if c = '\n' then ((c :: current).reverse :: done, []) else (done, c :: current))
    (([], []) : List Octets × Octets)
  (if current.isEmpty then done else current.reverse :: done).reverse

/-- A line without the line feed that ends it. -/
def chomp (line : Octets) : Octets :=
  if line.getLast? = some '\n' then line.dropLast else line

/-- Octets with others between them. -/
def join (between : Octets) : List Octets → Octets
  | [] => []
  | [s] => s
  | s :: rest => s ++ between ++ join between rest

/-- Octets with spaces between them. -/
def unwords (words : List Octets) : Octets :=
  join [' '] words

/-- Whether the octets occur in others. -/
def occursIn (wanted : Octets) : Octets → Bool
  | [] => wanted.isEmpty
  | c :: rest => wanted.isPrefixOf (c :: rest) || occursIn wanted rest

/-- The octets that are below another list in the order of their numbers. -/
def isBefore : Octets → Octets → Bool
  | [], t => !t.isEmpty
  | _ :: _, [] => false
  | a :: s, b :: t => a < b || (a = b && isBefore s t)

/-- The order of octets by their numbers. -/
def le (s t : Octets) : Bool :=
  !isBefore t s

end Octets

end ComponentReference
