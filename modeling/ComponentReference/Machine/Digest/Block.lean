import ComponentReference.Machine.Text.Octets

/-!
# Blocks of words

A digest works on blocks of words, into which a message is cut after it has been filled up
with a bit, zeros and its own length.  The words that stand for nothing in particular are
taken from the digits of roots.
-/

namespace ComponentReference.Digest

/-- Words of so many bits, be they the state of a digest or a block. -/
abbrev Words := Array Nat

/-- The value of bytes, the first of which counts most. -/
def valueOf (bytes : Bytes) : Nat :=
  bytes.foldl (fun n b => 256 * n + b.toNat) 0

/-- So many bytes that have a value, the first of which counts most. -/
def bytesOf : (count : Nat) → Nat → Bytes
  | 0, _ => []
  | count + 1, n => bytesOf count (n / 256) ++ [n.toUInt8]

/-- The sum of words of a number of bits. -/
def add (bits a b : Nat) : Nat :=
  (a + b) % 2 ^ bits

/-- A word of a number of bits, turned to the right. -/
def turnRight (bits n x : Nat) : Nat :=
  (x >>> n) ||| ((x <<< (bits - n)) % 2 ^ bits)

/-- A word of a number of bits, turned to the left. -/
def turnLeft (bits n x : Nat) : Nat :=
  turnRight bits (bits - n) x

/-- The other bits of a word. -/
def complement (bits x : Nat) : Nat :=
  2 ^ bits - 1 - x

/-- A list cut into pieces of a size. -/
def pieces {α : Type} (size : Nat) : (fuel : Nat) → List α → List (List α)
  | 0, _ => []
  | _, [] => []
  | fuel + 1, s => s.take size :: pieces size fuel (s.drop size)

/-- How a message is cut into blocks. -/
structure Cut where
  /-- The number of bytes of a word. -/
  wordSize : Nat
  /-- Whether the first byte of a word counts most. -/
  firstCountsMost : Bool

namespace Cut

/-- The number of bits of a word. -/
def bits (c : Cut) : Nat :=
  8 * c.wordSize

/-- The word that bytes make up. -/
def word (c : Cut) (bytes : Bytes) : Nat :=
  valueOf (if c.firstCountsMost then bytes else bytes.reverse)

/-- The bytes of a word. -/
def bytes (c : Cut) (size n : Nat) : Bytes :=
  if c.firstCountsMost then bytesOf size n else (bytesOf size n).reverse

/-- A message filled up to whole blocks of sixteen words: a bit that is set, zeros, and the
message's length in two words. -/
def filled (c : Cut) (message : Bytes) : Bytes :=
  let block := 16 * c.wordSize
  let length := 2 * c.wordSize
  let zeros := (2 * block - 1 - length - message.length % block) % block
  message ++ 0x80 :: List.replicate zeros 0 ++ c.bytes length (8 * message.length)

/-- The blocks of a message. -/
def blocks (c : Cut) (message : Bytes) : List Words :=
  let filled := c.filled message
  let words := (pieces c.wordSize (filled.length + 1) filled).map c.word
  (pieces 16 (words.length + 1) words).map List.toArray

/-- The bytes of the words of a state. -/
def result (c : Cut) (state : Words) : Bytes :=
  state.toList.flatMap (c.bytes c.wordSize)

end Cut

/-! ## Roots -/

/-- The greatest number of at most so many bits whose power is no more than `n`. -/
def rootBelow (power n : Nat) : (bits root : Nat) → Nat
  | 0, root => root
  | bit + 1, root =>
    let next := root + 2 ^ bit
    rootBelow power n bit (if next ^ power ≤ n then next else root)

/-- The first bits behind the point of a root. -/
def rootDigits (power bits n : Nat) : Nat :=
  rootBelow power (n * 2 ^ (power * bits)) (bits + 8) 0 % 2 ^ bits

/-- The first primes. -/
def primes (count : Nat) : List Nat :=
  ((List.range (8 * count + 8)).filter fun n =>
    2 ≤ n && (List.range n).all fun d => d < 2 || n % d ≠ 0).take count

/-- The digits of the square roots of the first sixteen primes. -/
def squareRootDigits : List Nat :=
  (primes 16).map (rootDigits 2 64)

/-- The digits of the cube roots of the first eighty primes. -/
def cubeRootDigits : List Nat :=
  (primes 80).map (rootDigits 3 64)

end ComponentReference.Digest
