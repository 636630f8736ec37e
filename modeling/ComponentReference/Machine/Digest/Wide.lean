import ComponentReference.Machine.Digest.Chained

/-!
# Digests of eight words

The state is eight words of 32 bits or of 64, whose first values are digits of square roots;
the steps add digits of cube roots.
-/

namespace ComponentReference.Digest

/-- How far the bits of a word are turned three times; the last time they may be moved. -/
structure Turns where
  first : Nat
  second : Nat
  third : Nat
  /-- Whether the bits that leave the word the last time do not come back. -/
  moves : Bool := false

/-- A word turned three times, taken together. -/
def Turns.apply (t : Turns) (bits x : Nat) : Nat :=
  turnRight bits t.first x ^^^ turnRight bits t.second x ^^^
    (if t.moves then x >>> t.third else turnRight bits t.third x)

/-- A kind of digest of eight words. -/
structure Wide where
  wordSize : Nat
  steps : Nat
  /-- The turns of the first and of the fifth word of the state. -/
  large : Turns × Turns
  /-- The turns of the words that a block goes on with. -/
  small : Turns × Turns

namespace Wide

/-- How messages are cut. -/
def cut (w : Wide) : Cut :=
  ⟨w.wordSize, true⟩

/-- The words that the steps add. -/
def constants (w : Wide) : Words :=
  ((cubeRootDigits.take w.steps).map (· >>> (64 - w.cut.bits))).toArray

/-- The words of a block, gone on with up to the number of the steps. -/
def schedule (w : Wide) (block : Words) : Words :=
  let bits := w.cut.bits
  (List.range (w.steps - 16)).foldl (fun words i =>
    let before (n : Nat) : Nat := words.getD (16 + i - n) 0
    words.push ((w.small.2.apply bits (before 2) + before 7 + w.small.1.apply bits (before 15) +
      before 16) % 2 ^ bits)) block

/-- The state after all steps on a block. -/
def change (w : Wide) (constants : Words) (state block : Words) : Words :=
  let bits := w.cut.bits
  let words := w.schedule block
  (List.range w.steps).foldl (fun s i =>
    let at' (n : Nat) : Nat := s.getD n 0
    let first := at' 7 + w.large.2.apply bits (at' 4) + choice bits (at' 4) (at' 5) (at' 6) +
      constants.getD i 0 + words.getD i 0
    let second := w.large.1.apply bits (at' 0) + majority (at' 0) (at' 1) (at' 2)
    #[(first + second) % 2 ^ bits, at' 0, at' 1, at' 2, add bits (at' 3) first, at' 4, at' 5,
      at' 6]) state

/-- The digest of a message in so many bytes, from a first state. -/
def digest (w : Wide) (first : List Nat) (size : Nat) (message : Bytes) : Bytes :=
  let change := w.change w.constants
  (w.cut.result ((w.cut.blocks message).foldl (chained w.cut.bits change) first.toArray)).take size

/-- The digests of words of 32 bits. -/
def short : Wide where
  wordSize := 4
  steps := 64
  large := (⟨2, 13, 22, false⟩, ⟨6, 11, 25, false⟩)
  small := (⟨7, 18, 3, true⟩, ⟨17, 19, 10, true⟩)

/-- The digests of words of 64 bits. -/
def long : Wide where
  wordSize := 8
  steps := 80
  large := (⟨28, 34, 39, false⟩, ⟨14, 18, 41, false⟩)
  small := (⟨1, 8, 7, true⟩, ⟨19, 61, 6, true⟩)

end Wide

/-- The digest of a message in 224 bits. -/
def sha224 : Bytes → Bytes :=
  Wide.short.digest ((squareRootDigits.drop 8).map (· % 2 ^ 32)) 28

/-- The digest of a message in 256 bits. -/
def sha256 : Bytes → Bytes :=
  Wide.short.digest ((squareRootDigits.take 8).map (· >>> 32)) 32

/-- The digest of a message in 384 bits. -/
def sha384 : Bytes → Bytes :=
  Wide.long.digest (squareRootDigits.drop 8) 48

/-- The digest of a message in 512 bits. -/
def sha512 : Bytes → Bytes :=
  Wide.long.digest (squareRootDigits.take 8) 64

end ComponentReference.Digest
