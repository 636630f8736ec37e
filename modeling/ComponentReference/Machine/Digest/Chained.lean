import ComponentReference.Machine.Digest.Block

/-!
# Digests of thirty-two bits a word in rounds of twenty and of sixteen

Both chain the blocks of a message: each changes a state of a few words, to which what it
was before the block is added.
-/

namespace ComponentReference.Digest

/-- The state after a block that changes it so, in words of a number of bits. -/
def chained (bits : Nat) (change : Words → Words → Words) (state block : Words) : Words :=
  state.zipWith (add bits) (change state block)

/-- The choice between two words by the bits of a third one. -/
def choice (bits x y z : Nat) : Nat :=
  (x &&& y) ||| (complement bits x &&& z)

/-- The bits that most of three words have. -/
def majority (x y z : Nat) : Nat :=
  (x &&& y) ||| (x &&& z) ||| (y &&& z)

/-- The words that most of these digests begin with. -/
def firstWords : List Nat :=
  [0x67452301, 0xefcdab89, 0x98badcfe, 0x10325476]

/-! ## Sixteen steps a round -/

namespace Sine

/-- The bits behind the point with which sines are worked out. -/
def precision : Nat := 320

/-- The sine of a whole number in radians, as its first 32 bits behind the point without a
sign: the sum of its series. -/
def digits (n : Nat) : Nat :=
  let unit : Int := 2 ^ precision
  let rec sum : (terms : Nat) → (k : Nat) → Int → Int
    | 0, _, _ => 0
    | terms + 1, k, term => term + sum terms (k + 2) (-(term * n * n) / ((k + 1) * (k + 2)))
  (sum 200 1 (n * unit)).natAbs >>> (precision - 32)

/-- The words that the steps add. -/
def constants : Words :=
  ((List.range 64).map fun i => digits (i + 1)).toArray

end Sine

namespace Md5

/-- How messages are cut. -/
def cut : Cut := ⟨4, false⟩

/-- How far the steps of a round turn, in turns. -/
def turns : List (List Nat) :=
  [[7, 12, 17, 22], [5, 9, 14, 20], [4, 11, 16, 23], [6, 10, 15, 21]]

/-- The word of the block that a step takes. -/
def place (step : Nat) : Nat :=
  match step / 16 with
  | 0 => step
  | 1 => (5 * step + 1) % 16
  | 2 => (3 * step + 5) % 16
  | _ => 7 * step % 16

/-- What a step mixes. -/
def mixed (step b c d : Nat) : Nat :=
  match step / 16 with
  | 0 => choice 32 b c d
  | 1 => choice 32 d b c
  | 2 => b ^^^ c ^^^ d
  | _ => c ^^^ (b ||| complement 32 d)

/-- The state after all steps on a block. -/
def change (state block : Words) : Words :=
  let step (s : Nat × Nat × Nat × Nat) (i : Nat) : Nat × Nat × Nat × Nat :=
    let (a, b, c, d) := s
    let sum := (a + mixed i b c d + block.getD (place i) 0 + Sine.constants.getD i 0) % 2 ^ 32
    let turn := (turns.getD (i / 16) []).getD (i % 4) 0
    (d, add 32 b (turnLeft 32 turn sum), b, c)
  let (a, b, c, d) := (List.range 64).foldl step
    (state.getD 0 0, state.getD 1 0, state.getD 2 0, state.getD 3 0)
  #[a, b, c, d]

end Md5

/-- The digest of a message in 128 bits. -/
def md5 (message : Bytes) : Bytes :=
  Md5.cut.result ((Md5.cut.blocks message).foldl (chained 32 Md5.change) firstWords.toArray)

/-! ## Twenty steps a round -/

namespace Sha1

/-- How messages are cut. -/
def cut : Cut := ⟨4, true⟩

/-- The words of a block, gone on with up to eighty. -/
def schedule (block : Words) : Words :=
  (List.range 64).foldl (fun w i =>
    let at' (n : Nat) : Nat := w.getD (16 + i - n) 0
    w.push (turnLeft 32 1 (at' 3 ^^^ at' 8 ^^^ at' 14 ^^^ at' 16))) block

/-- What a step mixes, and what it adds. -/
def mixed (step b c d : Nat) : Nat × Nat :=
  match step / 20 with
  | 0 => (choice 32 b c d, 0x5a827999)
  | 1 => (b ^^^ c ^^^ d, 0x6ed9eba1)
  | 2 => (majority b c d, 0x8f1bbcdc)
  | _ => (b ^^^ c ^^^ d, 0xca62c1d6)

/-- The state after all steps on a block. -/
def change (state block : Words) : Words :=
  let words := schedule block
  let step (s : Nat × Nat × Nat × Nat × Nat) (i : Nat) : Nat × Nat × Nat × Nat × Nat :=
    let (a, b, c, d, e) := s
    let (mix, constant) := mixed i b c d
    ((turnLeft 32 5 a + mix + e + constant + words.getD i 0) % 2 ^ 32, a, turnLeft 32 30 b, c, d)
  let (a, b, c, d, e) := (List.range 80).foldl step
    (state.getD 0 0, state.getD 1 0, state.getD 2 0, state.getD 3 0, state.getD 4 0)
  #[a, b, c, d, e]

end Sha1

/-- The digest of a message in 160 bits. -/
def sha1 (message : Bytes) : Bytes :=
  Sha1.cut.result ((Sha1.cut.blocks message).foldl (chained 32 Sha1.change)
    (firstWords ++ [0xc3d2e1f0]).toArray)

end ComponentReference.Digest
