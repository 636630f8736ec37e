import ComponentReference.Machine.Digest.Block

/-!
# Digests of crossed words

Sixteen words stand in a square of four.  A round mixes its columns and then its diagonals,
with the words of the block in an order of the round's own.  The digest may have any size of
at most sixty-four bytes, which takes part in it.
-/

namespace ComponentReference.Digest.Crossed

/-- How messages are cut. -/
def cut : Cut := ⟨8, false⟩

/-- The order in which a round takes the words of a block. -/
def orders : List (List Nat) :=
  [[0, 1, 2, 3, 4, 5, 6, 7, 8, 9, 10, 11, 12, 13, 14, 15],
    [14, 10, 4, 8, 9, 15, 13, 6, 1, 12, 0, 2, 11, 7, 5, 3],
    [11, 8, 12, 0, 5, 2, 15, 13, 10, 14, 3, 6, 7, 1, 9, 4],
    [7, 9, 3, 1, 13, 12, 11, 14, 2, 6, 5, 10, 4, 0, 15, 8],
    [9, 0, 5, 7, 2, 4, 10, 15, 14, 1, 11, 12, 6, 8, 3, 13],
    [2, 12, 6, 10, 0, 11, 8, 3, 4, 13, 7, 5, 15, 14, 1, 9],
    [12, 5, 1, 15, 14, 13, 4, 10, 0, 7, 6, 3, 9, 2, 8, 11],
    [13, 11, 7, 14, 12, 1, 3, 9, 5, 0, 15, 4, 8, 6, 2, 10],
    [6, 15, 14, 9, 11, 3, 0, 8, 12, 2, 13, 7, 1, 4, 10, 5],
    [10, 2, 8, 4, 7, 6, 1, 5, 15, 11, 9, 14, 3, 12, 13, 0]]

/-- The places of the columns of the square, and of its diagonals. -/
def lanes : List (Nat × Nat × Nat × Nat) :=
  [(0, 4, 8, 12), (1, 5, 9, 13), (2, 6, 10, 14), (3, 7, 11, 15),
    (0, 5, 10, 15), (1, 6, 11, 12), (2, 7, 8, 13), (3, 4, 9, 14)]

/-- The square after four of its words have been mixed with two of the block. -/
def mixed (v : Words) (lane : Nat × Nat × Nat × Nat) (x y : Nat) : Words :=
  let (a, b, c, d) := lane
  let half (v : Words) (word turn turn' : Nat) : Words :=
    let v := v.set! a ((v.getD a 0 + v.getD b 0 + word) % 2 ^ 64)
    let v := v.set! d (turnRight 64 turn (v.getD d 0 ^^^ v.getD a 0))
    let v := v.set! c (add 64 (v.getD c 0) (v.getD d 0))
    v.set! b (turnRight 64 turn' (v.getD b 0 ^^^ v.getD c 0))
  half (half v x 32 24) y 16 63

/-- The state after a block, given how many bytes of the message have been taken, and
whether the block is the last one. -/
def compressed (state block : Words) (taken : Nat) (isLast : Bool) : Words :=
  let first := squareRootDigits.take 8
  let v : Words := (state.toList ++ first).toArray
  let v := v.set! 12 (v.getD 12 0 ^^^ taken % 2 ^ 64)
  let v := v.set! 13 (v.getD 13 0 ^^^ taken / 2 ^ 64)
  let v := if isLast then v.set! 14 (complement 64 (v.getD 14 0)) else v
  let round (v : Words) (n : Nat) : Words :=
    let order := orders.getD (n % 10) []
    (lanes.zipIdx).foldl (fun v (lane, i) =>
      let word (n : Nat) : Nat := block.getD (order.getD n 0) 0
      mixed v lane (word (2 * i)) (word (2 * i + 1))) v
  let v := (List.range 12).foldl round v
  ((List.range 8).map fun i => state.getD i 0 ^^^ v.getD i 0 ^^^ v.getD (i + 8) 0).toArray

/-- The block that bytes make up, with zeros behind them. -/
def blockOf (bytes : Bytes) : Words :=
  let bytes := bytes ++ List.replicate (128 - bytes.length) 0
  ((pieces 8 17 bytes).map cut.word).toArray

/-- The state after all blocks of a message. -/
def run : (fuel : Nat) → (state : Words) → (taken : Nat) → Bytes → Words
  | 0, state, _, _ => state
  | fuel + 1, state, taken, message =>
    if message.length ≤ 128 then compressed state (blockOf message) (taken + message.length) true
    else
      run fuel (compressed state (blockOf (message.take 128)) (taken + 128) false) (taken + 128)
        (message.drop 128)

end ComponentReference.Digest.Crossed

namespace ComponentReference.Digest

/-- The digest of a message in so many bytes. -/
def blake2b (size : Nat) (message : Bytes) : Bytes :=
  let first : Words := (squareRootDigits.take 8).toArray
  let state := first.set! 0 (first.getD 0 0 ^^^ 0x01010000 ^^^ size)
  (Crossed.cut.result (Crossed.run (message.length + 1) state 0 message)).take size

end ComponentReference.Digest
