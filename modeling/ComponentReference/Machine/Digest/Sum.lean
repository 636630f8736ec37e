import ComponentReference.Machine.Digest.Block

/-!
# Sums

The remainder of a message as a polynomial, and two plain sums of its bytes.
-/

namespace ComponentReference.Digest

namespace Remainder

/-- The polynomial that messages are divided by, without its highest power. -/
def divisor : UInt32 := 0x04c11db7

/-- The remainder after one more bit. -/
def step (r : UInt32) : UInt32 :=
  if r &&& 0x80000000 = 0 then r <<< 1 else r <<< 1 ^^^ divisor

/-- The remainder after one more byte. -/
def byte (r : UInt32) (b : UInt8) : UInt32 :=
  (List.range 8).foldl (fun r _ => step r) (r ^^^ b.toUInt32 <<< 24)

/-- The bytes of a length, the last of which counts most. -/
def lengthBytes : (fuel : Nat) → Nat → Bytes
  | 0, _ => []
  | fuel + 1, n => if n = 0 then [] else n.toUInt8 :: lengthBytes fuel (n / 256)

end Remainder

/-- The remainder of a message with its length behind it, as its other bits. -/
def remainder (message : Bytes) : Nat :=
  let all := message ++ Remainder.lengthBytes 9 message.length
  (all.foldl Remainder.byte 0 ^^^ 0xffffffff).toNat

/-- The sum of bytes, turned to the right before each. -/
def turnedSum (message : Bytes) : Nat :=
  message.foldl (fun sum b => (turnRight 16 1 sum + b.toNat) % 65536) 0

/-- The sum of bytes, folded to sixteen bits. -/
def foldedSum (message : Bytes) : Nat :=
  let sum := (message.map UInt8.toNat).sum % 2 ^ 32
  let half := sum % 65536 + sum / 65536
  half % 65536 + half / 65536

end ComponentReference.Digest
