import ComponentReference.Text.Basic

/-!
# UTF-8

Bytes and the characters they stand for.  `encode` writes a character in one to
four bytes; `decode` reads them back and refuses everything that `encode` does
not write, saying where the first refused sequence lies and what is wrong with
it.
-/

namespace ComponentReference

/-- The content of a file or a stream. -/
abbrev Bytes := List UInt8

namespace Utf8

/-! ## Writing -/

/-- A continuation byte: the mark `10` and six bits. -/
def continuation (bits : Nat) : UInt8 :=
  (0x80 + bits % 0x40).toUInt8

/-- The one to four bytes of a character. -/
def encodeChar (c : Char) : Bytes :=
  let n := c.toNat
  if n < 0x80 then [n.toUInt8]
  else if n < 0x800 then [(0xC0 + n / 0x40).toUInt8, continuation n]
  else if n < 0x10000 then
    [(0xE0 + n / 0x1000).toUInt8, continuation (n / 0x40), continuation n]
  else
    [(0xF0 + n / 0x40000).toUInt8, continuation (n / 0x1000), continuation (n / 0x40),
      continuation n]

/-- The bytes of a text. -/
def encode (s : List Char) : Bytes :=
  s.flatMap encodeChar

/-- The number of bytes of a text. -/
def size (s : String) : Nat :=
  (encode s.toList).length

/-! ## Reading -/

/-- What is wrong with a refused sequence. -/
inductive Cause where
  /-- No character begins with this byte. -/
  | startByte
  /-- A byte follows that cannot stand at its place. -/
  | continuationByte
  /-- The bytes end inside a character. -/
  | endOfData
deriving DecidableEq, Repr

/-- A refused sequence: the positions of its first and last byte, and its first
byte. -/
structure Fault where
  cause : Cause
  first : Nat
  last : Nat
  byte : UInt8
deriving DecidableEq, Repr

/-- The wording of a cause. -/
def Cause.message : Cause → String
  | .startByte => "invalid start byte"
  | .continuationByte => "invalid continuation byte"
  | .endOfData => "unexpected end of data"

/-- The wording of a fault: the byte itself is shown where there is only one. -/
def Fault.message (f : Fault) : String :=
  let place :=
    if f.first = f.last then
      "byte 0x" ++ String.ofList (Text.hex 2 f.byte.toNat) ++ " in position " ++ toString f.first
    else "bytes in position " ++ toString f.first ++ "-" ++ toString f.last
  "'utf-8' codec can't decode " ++ place ++ ": " ++ f.cause.message

/-- The least and the greatest byte allowed at one place. -/
abbrev Range := UInt8 × UInt8

/-- Where a continuation byte may take any value. -/
def anyTail : Range := (0x80, 0xBF)

/-- The bits that a first byte holds and the bytes that have to follow it, if
some character begins with it.  The narrower ranges keep out overlong forms,
surrogates and code points past the last one. -/
def lead? (b : UInt8) : Option (Nat × List Range) :=
  if b < 0x80 then some (b.toNat, [])
  else if 0xC2 ≤ b ∧ b < 0xE0 then some (b.toNat - 0xC0, [anyTail])
  else if b = 0xE0 then some (0, [(0xA0, 0xBF), anyTail])
  else if b = 0xED then some (0xD, [(0x80, 0x9F), anyTail])
  else if 0xE1 ≤ b ∧ b < 0xF0 then some (b.toNat - 0xE0, [anyTail, anyTail])
  else if b = 0xF0 then some (0, [(0x90, 0xBF), anyTail, anyTail])
  else if 0xF1 ≤ b ∧ b < 0xF4 then some (b.toNat - 0xF0, [anyTail, anyTail, anyTail])
  else if b = 0xF4 then some (4, [(0x80, 0x8F), anyTail, anyTail])
  else none

/-- Where the reader stands: between two characters, or inside one that began
at `first` with `byte`, has the bits `bits` so far, and goes on with a byte of
`next` and one of each range of `later`. -/
inductive State where
  | between
  | inside (first : Nat) (byte : UInt8) (bits : Nat) (next : Range) (later : List Range)

/-- The characters of `bytes`, the first of which stands at `position`. -/
def decodeFrom (position : Nat) : State → Bytes → Except Fault (List Char)
  | .between, [] => .ok []
  | .between, b :: rest =>
    match lead? b with
    | none => .error ⟨.startByte, position, position, b⟩
    | some (bits, []) => (decodeFrom (position + 1) .between rest).map (Char.ofNat bits :: ·)
    | some (bits, next :: later) =>
      decodeFrom (position + 1) (.inside position b bits next later) rest
  | .inside first byte _ _ _, [] => .error ⟨.endOfData, first, position - 1, byte⟩
  | .inside first byte bits next later, b :: rest =>
    if next.1 ≤ b ∧ b ≤ next.2 then
      let bits := bits * 0x40 + (b.toNat - 0x80)
      match later with
      | [] => (decodeFrom (position + 1) .between rest).map (Char.ofNat bits :: ·)
      | next :: later => decodeFrom (position + 1) (.inside first byte bits next later) rest
    else .error ⟨.continuationByte, first, position - 1, byte⟩

/-- The characters that the bytes stand for. -/
def decode (bytes : Bytes) : Except Fault (List Char) :=
  decodeFrom 0 .between bytes

end Utf8

end ComponentReference
