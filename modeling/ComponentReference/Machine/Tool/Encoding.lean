import ComponentReference.Machine.Tool.Reading

/-!
# Octets in sixty-four characters

Three octets make four characters, and what is missing at the end is filled up.
-/

namespace ComponentReference.Tool

/-- The sixty-four characters, by their values. -/
def alphabet : List Char :=
  "ABCDEFGHIJKLMNOPQRSTUVWXYZabcdefghijklmnopqrstuvwxyz0123456789+/".toList

/-- The character of a value. -/
def digit64 (n : Nat) : Char :=
  alphabet.getD (n % 64) 'A'

/-- Octets in characters. -/
def encoded : Octets → Octets
  | a :: b :: c :: rest =>
    let n := (a.toNat * 256 + b.toNat) * 256 + c.toNat
    digit64 (n / 262144) :: digit64 (n / 4096) :: digit64 (n / 64) :: digit64 n :: encoded rest
  | [a, b] =>
    let n := (a.toNat * 256 + b.toNat) * 256
    [digit64 (n / 262144), digit64 (n / 4096), digit64 (n / 64), '=']
  | [a] =>
    let n := a.toNat * 65536
    [digit64 (n / 262144), digit64 (n / 4096), '=', '=']
  | [] => []

/-- The octets that characters stand for, and whether all of them do. -/
def decoded : Octets → Octets × Bool
  | [] => ([], true)
  | [a, b, '=', '='] =>
    match alphabet.idxOf? a, alphabet.idxOf? b with
    | some a, some b => ([Char.ofNat ((a * 64 + b) / 16 % 256)], true)
    | _, _ => ([], false)
  | [a, b, c, '='] =>
    match alphabet.idxOf? a, alphabet.idxOf? b, alphabet.idxOf? c with
    | some a, some b, some c =>
      let n := (a * 64 + b) * 64 + c
      ([Char.ofNat (n / 1024 % 256), Char.ofNat (n / 4 % 256)], true)
    | _, _, _ => ([], false)
  | a :: b :: c :: d :: rest =>
    match alphabet.idxOf? a, alphabet.idxOf? b, alphabet.idxOf? c, alphabet.idxOf? d with
    | some a, some b, some c, some d =>
      let n := ((a * 64 + b) * 64 + c) * 64 + d
      let (more, valid) := decoded rest
      (Char.ofNat (n / 65536) :: Char.ofNat (n / 256 % 256) :: Char.ofNat (n % 256) :: more, valid)
    | _, _, _, _ => ([], false)
  | _ => ([], false)

/-- Lines of a width at most. -/
def wrapped (width : Nat) : (fuel : Nat) → Octets → Octets
  | 0, s => s
  | fuel + 1, s =>
    if s.isEmpty then []
    else if width = 0 then s
    else s.take width ++ '\n' :: wrapped width fuel (s.drop width)

/-- Writes octets in sixty-four characters, or reads them. -/
def base64 : Program := do
  let a ← Options.taken { letters := "di", valued := "w", words :=
    [("decode", 'd'), ("ignore-garbage", 'i'), ("wrap", 'w')] }
  match a.operands with
  | _ :: extra :: _ => refuseExtra extra
  | operands =>
    let name := operands.headD ['-']
    match ← Task.readOperand name with
    | .error errno => Task.refuse 1 (shownName name ++ Octets.ofString (": " ++ errno.message))
    | .ok content =>
      if a.has 'd' then
        let known (c : Char) : Bool := alphabet.contains c || c = '='
        let text := content.filter fun c => if a.has 'i' then known c else c ≠ '\n'
        let (octets, valid) := decoded text
        Task.write octets
        if valid then return 0 else Task.refuse 1 (Octets.ofString "invalid input")
      let width := ((a.value? 'w').bind Octets.nat?).getD 76
      let text := encoded content
      Task.write (wrapped width (text.length + 1) text)
      return 0

end ComponentReference.Tool
