import ComponentReference.Machine.Digest.Crossed
import ComponentReference.Machine.Digest.Sum
import ComponentReference.Machine.Digest.Wide
import ComponentReference.Machine.Tool.Names
import ComponentReference.Machine.Tool.Reading

/-!
# Programs that tell digests

Each line holds the digest of a file and the file's name.  Such lines can be read again, to
see whether the files are still the same.
-/

namespace ComponentReference.Tool

/-- A kind of digest. -/
structure DigestKind where
  /-- The name that the digest has in lines with a tag. -/
  name : String
  /-- The number of bytes. -/
  size : Nat
  digest : Bytes → Bytes
  /-- Whether the size may be chosen. -/
  hasSizes : Bool := false

/-- The digits of a digest. -/
def digestText (bytes : Bytes) : Octets :=
  bytes.flatMap fun b => Text.hex 2 b.toNat

/-- A name on one line: whether something in it has another spelling, and that. -/
def lineName (name : Octets) : Bool × Octets :=
  let spelled := name.flatMap fun c =>
    match c with
    | '\\' => ['\\', '\\']
    | '\n' => ['\\', 'n']
    | '\r' => ['\\', 'r']
    | c => [c]
  (spelled ≠ name, spelled)

/-- The name that a spelling on one line stands for. -/
def nameOfLine? : Octets → Option Octets
  | [] => some []
  | '\\' :: 'n' :: rest => (nameOfLine? rest).map ('\n' :: ·)
  | '\\' :: 'r' :: rest => (nameOfLine? rest).map ('\r' :: ·)
  | '\\' :: '\\' :: rest => (nameOfLine? rest).map ('\\' :: ·)
  | '\\' :: _ => none
  | c :: rest => (nameOfLine? rest).map (c :: ·)

/-- A line that can be checked. -/
structure DigestLine where
  digits : Octets
  name : Octets

namespace DigestKind

/-- Whether octets are the digits of such a digest. -/
def isDigest (k : DigestKind) (digits : Octets) : Bool :=
  (if k.hasSizes then digits.length % 2 = 0 ∧ 0 < digits.length ∧ digits.length ≤ 2 * k.size
    else digits.length = 2 * k.size) &&
    digits.all fun c => (Text.hexValue? c).isSome

/-- The name in front of a digest in lines with a tag. -/
def tag (k : DigestKind) (size : Nat) : Octets :=
  Octets.ofString k.name ++
    (if k.hasSizes ∧ size ≠ k.size then '-' :: Octets.ofNat (8 * size) else [])

/-- What a line with a tag says. -/
def taggedLine? (k : DigestKind) (s : Octets) : Option DigestLine := do
  let isBlank (c : Char) : Bool := c = ' ' ∨ c = '\t'
  let rest ← if (Octets.ofString k.name).isPrefixOf s then some (s.drop k.name.length) else none
  let rest := if k.hasSizes ∧ rest.head? = some '-' then (rest.drop 1).dropWhile Char.isDigit else rest
  let rest := if rest.head? = some ' ' then rest.drop 1 else rest
  let inner ← match rest with
    | '(' :: inner => some inner
    | _ => none
  let after := inner.reverse.takeWhile (· ≠ ')') |>.reverse
  if after.length = inner.length then none
  let name := inner.take (inner.length - after.length - 1)
  match after.dropWhile isBlank with
  | '=' :: digits =>
    let digits := digits.dropWhile isBlank
    if k.isDigest digits then some ⟨digits, name⟩ else none
  | _ => none

/-- What a line says, given whether lines of this source have one space behind the digest:
that is not known before the first of them. -/
def line? (k : DigestKind) (oneSpace? : Option Bool) (s : Octets) :
    Option (DigestLine × Option Bool) := do
  let s := s.dropWhile fun c => c = ' ' ∨ c = '\t'
  let (escaped, s) := match s with
    | '\\' :: rest => (true, rest)
    | s => (false, s)
  let named (line : DigestLine) : Option DigestLine :=
    if escaped then (nameOfLine? line.name).map fun name => { line with name } else some line
  if (Octets.ofString k.name).isPrefixOf s then
    return (← named (← k.taggedLine? s), oneSpace?)
  let (digits, rest) := s.span fun c => (Text.hexValue? c).isSome
  if !k.isDigest digits then none
  let rest ← match rest with
    | ' ' :: rest | '\t' :: rest => some rest
    | _ => none
  let marked : Bool := rest.length ≠ 1 && (rest.head? == some ' ' || rest.head? == some '*')
  match marked, oneSpace? with
  | false, some false => none
  | false, _ => return (← named ⟨digits, rest⟩, some true)
  | true, some true => return (← named ⟨digits, rest⟩, oneSpace?)
  | true, _ => return (← named ⟨digits, rest.drop 1⟩, some false)

end DigestKind

/-- What has come of checking the lines of a source. -/
structure Checked where
  formed : Nat := 0
  malformed : Nat := 0
  unread : Nat := 0
  same : Nat := 0
  other : Nat := 0

/-- The line that tells of a digest. -/
def digestLine (k : DigestKind) (a : Arguments) (size : Nat) (digest : Bytes) (name : Octets) : Octets :=
  let (escaped, spelled) := if a.has 'z' then (false, name) else lineName name
  let front : Octets := if escaped then ['\\'] else []
  front ++ (if a.has 'T' then
      k.tag size ++ [' ', '('] ++ spelled ++ Octets.ofString ") = " ++ digestText digest
    else digestText digest ++ ' ' :: (if a.last? "bt" = some 'b' then '*' else ' ') :: spelled) ++ [lineEnd a]

/-- Checks one line of a source. -/
def checkLine (k : DigestKind) (a : Arguments) (source : Octets) (number : Nat) (line : Octets)
    (oneSpace? : Option Bool) (done : Checked) : Task (Checked × Option Bool) := do
  let text := Octets.chomp line
  let text := if text.getLast? = some '\r' then text.dropLast else text
  if text.isEmpty ∨ text.head? = some '#' then return (done, oneSpace?)
  match k.line? oneSpace? text with
  | none =>
    if a.has 'w' then
      Task.complain (shownName source ++ Octets.ofString ": " ++ Octets.ofNat number ++
        Octets.ofString (": improperly formatted " ++ k.name ++ " checksum line"))
    return ({ done with malformed := done.malformed + 1 }, oneSpace?)
  | some (found, oneSpace?) =>
    let done := { done with formed := done.formed + 1 }
    let (escaped, spelled) := lineName found.name
    let tellOf (result : String) : Task Unit :=
      Task.write ((if escaped then ['\\'] else []) ++ spelled ++ Octets.ofString (": " ++ result ++ "\n"))
    match ← Task.readOperand found.name with
    | .error errno =>
      if a.has 'i' ∧ errno = .missing then return (done, oneSpace?)
      complainOf found.name errno
      if !a.has 's' then tellOf "FAILED open or read"
      return ({ done with unread := done.unread + 1 }, oneSpace?)
    | .ok content =>
      let digest := (k.digest (Octets.toBytes content)).take (found.digits.length / 2)
      let digest := if k.hasSizes ∧ found.digits.length ≠ 2 * k.size then
          Digest.blake2b (found.digits.length / 2) (Octets.toBytes content) else digest
      if digestText digest = found.digits.map Char.toLower then
        if !a.has 's' ∧ !a.has 'q' then tellOf "OK"
        return ({ done with same := done.same + 1 }, oneSpace?)
      else
        if !a.has 's' then tellOf "FAILED"
        return ({ done with other := done.other + 1 }, oneSpace?)

/-- Checks the lines of a source one after the other. -/
def checkLines (k : DigestKind) (a : Arguments) (source : Octets) : (number : Nat) → List Octets →
    Option Bool → Checked → Task Checked
  | _, [], _, done => return done
  | number, line :: rest, oneSpace?, done => do
    let (done, oneSpace?) ← checkLine k a source number line oneSpace? done
    checkLines k a source (number + 1) rest oneSpace? done

/-- Checks the lines of a source, and tells what has come of it. -/
def checkSource (k : DigestKind) (a : Arguments) (name : Octets) : Task Nat := do
  match ← Task.readOperand name with
  | .error .isDirectory =>
    Task.complain (shownName name ++ Octets.ofString ": read error")
    return 1
  | .error errno =>
    complainOf name errno
    return 1
  | .ok content =>
    let source := if name = ['-'] then Octets.ofString "standard input" else name
    let done ← checkLines k a source 1 (Octets.lines content) none {}
    if done.formed = 0 then
      Task.complain (shownName source ++ Octets.ofString ": no properly formatted checksum lines found")
      return 1
    if !a.has 's' then
      let warning (n : Nat) (one many : String) : Task Unit := do
        if n ≠ 0 then
          Task.complain (Octets.ofString "WARNING: " ++ Octets.ofNat n ++
            Octets.ofString (if n = 1 then one else many))
      warning done.malformed " line is improperly formatted" " lines are improperly formatted"
      warning done.unread " listed file could not be read" " listed files could not be read"
      warning done.other " computed checksum did NOT match" " computed checksums did NOT match"
      if a.has 'i' ∧ done.same + done.other = 0 then
        Task.complain (shownName source ++ Octets.ofString ": no file was verified")
    let good := done.same ≠ 0 ∧ done.other = 0 ∧ done.unread = 0 ∧ (!a.has 'S' ∨ done.malformed = 0)
    return if good then 0 else 1

/-- Tells the digests of files, or checks them. -/
def digests (k : DigestKind) : Program := do
  let a ← Options.taken { letters := "bctwz", valued := if k.hasSizes then "l" else "", words :=
    [("binary", 'b'), ("check", 'c'), ("text", 't'), ("warn", 'w'), ("zero", 'z'), ("tag", 'T'),
      ("ignore-missing", 'i'), ("quiet", 'q'), ("status", 's'), ("strict", 'S')] ++
      if k.hasSizes then [("length", 'l')] else [] }
  let size ← match a.value? 'l' with
    | none => pure k.size
    | some text =>
      match Octets.nat? text with
      | none => Task.refuse 1 (Octets.ofString "invalid length: " ++ quoted text)
      | some 0 => pure k.size
      | some n =>
        if n % 8 ≠ 0 then
          Task.complain (Octets.ofString "invalid length: " ++ quoted text)
          Task.refuse 1 (Octets.ofString "length is not a multiple of 8")
        else if 8 * k.size < n then
          Task.complain (Octets.ofString "invalid length: " ++ quoted text)
          Task.refuse 1 (Octets.ofString ("maximum digest length for " ++ "‘" ++ k.name ++ "’ is 512 bits"))
        else pure (n / 8)
  let checks := a.has 'c'
  if a.has 'T' ∧ a.last? "bt" = some 't' then
    refuseOperands (Octets.ofString "--tag does not support --text mode")
  if a.has 'z' ∧ checks then
    refuseOperands (Octets.ofString "the --zero option is not supported when verifying checksums")
  if a.has 'T' ∧ checks then
    refuseOperands (Octets.ofString "the --tag option is meaningless when verifying checksums")
  if (a.last? "bt").isSome ∧ checks then
    refuseOperands (Octets.ofString
      "the --binary and --text options are meaningless when verifying checksums")
  for (letter, word) in [('i', "ignore-missing"), ('s', "status"), ('w', "warn"), ('q', "quiet"),
      ('S', "strict")] do
    if a.has letter ∧ !checks then
      refuseOperands (Octets.ofString ("the --" ++ word ++
        " option is meaningful only when verifying checksums"))
  let digest (bytes : Bytes) : Bytes := if size = k.size then k.digest bytes else Digest.blake2b size bytes
  Task.worst (namesOr a.operands) fun name => do
    if checks then checkSource k a name
    else
      match ← Task.readOperand name with
      | .error errno =>
        complainOf name errno
        return 1
      | .ok content =>
        Task.write (digestLine k a size (digest (Octets.toBytes content)) name)
        return 0

/-- Tells the remainders of files. -/
def cksum : Program := do
  let a ← Options.taken { letters := "z", words := [("zero", 'z')] }
  Task.worst (namesOr a.operands) fun name => do
    match ← Task.readOperand name with
    | .error errno =>
      complainOf name errno
      return 1
    | .ok content =>
      let bytes := Octets.toBytes content
      Task.write (Octets.ofNat (Digest.remainder bytes) ++ ' ' :: Octets.ofNat bytes.length ++
        (if a.operands.isEmpty then [] else ' ' :: name) ++ [lineEnd a])
      return 0

/-- Tells sums of files, and in how many blocks they fit. -/
def sum : Program := do
  let a ← Options.taken { letters := "rs", words := [("sysv", 's')] }
  let isFolded := a.last? "rs" = some 's'
  let count := a.operands.length
  Task.worst (namesOr a.operands) fun name => do
    match ← Task.readOperand name with
    | .error errno =>
      complainOf name errno
      return 1
    | .ok content =>
      let bytes := Octets.toBytes content
      let size := bytes.length
      let text :=
        if isFolded then
          Octets.ofNat (Digest.foldedSum bytes) ++ ' ' :: Octets.ofNat ((size + 511) / 512) ++
            (if count = 0 then [] else ' ' :: name)
        else
          let digits := Octets.ofNat (Digest.turnedSum bytes)
          List.replicate (5 - digits.length) '0' ++ digits ++ ' ' ::
            padLeft 5 (Octets.ofNat ((size + 1023) / 1024)) ++
            (if count = 0 then [] else ' ' :: name)
      Task.write (text ++ ['\n'])
      return 0

/-- The programs that tell digests, by name. -/
def digestPrograms : List (String × Program) :=
  [("md5sum", digests ⟨"MD5", 16, Digest.md5, false⟩),
    ("sha1sum", digests ⟨"SHA1", 20, Digest.sha1, false⟩),
    ("sha224sum", digests ⟨"SHA224", 28, Digest.sha224, false⟩),
    ("sha256sum", digests ⟨"SHA256", 32, Digest.sha256, false⟩),
    ("sha384sum", digests ⟨"SHA384", 48, Digest.sha384, false⟩),
    ("sha512sum", digests ⟨"SHA512", 64, Digest.sha512, false⟩),
    ("b2sum", digests ⟨"BLAKE2b", 64, Digest.blake2b 64, true⟩),
    ("cksum", cksum), ("sum", sum)]

end ComponentReference.Tool
