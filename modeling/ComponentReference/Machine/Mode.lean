import ComponentReference.Host.FileSystem
import ComponentReference.Machine.Text.Octets

/-!
# The text of modes

A mode is written as an octal number, or as clauses that each change it.  A clause names
those whom it is about, and if it names nobody, the mask of the program is heeded.
-/

namespace ComponentReference.Mode

/-- The rights of all. -/
def all : Mode := 0o7777

/-- A mode without the bits of a mask. -/
def without (mask m : Mode) : Mode :=
  m ^^^ (m &&& mask)

/-- Whether anybody may run the file. -/
def isExecutable (m : Mode) : Bool :=
  m &&& 0o111 ≠ 0

/-- What a mode is to be changed for. -/
structure Subject where
  isDirectory : Bool := false
  /-- The bits that nobody gets who is not named. -/
  umask : Mode := 0

/-- The bits that a change adds, takes away or sets. -/
inductive Rights where
  | bits (bits : Mode)
  /-- The rights to run what somebody may run, and to go through directories. -/
  | someRuns (bits : Mode)
  /-- The rights that some have already. -/
  | copied (bits : Mode)

/-- A change of a mode. -/
structure Change where
  operator : Char
  /-- The bits of those who are named; none if nobody is. -/
  affected : Mode
  rights : Rights
  /-- The bits that are spoken of. -/
  mentioned : Mode

/-- The bits of those who are named by a letter. -/
def whoBits? (c : Char) : Option Mode :=
  match c with
  | 'u' => some 0o4700
  | 'g' => some 0o2070
  | 'o' => some 0o1007
  | 'a' => some all
  | _ => none

/-- The bits that a letter stands for. -/
def rightBits? (c : Char) : Option Mode :=
  match c with
  | 'r' => some 0o444
  | 'w' => some 0o222
  | 'x' => some 0o111
  | 's' => some 0o6000
  | 't' => some 0o1000
  | _ => none

/-- The rights of some given to all. -/
def spread (m : Mode) : Mode :=
  [0o444, 0o222, 0o111].foldl (fun spread bits =>
    if m &&& bits = 0 then spread else spread ||| bits) m

/-- The mode after a change. -/
def Change.apply (subject : Subject) (m : Mode) (c : Change) : Mode :=
  let omitted := if subject.isDirectory then without c.mentioned 0o6000 else 0
  let bits : Mode := match c.rights with
    | .bits bits => bits
    | .someRuns bits =>
      if isExecutable m || subject.isDirectory then bits ||| 0o111 else bits
    | .copied bits => spread (m &&& bits)
  let reached := if c.affected = 0 then without subject.umask all else c.affected
  let bits := bits &&& without omitted reached
  match c.operator with
  | '+' => m ||| bits
  | '-' => without bits m
  | _ =>
    let kept := (if c.affected = 0 then 0 else without c.affected all) ||| omitted
    (m &&& kept) ||| bits

/-- The changes that are written behind the letters of those who are affected, with what
follows them. -/
def changes? (affected : Mode) : (fuel : Nat) → Octets → Option (List Change × Octets)
  | 0, _ => none
  | fuel + 1, operator :: rest =>
    let (rights, rest) : Rights × Octets := match rest with
      | 'u' :: rest => (.copied 0o700, rest)
      | 'g' :: rest => (.copied 0o070, rest)
      | 'o' :: rest => (.copied 0o007, rest)
      | rest =>
        let (letters, rest) := rest.span fun c => c = 'X' || (rightBits? c).isSome
        let bits := (letters.filterMap rightBits?).foldl (· ||| ·) 0
        (if letters.contains 'X' then .someRuns bits else .bits bits, rest)
    let mentioned : Mode := match rights with
      | .bits bits | .someRuns bits => if affected = 0 then bits else affected &&& bits
      | .copied _ => 0
    let change : Change := { operator, affected, rights, mentioned }
    if rest.head?.any "+-=".toList.contains then
      (changes? affected fuel rest).map fun (changes, rest) => (change :: changes, rest)
    else some ([change], rest)
  | _, [] => none

/-- The changes of a clause, if it is one. -/
def clause? (text : Octets) : Option (List Change) :=
  let (who, rest) := text.span fun c => (whoBits? c).isSome
  let affected := (who.filterMap whoBits?).foldl (· ||| ·) 0
  let isOctal (c : Char) : Bool := '0' ≤ c && c ≤ '7'
  match rest with
  | operator :: digits =>
    if !"+-=".toList.contains operator then none
    else if digits.head?.any isOctal then
      let bits := Octets.valueOf 8 digits
      if affected = 0 ∧ digits.all isOctal ∧ bits ≤ all then
        some [{ operator, affected := all, rights := .bits bits, mentioned := all }]
      else none
    else
      match changes? affected (rest.length + 1) rest with
      | some (changes, []) => some changes
      | _ => none
  | [] => none

/-- What a text does to modes, if it is the text of a mode. -/
def ofText? (text : Octets) : Option (Subject → Mode → Mode) :=
  if text.head?.any fun c => '0' ≤ c && c ≤ '7' then
    let m := Octets.valueOf 8 text
    let mentioned := if text.length < 5 then (m &&& 0o7000) ||| 0o777 else all
    if m ≤ all ∧ text.all fun c => '0' ≤ c && c ≤ '7' then
      some fun subject before =>
        Change.apply subject before
          { operator := '=', affected := all, rights := .bits m, mentioned }
    else none
  else do
    let changes ← (Text.split ',' text).mapM clause?
    return fun subject m => changes.flatten.foldl (Change.apply subject) m

/-! ## Showing -/

/-- A mode as letters, those in front of the rights as they change the letters for
running. -/
def letters (m : Mode) : Octets :=
  let three (place special : Nat) (both alone : Char) : Octets :=
    let rights := m / place % 8
    [if rights / 4 % 2 = 1 then 'r' else '-', if rights / 2 % 2 = 1 then 'w' else '-',
      match rights % 2, m / special % 2 with
      | 0, 0 => '-'
      | _, 0 => 'x'
      | 0, _ => alone
      | _, _ => both]
  three 64 0o4000 's' 'S' ++ three 8 0o2000 's' 'S' ++ three 1 0o1000 't' 'T'

/-- A mode as octal digits. -/
def digits (m : Mode) : Octets :=
  Octets.digits 8 m

/-- A mode as four octal digits, and as letters. -/
def shown (m : Mode) : Octets :=
  List.replicate (4 - (digits m).length) '0' ++ digits m ++ ' ' :: '(' :: letters m ++ [')']

end ComponentReference.Mode
