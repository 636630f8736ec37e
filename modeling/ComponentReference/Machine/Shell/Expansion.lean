import ComponentReference.Machine.Shell.Pattern
import ComponentReference.Machine.Shell.State

/-!
# Expanding words

A word is expanded in steps: a tilde becomes a home directory, parameters, commands and
arithmetic become their values, what is not quoted of these is divided into fields, and
a field that is a pattern becomes the paths that match it.
-/

namespace ComponentReference.Shell

/-- An element of an expanded word. -/
inductive Symbol where
  /-- An octet; one that is the value of something may divide fields. -/
  | octet (c : Char) (quoted valued : Bool)
  /-- The place of quotes, which make a field even around nothing. -/
  | quotes
  /-- A border between fields. -/
  | border
deriving DecidableEq, Repr

namespace Symbol

/-- The symbols of octets. -/
def ofOctets (quoted valued : Bool) (s : Octets) : List Symbol :=
  (if quoted then [quotes] else []) ++ s.map (octet · quoted valued)

/-- The octets of symbols, each with whether it is quoted. -/
def marks (symbols : List Symbol) : List Mark :=
  symbols.filterMap fun
    | octet c quoted _ => some ⟨c, quoted⟩
    | _ => none

/-- The octets of symbols. -/
def octets (symbols : List Symbol) : Octets :=
  (marks symbols).map Mark.octet

/-! ## Fields -/

/-- The fields that have been divided off so far. -/
structure Division where
  /-- The fields, the latest first, each backwards. -/
  done : List (List Mark) := []
  /-- The field that is being made, backwards. -/
  current? : Option (List Mark) := none
  /-- Whether a blank has ended the last field, to which a separator may still belong. -/
  afterBlank : Bool := false

namespace Division

/-- The division after the end of a field, unless there is none. -/
def ended (d : Division) : Division :=
  match d.current? with
  | some field => { done := field :: d.done, current? := none, afterBlank := true }
  | none => d

/-- The division after one more symbol. -/
def step (separators : Octets) (d : Division) : Symbol → Division
  | quotes => { d with current? := some (d.current?.getD []), afterBlank := false }
  | border => { d.ended with afterBlank := false }
  | octet c quoted valued =>
    if !quoted && valued && separators.contains c then
      if c = ' ' ∨ c = '\t' ∨ c = '\n' then d.ended
      else
        match d.current? with
        | some field => { done := field :: d.done }
        | none => if d.afterBlank then { done := d.done } else { done := [] :: d.done }
    else { d with current? := some (⟨c, quoted⟩ :: d.current?.getD []), afterBlank := false }

end Division

/-- The fields that symbols make up. -/
def fields (separators : Octets) (symbols : List Symbol) : List (List Mark) :=
  let d := symbols.foldl (Division.step separators) {}
  (d.current?.toList ++ d.done).reverse.map List.reverse

end Symbol

/-! ## Tildes -/

/-- The home directories of the system's users. -/
def systemHomes : List (String × String) :=
  [("root", "/root"), ("daemon", "/usr/sbin"), ("bin", "/bin"), ("sys", "/dev"), ("sync", "/bin"),
    ("games", "/usr/games"), ("man", "/var/cache/man"), ("lp", "/var/spool/lpd"),
    ("mail", "/var/mail"), ("news", "/var/spool/news"), ("uucp", "/var/spool/uucp"),
    ("proxy", "/bin"), ("www-data", "/var/www"), ("backup", "/var/backups"),
    ("list", "/var/list"), ("irc", "/run/ircd"), ("_apt", "/nonexistent"),
    ("nobody", "/nonexistent")]

/-- The home directory of the user whose name follows a tilde, if it is known. -/
def Own.home? (own : Own) (user : Octets) : Option Octets :=
  if user.isEmpty then own.named "HOME"
  else (systemHomes.lookup (String.ofList user)).map String.toList

/-- The home directory that a tilde at the beginning of octets stands for, and what
follows.  A user's name has to end before the next piece of the word begins. -/
def Own.homeAt? (own : Own) (inSetting isLast : Bool) : Octets → Option (Octets × Octets)
  | '~' :: s =>
    let (user, after) := s.span fun c => c ≠ '/' ∧ !(inSetting ∧ c = ':')
    if after.isEmpty ∧ !isLast then none else (own.home? user).map (·, after)
  | _ => none

/-- The word with a tilde at its beginning replaced by a home directory. -/
def Own.withHome (own : Own) (inSetting : Bool) : Word → Word
  | .text s false :: rest =>
    match own.homeAt? inSetting rest.isEmpty s with
    | some (home, after) => .text home true :: Word.withText after false rest
    | none => .text s false :: rest
  | w => w

/-- The value in a setting with the tildes replaced that begin it or follow a colon. -/
def Own.withHomes (own : Own) : Word → Word
  | .text s false :: rest =>
    let parts := Text.split ':' s
    let last := parts.length - 1
    let words := parts.zipIdx.map fun (part, i) =>
      let w := own.withHome true (.text part false :: if i = last then rest else [])
      if i = 0 then w else .text [':'] false :: w
    words.flatten
  | w => w

/-! ## Parameters -/

/-- The value of a parameter, if it has one. -/
def Own.parameter? (own : Own) (name : Octets) : Option Octets :=
  match name with
  | ['#'] => some (Octets.ofNat own.arguments.length)
  | ['$'] => some (Octets.ofNat own.number)
  | ['?'] => some (Octets.ofNat own.status)
  | ['-'] => some (Own.optionLetters.reverse.filter own.has)
  | ['!'] => own.background?.map Octets.ofNat
  | ['0'] => some own.name
  | ['@'] | ['*'] =>
    if own.arguments.isEmpty then none
    else some (Octets.join (own.separators.take 1) own.arguments)
  | c :: _ =>
    if c.isDigit then own.arguments[Octets.valueOf 10 name - 1]? else own.value? name
  | [] => none

/-- The symbols of the value of a parameter.  Where fields are divided, all arguments
without quotes, or each by itself in quotes, are as many fields; elsewhere the first
separator stands between them. -/
def Own.symbols (own : Own) (dividing quoted : Bool) (name value : Octets) : List Symbol :=
  let several := name = ['@'] ∨ (name = ['*'] ∧ !quoted)
  if several ∧ dividing then
    ((own.arguments.map (Symbol.ofOctets quoted true)).intersperse [.border]).flatten
  else if name = ['@'] ∧ own.isLarge then Symbol.ofOctets quoted true (Octets.unwords own.arguments)
  else Symbol.ofOctets quoted true value

namespace Sh

/-- Complains that a parameter has no value. -/
def refuseUnset {α : Type} (name : Octets) (reason : Octets) : Sh α :=
  fail (name ++ Octets.ofString ": " ++ reason)

/-- How the octets that a script writes become part of a word. -/
abbrev Substitution := Script → Sh Octets

/-- How a word is expanded. -/
structure Manner where
  /-- Whether fields are divided afterwards. -/
  dividing : Bool
  /-- Whether what is not quoted is the value of something. -/
  valued : Bool := false
  /-- Whether all of it is quoted. -/
  quoted : Bool := false

mutual

/-- The symbols of a piece of a word. -/
def expandPiece (substitute : Substitution) (manner : Manner) : Piece → Sh (List Symbol)
  | .text s quoted =>
    return Symbol.ofOctets (quoted || manner.quoted) manner.valued s
  | .output script quoted => do
    let output ← substitute script
    let trimmed := (output.reverse.dropWhile (· = '\n')).reverse
    return Symbol.ofOctets (quoted || manner.quoted) true (trimmed.filter (· ≠ Char.ofNat 0))
  | .sum word quoted => do
    let symbols ← expandPieces substitute { dividing := false, quoted := true } word
    let text := Symbol.octets symbols
    let own ← own
    match Sum.evaluate own.parameter? text with
    | .error fault => fail (fault.message text)
    | .ok (value, assigned) =>
      for (name, value) in assigned do assign name value
      return Symbol.ofOctets (quoted || manner.quoted) true (Octets.ofInt value)
  | .parameter name change word quoted => do
    let quoted := quoted || manner.quoted
    let own ← own
    let value? := own.parameter? name
    let isAll := name = ['@'] ∨ name = ['*']
    let symbols (value : Octets) : List Symbol := own.symbols manner.dividing quoted name value
    let missing (emptyToo : Bool) : Bool := match value? with
      | none => true
      | some value => emptyToo && value.isEmpty
    let inside : Manner := { manner with valued := true }
    let plain : Sh Octets := do
      match value? with
      | some value => return value
      | none =>
        if own.has 'u' ∧ !isAll then
          refuseUnset name (Octets.ofString
            (if own.isLarge then "unbound variable" else "parameter not set"))
        return []
    match change with
    | .unknown => fail (Octets.ofString "Bad substitution")
    | .plain => return symbols (← plain)
    | .count =>
      let value ← plain
      let n := if isAll ∧ own.isLarge then own.arguments.length else value.length
      return Symbol.ofOctets quoted true (Octets.ofNat n)
    | .fallback emptyToo =>
      if missing emptyToo then expandHomed substitute inside word
      else return symbols (value?.getD [])
    | .replaced emptyToo =>
      if missing emptyToo then return []
      else expandHomed substitute inside word
    | .assigned emptyToo =>
      if missing emptyToo then
        let value := Symbol.octets (← expandHomed substitute { dividing := false } word)
        if !isName name then fail (name ++ Octets.ofString ": bad variable name")
        assign name value
        return Symbol.ofOctets quoted true value
      else return symbols (value?.getD [])
    | .demanded emptyToo =>
      if missing emptyToo then
        let reason := Symbol.octets (← expandHomed substitute { dividing := false } word)
        let unset := Octets.ofString
          (if emptyToo then "parameter not set or null" else "parameter not set")
        refuseUnset name (if word.isEmpty then unset else reason)
      else return symbols (value?.getD [])
    | .withoutStart longest =>
      let value ← plain
      let pattern ← expandHomed substitute { dividing := false } word
      return Symbol.ofOctets quoted true
        (Pattern.dropStart (Pattern.ofWord (Symbol.marks pattern)) longest value)
    | .withoutEnd longest =>
      let value ← plain
      let pattern ← expandHomed substitute { dividing := false } word
      return Symbol.ofOctets quoted true
        (Pattern.dropEnd (Pattern.ofWord (Symbol.marks pattern)) longest value)

/-- The symbols of a word, with a tilde at its beginning replaced. -/
def expandHomed (substitute : Substitution) (manner : Manner) : Word → Sh (List Symbol)
  | [] => return []
  | .text s false :: rest => do
    let (home, after) := match (← own).homeAt? false rest.isEmpty s with
      | some (home, after) => (Symbol.ofOctets true false home, after)
      | none => ([], s)
    return home ++ Symbol.ofOctets manner.quoted manner.valued after ++
      (← expandPieces substitute manner rest)
  | piece :: rest => do
    return (← expandPiece substitute manner piece) ++ (← expandPieces substitute manner rest)

/-- The symbols of a word. -/
def expandPieces (substitute : Substitution) (manner : Manner) : Word → Sh (List Symbol)
  | [] => return []
  | piece :: rest => do
    return (← expandPiece substitute manner piece) ++ (← expandPieces substitute manner rest)

end

end Sh

end ComponentReference.Shell
