import ComponentReference.Machine.Regular.Reader
import ComponentReference.Machine.Tool.Calling
import ComponentReference.Machine.Tool.Telling

/-!
# Finding files

What is at and below paths is gone through, and an expression says for which of it
something is done.
-/

namespace ComponentReference.Tool

/-- A condition on what is found, or something that is done with it. -/
inductive Finding where
  | always
  | never
  | name (ignoresCase whole : Bool) (pattern : Octets)
  /-- The target of a link is one that a pattern matches. -/
  | target (ignoresCase : Bool) (pattern : Octets)
  | path (manner : Regular.Manner) (r : Regular)
  | kind (ofTarget : Bool) (letters : List Char)
  | isEmpty
  | isLarge (relation : Ordering) (count unit : Nat)
  /-- It has so many names. -/
  | hasLinks (relation : Ordering) (count : Nat)
  /-- All bits of a mode are set, or any, or exactly these. -/
  | mode (relation : Char) (bits : Mode)
  | mayBe (right : Char)
  | isOwned (byRoot : Bool)
  /-- It has been changed after a moment. -/
  | changedAfter (moment : Moment)
  /-- It was changed so many units ago. -/
  | changedAgo (relation : Ordering) (count : Nat) (unit : Moment)
  | isSame (place : Location)
  | print (ending : Char) (file? : Option Octets)
  | printAs (format : Octets) (file? : Option Octets)
  | list
  | run (words : List Octets) (inDirectory asks : Bool)
  /-- Runs a program once for all that is found. -/
  | collect (words : List Octets) (inDirectory : Bool)
  | delete
  | prune
  | quit
  | not (f : Finding)
  | both (f g : Finding)
  | either (f g : Finding)
  /-- The first one does not matter but for what it does. -/
  | andThen (f g : Finding)

namespace Finding

/-- Whether an expression does something, so that paths are not just shown. -/
def acts : Finding → Bool
  | print _ _ | printAs _ _ | list | run _ _ _ | collect _ _ | delete | quit => true
  | not f => f.acts
  | both f g | either f g | andThen f g => f.acts || g.acts
  | _ => false

/-- Whether files are gone through from the inside. -/
def deletes : Finding → Bool
  | delete => true
  | not f => f.deletes
  | both f g | either f g | andThen f g => f.deletes || g.deletes
  | _ => false

end Finding

/-- How paths are gone through. -/
structure FindPlan where
  least : Nat := 0
  most? : Option Nat := none
  insideFirst : Bool := false
  /-- Whether links are followed: nowhere, at the paths that are given, or everywhere. -/
  follows : Nat := 0
  style : Regular.Style := { barePlus := true, emptyRanges := true }
  expression : Finding := .always
  /-- What is warned of before anything is found. -/
  warnings : List Octets := []

/-- What has been found so far. -/
structure FindState where
  collected : List (List Octets × List Octets) := []
  status : Nat := 0
  stopped : Bool := false
  /-- What has been written to files. -/
  written : List (Octets × Octets) := []

/-- What is known where the words of an expression are read. -/
structure FindContext where
  /-- The moment at which a file was changed, and where it is, if it is there. -/
  file : Octets → Except Errno (Moment × Location)
  present : Moment

/-- What reads the words of an expression. -/
abbrev FindReader := ReaderT FindContext (StateT (List Octets × FindPlan) (Except Octets))

namespace FindReader

/-- The next word. -/
def next? : FindReader (Option Octets) := do
  let (words, plan) ← get
  match words with
  | [] => return none
  | w :: rest =>
    set (rest, plan)
    return some w

/-- A word between quotes. -/
def marked (word : Octets) : Octets :=
  '\x60' :: word ++ ['\'']

/-- The value behind a word. -/
def value (word : Octets) : FindReader Octets := do
  match ← next? with
  | some v => return v
  | none => throw (Octets.ofString "missing argument to " ++ marked word)

/-- The words of a command up to its end, and whether that stands for all that is found. -/
def command (word : Octets) : (fuel : Nat) → FindReader (List Octets × Bool)
  | 0 => throw []
  | fuel + 1 => do
    match ← next? with
    | none => throw (Octets.ofString "missing argument to " ++ marked word)
    | some [';'] => return ([], false)
    | some w =>
      let (words, _) ← get
      if w = "\x7b\x7d".toList ∧ words.head? = some ['+'] then
        let _ ← next?
        return ([], true)
      let (more, all) ← command word fuel
      return (w :: more, all)

/-- A number behind a sign, and how what is found compares with it. -/
def measure (word s : Octets) : FindReader (Ordering × Nat) := do
  let (relation, digits) : Ordering × Octets := match s with
    | '+' :: digits => (.gt, digits)
    | '-' :: digits => (.lt, digits)
    | digits => (.eq, digits)
  match Octets.nat? digits with
  | some n => return (relation, n)
  | none => throw (Octets.ofString "invalid argument " ++ marked s ++ Octets.ofString " to " ++ marked word)

/-- A depth. -/
def depth (word : Octets) : FindReader Nat := do
  let s ← value word
  match Octets.nat? s with
  | some n => return n
  | none => throw (Octets.ofString "Expected a positive decimal integer argument to " ++ word ++
      Octets.ofString ", but got " ++ quoted s)

/-- What is known of a file that is named in the expression. -/
def file (name : Octets) : FindReader (Moment × Location) := do
  match (← read).file name with
  | .ok known => return known
  | .error errno => throw (quoted name ++ Octets.ofString (": " ++ errno.message))

/-- A regular expression. -/
def expression (ignoresCase : Bool) (text : Octets) : FindReader Finding := do
  let (_, plan) ← get
  match Octets.toString? text with
  | none => return .never
  | some s =>
    match Regular.ofText plan.style s.toList with
    | .ok r => return .path { ignoresCase } r
    | .error fault => throw (Octets.ofString "failed to compile regular expression '" ++ text ++
        Octets.ofString ("': " ++ fault.message))

/-- The ways of writing regular expressions, by name. -/
def styles : List (String × Regular.Style) :=
  [("findutils-default", { barePlus := true, emptyRanges := true }), ("ed", {}),
    ("emacs", { barePlus := true, emptyRanges := true }),
    ("gnu-awk", { extended := true }), ("grep", {}), ("posix-awk", { extended := true }),
    ("awk", { extended := true }), ("posix-basic", {}), ("posix-egrep", { extended := true }),
    ("egrep", { extended := true }), ("posix-extended", { extended := true }),
    ("posix-minimal-basic", {}), ("sed", {})]

/-- What to warn of in a format. -/
def formatWarnings : (fuel : Nat) → Octets → List Octets
  | 0, _ | _, [] => []
  | fuel + 1, '\\' :: c :: rest =>
    if "abfnrtv0\\c".toList.contains c ∨ c.isDigit then formatWarnings fuel rest
    else (Octets.ofString "warning: unrecognized escape " ++ marked ['\\', c]) :: formatWarnings fuel rest
  | fuel + 1, '%' :: rest =>
    let after := rest.dropWhile fun c => "-0# .".toList.contains c || c.isDigit
    match after with
    | c :: rest =>
      if "%pfhPHdsylmMnugUGikbYFDtacTACZSB".toList.contains c then formatWarnings fuel rest
      else (Octets.ofString "warning: unrecognized format directive " ++ marked ['%', c]) ::
        formatWarnings fuel rest
    | [] => []
  | fuel + 1, _ :: rest => formatWarnings fuel rest

/-- The letters of kinds behind commas. -/
def kinds (word s : Octets) : FindReader (List Char) := do
  let parts := Text.split ',' s
  parts.mapM fun part => do
    match part with
    | [c] =>
      if "bcdpflsD".toList.contains c then return c
      throw (Octets.ofString "Unknown argument to " ++ word ++ Octets.ofString ": " ++ [c])
    | c :: _ =>
      if "bcdpflsD".toList.contains c then
        throw (Octets.ofString "Must separate multiple arguments to " ++ word ++
          Octets.ofString " using: ','")
      throw (Octets.ofString "Unknown argument to " ++ word ++ Octets.ofString ": " ++ [c])
    | [] => throw (Octets.ofString "Arguments to " ++ word ++ Octets.ofString " should contain at least one letter")

/-- What a word with its values asks of what is found, if it is no joint. -/
def primary (w : Octets) : FindReader Finding := do
  let plan (change : FindPlan → FindPlan) : FindReader Finding := do
    modify fun (words, p) => (words, change p)
    return .always
  let warn (warnings : List Octets) : FindReader Unit :=
    modify fun (words, p) => (words, { p with warnings := p.warnings ++ warnings })
  match String.ofList w with
  | "-name" => return .name false false (← value w)
  | "-iname" => return .name true false (← value w)
  | "-path" | "-wholename" => return .name false true (← value w)
  | "-ipath" | "-iwholename" => return .name true true (← value w)
  | "-lname" => return .target false (← value w)
  | "-ilname" => return .target true (← value w)
  | "-regex" => expression false (← value w)
  | "-iregex" => expression true (← value w)
  | "-regextype" =>
    let name ← value w
    match styles.lookup (String.ofList name) with
    | some style => plan fun p => { p with style }
    | none => throw (Octets.ofString "Unknown regular expression type " ++ quoted name ++
        Octets.ofString "; valid types are " ++
        Octets.join ", ".toList (styles.map fun (name, _) => quoted name.toList) ++ ['.'])
  | "-type" => return .kind false (← kinds w (← value w))
  | "-xtype" => return .kind true (← kinds w (← value w))
  | "-empty" => return .isEmpty
  | "-true" => return .always
  | "-false" => return .never
  | "-print" => return .print '\n' none
  | "-print0" => return .print (Char.ofNat 0) none
  | "-fprint" => return .print '\n' (some (← value w))
  | "-fprint0" => return .print (Char.ofNat 0) (some (← value w))
  | "-printf" =>
    let format ← value w
    warn (formatWarnings (format.length + 1) format)
    return .printAs format none
  | "-fprintf" =>
    let name ← value w
    let format ← value w
    warn (formatWarnings (format.length + 1) format)
    return .printAs format (some name)
  | "-ls" => return .list
  | "-delete" => return .delete
  | "-prune" => return .prune
  | "-quit" => return .quit
  | "-size" =>
    let s ← value w
    let units := [('c', 1), ('k', 1024), ('M', 1048576), ('G', 1073741824), ('w', 2), ('b', 512)]
    match s.getLast? with
    | none => throw (Octets.ofString "invalid null argument to -size")
    | some c =>
      match units.lookup c with
      | some unit =>
        let (relation, n) ← measure w s.dropLast
        return .isLarge relation n unit
      | none =>
        if c.isDigit then
          let (relation, n) ← measure w s
          return .isLarge relation n 512
        throw (Octets.ofString "invalid -size type " ++ marked [c])
  | "-links" =>
    let (relation, n) ← measure w (← value w)
    return .hasLinks relation n
  | "-inum" =>
    let _ ← measure w (← value w)
    return .never
  | "-perm" =>
    let s ← value w
    let (relation, text) : Char × Octets := match s with
      | '-' :: text => ('-', text)
      | '/' :: text => ('/', text)
      | text => ('=', text)
    match Mode.ofText? text with
    | some change => return .mode relation (change {} 0)
    | none => throw (Octets.ofString "invalid mode " ++ quoted s)
  | "-readable" => return .mayBe 'r'
  | "-writable" => return .mayBe 'w'
  | "-executable" => return .mayBe 'x'
  | "-user" | "-group" =>
    let name ← value w
    if name = "root".toList ∨ name = ['0'] then return .isOwned true
    if (Octets.nat? name).isSome then return .isOwned false
    throw (quoted name ++ Octets.ofString (" is not the name of a" ++
      (if w = "-user".toList then " known user" else "n existing group")))
  | "-uid" | "-gid" =>
    let (_, n) ← measure w (← value w)
    return .isOwned (n = 0)
  | "-nouser" | "-nogroup" => return .never
  | "-newer" | "-anewer" | "-cnewer" | "-newermm" =>
    let (moment, _) ← file (← value w)
    return .changedAfter moment
  | "-newermt" =>
    let text ← value w
    match Moment.ofText? (← read).present text with
    | some moment => return .changedAfter moment
    | none => throw (Octets.ofString "I cannot figure out how to interpret " ++ quoted text ++
        Octets.ofString " as a date or time")
  | "-mmin" | "-amin" | "-cmin" =>
    let (relation, n) ← measure w (← value w)
    return .changedAgo relation n (60 * secondSize)
  | "-mtime" | "-atime" | "-ctime" =>
    let (relation, n) ← measure w (← value w)
    return .changedAgo relation n (86400 * secondSize)
  | "-samefile" =>
    let (_, place) ← file (← value w)
    return .isSame place
  | "-maxdepth" =>
    let n ← depth w
    plan fun p => { p with most? := some n }
  | "-mindepth" =>
    let n ← depth w
    plan fun p => { p with least := n }
  | "-depth" | "-d" => plan fun p => { p with insideFirst := true }
  | "-follow" => plan fun p => { p with follows := 2 }
  | "-mount" | "-xdev" | "-noleaf" | "-daystart" | "-warn" | "-nowarn" | "-ignore_readdir_race"
  | "-noignore_readdir_race" => return .always
  | "-exec" | "-execdir" | "-ok" | "-okdir" =>
    let (words, all) ← command w ((← get).1.length + 1)
    let inDirectory := w = "-execdir".toList ∨ w = "-okdir".toList
    let asks := w = "-ok".toList ∨ w = "-okdir".toList
    if words.isEmpty then throw (Octets.ofString "missing argument to " ++ marked w)
    return if all then .collect words inDirectory else .run words inDirectory asks
  | _ =>
    if w.head? = some '-' then throw (Octets.ofString "unknown predicate " ++ marked w)
    else throw (Octets.ofString "paths must precede expression: " ++ marked w)

/-- Complains of a joint of which a side is missing. -/
def lonely {α : Type} (w : Octets) : FindReader α :=
  throw (Octets.ofString "invalid expression; you have used a binary operator '" ++ w ++
    Octets.ofString "' with nothing before it.")

/-- Whether a word joins two conditions of which one has to hold. -/
def isEither (w : Octets) : Bool :=
  w = "-o".toList || w = "-or".toList

/-- Whether a word joins two conditions of which each has to hold. -/
def isBoth (w : Octets) : Bool :=
  w = "-a".toList || w = "-and".toList

mutual

/-- Conditions behind commas. -/
def inTurn : (fuel : Nat) → FindReader Finding
  | 0 => throw []
  | fuel + 1 => do
    let first ← either fuel
    match (← get).1 with
    | [','] :: rest =>
      let _ ← next?
      if rest.isEmpty then throw (Octets.ofString "expected an expression after ','")
      return .andThen first (← inTurn fuel)
    | _ => return first

/-- Conditions of which one has to hold. -/
def either : (fuel : Nat) → FindReader Finding
  | 0 => throw []
  | fuel + 1 => do
    let first ← both fuel
    match (← get).1 with
    | w :: rest =>
      if !isEither w then return first
      let _ ← next?
      if rest.isEmpty then
        throw (Octets.ofString "expected an expression after '" ++ w ++ Octets.ofString "'")
      return .either first (← either fuel)
    | [] => return first

/-- Conditions of which each has to hold. -/
def both : (fuel : Nat) → FindReader Finding
  | 0 => throw []
  | fuel + 1 => do
    let first ← single fuel
    match (← get).1 with
    | [] | [','] :: _ | [')'] :: _ => return first
    | w :: rest =>
      if isEither w then return first
      else if isBoth w then
        let _ ← next?
        if rest.isEmpty then
          throw (Octets.ofString "expected an expression after '" ++ w ++ Octets.ofString "'")
        return .both first (← both fuel)
      else return .both first (← both fuel)

/-- One condition. -/
def single : (fuel : Nat) → FindReader Finding
  | 0 => throw []
  | fuel + 1 => do
    match ← next? with
    | none => throw (Octets.ofString "expected an expression")
    | some w =>
      match String.ofList w with
      | "(" =>
        match (← get).1 with
        | [] => throw (Octets.ofString
            "invalid expression; expected to find a ')' but didn't see one. Perhaps you need an extra predicate after '('")
        | [')'] :: _ => throw (Octets.ofString
            "invalid expression; empty parentheses are not allowed.")
        | _ =>
          let inner ← inTurn fuel
          match ← next? with
          | some [')'] => return inner
          | _ => throw (Octets.ofString
              "invalid expression; I was expecting to find a ')' somewhere but did not see one.")
      | ")" => throw (Octets.ofString "invalid expression; you have too many ')'")
      | "!" | "-not" =>
        if (← get).1.isEmpty then
          throw (Octets.ofString "expected an expression after '" ++ w ++ Octets.ofString "'")
        return .not (← single fuel)
      | _ =>
        if isEither w || isBoth w || w = [','] then lonely w
        primary w

end

end FindReader

/-! ## What has been found -/

/-- What has been found: its path, the path that it is below, and how far. -/
structure FoundFile where
  path : Octets
  root : Octets
  depth : Nat
  place : Location
  entry : Entry
  /-- Whether it was found by following a link. -/
  isFollowed : Bool := false

/-- Whether an entry is of a kind that a letter tells. -/
def isOfKind (e : Entry) (letter : Char) : Bool :=
  let actual := kindLetter e
  letter = if actual = '-' then 'f' else actual

/-- Words with what has been found in place of braces. -/
def withFound (path : Octets) (words : List Octets) : List Octets :=
  words.map fun word => substituted "\x7b\x7d".toList path (word.length + 1) word

namespace FoundFile

/-- The path below the one that was given. -/
def pathBelow (f : FoundFile) : Octets :=
  if f.depth = 0 then [] else (f.path.drop f.root.length).dropWhile (· = '/')

/-- The directory of a path, as it is shown. -/
def directory (f : FoundFile) : Octets :=
  let trimmed := withoutSlashes f.path
  if trimmed.contains '/' then
    let before := (trimmed.reverse.dropWhile (· ≠ '/')).drop 1
    if before.isEmpty then [] else before.reverse
  else ['.']

/-- What a directive of a format stands for, but for times. -/
def directive (f : FoundFile) (known : Known) (target? : Option Char) (c : Char) : Octets :=
  let letter := let c := kindLetter f.entry; if c = '-' then 'f' else c
  match c with
  | 'p' => f.path
  | 'f' => lastName f.path
  | 'h' => f.directory
  | 'P' => f.pathBelow
  | 'H' => f.root
  | 'd' => Octets.ofNat f.depth
  | 's' => Octets.ofNat (sizeOf f.entry)
  | 'y' => [letter]
  | 'Y' => [target?.getD 'N']
  | 'l' =>
    match f.entry with
    | .link target => Octets.ofString target
    | _ => []
  | 'm' => Mode.digits known.attributes.mode
  | 'M' => kindLetter f.entry :: Mode.letters known.attributes.mode
  | 'n' => Octets.ofNat known.links
  | 'u' | 'g' => "root".toList
  | 'U' | 'G' => ['0']
  | 'i' => ['1']
  | 'k' => Octets.ofNat (blocksOf f.entry)
  | 'b' => Octets.ofNat (2 * blocksOf f.entry)
  | 'F' => "ext4".toList
  | 't' | 'a' | 'c' =>
    Moment.shownAs "%a %b %e %H:%M:%S.%N0 %Y".toList known.attributes.changed
  | 'D' => ['0']
  | _ => []

/-- A format, filled in. -/
def inFormat (f : FoundFile) (known : Known) (target? : Option Char) : (fuel : Nat) → Octets → Octets
  | 0, _ => []
  | _, [] => []
  | fuel + 1, '\\' :: c :: rest =>
    let simple := [('n', 10), ('t', 9), ('r', 13), ('a', 7), ('b', 8), ('f', 12), ('v', 11), ('\\', 92)]
    match simple.lookup c with
    | some n => Char.ofNat n :: inFormat f known target? fuel rest
    | none =>
      if c = 'c' then []
      else if '0' ≤ c ∧ c ≤ '7' then
        let digits := ((c :: rest).take 3).takeWhile fun c => '0' ≤ c && c ≤ '7'
        Char.ofNat (Octets.valueOf 8 digits % 256) ::
          inFormat f known target? fuel ((c :: rest).drop digits.length)
      else '\\' :: c :: inFormat f known target? fuel rest
  | fuel + 1, '%' :: rest =>
    let (flags, after) := rest.span "-0# ".toList.contains
    let (width, after) := after.span Char.isDigit
    let (precision, after) := after.span fun c => c = '.' || c.isDigit
    match after with
    | '%' :: after => '%' :: inFormat f known target? fuel after
    | 'T' :: k :: after | 'A' :: k :: after | 'C' :: k :: after =>
      let time := known.attributes.changed
      let shown := match k with
        | '@' => Moment.shownAs "%s.%N0".toList time
        | '+' => Moment.shownAs "%Y-%m-%d+%H:%M:%S.%N0".toList time
        | 'S' => Moment.shownAs "%S.%N0".toList time
        | 'T' | 'X' => Moment.shownAs "%H:%M:%S.%N0".toList time
        | 'c' => Moment.shownAs "%c".toList time
        | k => Moment.shownAs ['%', k] time
      Known.column flags (Octets.nat? width) shown ++ inFormat f known target? fuel after
    | c :: after =>
      if "pfhPHdsylmMnugUGikbYFDtac".toList.contains c then
        let value := f.directive known target? c
        let value := if precision.isEmpty then value else value.take (Octets.valueOf 10 (precision.drop 1))
        let value := if c = 'm' ∧ flags.contains '#' then '0' :: value else value
        Known.column flags (Octets.nat? width) value ++ inFormat f known target? fuel after
      else '%' :: inFormat f known target? fuel rest
    | [] => '%' :: rest
  | fuel + 1, c :: rest => c :: inFormat f known target? fuel rest

/-- All that is known, in a line. -/
def line (f : FoundFile) (known : Known) : Octets :=
  let target := match f.entry with
    | .link target => Octets.ofString " -> " ++ Octets.ofString target
    | _ => []
  Octets.unwords [padLeft 9 ['1'], padLeft 6 (Octets.ofNat (blocksOf f.entry)),
    kindLetter f.entry :: Mode.letters known.attributes.mode, padLeft 3 (Octets.ofNat known.links),
    padRight 8 "root".toList, padRight 8 "root".toList, padLeft 8 (Octets.ofNat (sizeOf f.entry)),
    Moment.shownAs "%b %e %H:%M".toList known.attributes.changed, f.path] ++ target ++ ['\n']

end FoundFile

/-- Writes what an expression gives out, to the output or to a file. -/
def giveOut (file? : Option Octets) (s : Octets) : StateT FindState Task Unit := do
  match file? with
  | none => (Task.write s : Task Unit)
  | some name =>
    modify fun state =>
      let before := (state.written.lookup name).getD []
      { state with written := Keyed.put Prod.fst (name, before ++ s) state.written }

/-- Runs a program for what has been found. -/
def runFor (launch : Launcher) (inDirectory : Bool) (f : FoundFile) (words : List Octets) :
    StateT FindState Task Bool := do
  match words with
  | [] => return false
  | name :: arguments =>
    let place := f.place.dropLast
    let act : Task (Except Errno Exit) := do run launch (← read).environment (name :: arguments)
    let act := if inDirectory then ReaderT.adapt (fun p => { p with directory := place }) act else act
    match ← (act : Task (Except Errno Exit)) with
    | .ok (.status 0) => return true
    | .ok _ => return false
    | .error errno =>
      Task.complain (quoted name ++ Octets.ofString (": " ++ errno.message))
      return false

/-- The path by which a program knows what has been found, if it works in the directory of
that. -/
def pathInside (f : FoundFile) (inDirectory : Bool) : Octets :=
  if inDirectory then (if f.path.head? = some '/' ∧ f.path.length = 1 then f.path else
    '.' :: '/' :: lastName f.path) else f.path

/-- Whether a pattern of names matches. -/
def isNamed (ignoresCase : Bool) (pattern name : Octets) : Bool :=
  let characters (s : Octets) : List Char :=
    let text := ((Octets.toString? s).map String.toList).getD s
    if ignoresCase then text.map Text.small else text
  Shell.Pattern.isMatch (Shell.Pattern.ofWord ((characters pattern).map fun c => { octet := c }))
    (characters name)

/-- Checks what has been found, and does what is to be done with it; gives whether the
expression holds, and whether what is below is left out. -/
def checkFound (launch : Launcher) (f : FoundFile) : Finding → StateT FindState Task (Bool × Bool)
  | .always => return (true, false)
  | .never => return (false, false)
  | .name ignoresCase whole pattern =>
    return (isNamed ignoresCase pattern (if whole then f.path else lastName f.path), false)
  | .target ignoresCase pattern =>
    return (match f.entry with
      | .link target => isNamed ignoresCase pattern (Octets.ofString target)
      | _ => false, false)
  | .path manner r =>
    match Octets.toString? f.path with
    | none => return (false, false)
    | some text =>
      let whole : Regular := .sequence (.edge .textStart) (.sequence r (.edge .textEnd))
      return (Regular.occursIn manner whole text.toList, false)
  | .kind false letters => return (letters.any (isOfKind f.entry), false)
  | .kind true letters => do
    match ← (Task.find f.path (!f.isFollowed) : Task (Except Errno (Location × Entry))) with
    | .ok (_, e) => return (letters.any (isOfKind e), false)
    | .error _ => return (letters.any (isOfKind f.entry), false)
  | .isEmpty =>
    match f.entry with
    | .file content => return (content.isEmpty, false)
    | .directory => return ((← (get : Task Machine)).files.children f.place |>.isEmpty, false)
    | .link _ | .device _ | .queue => return (false, false)
  | .isLarge relation n unit =>
    return (compare ((sizeOf f.entry + unit - 1) / unit) n == relation, false)
  | .hasLinks relation n => do
    let m ← (get : Task Machine)
    return (compare (linkCount m f.place f.entry) n == relation, false)
  | .mode relation bits => do
    let mode := ((← (get : Task Machine)).files.attributesAt f.place).mode
    return (match relation with
      | '-' => mode &&& bits == bits
      | '/' => bits == 0 || mode &&& bits != 0
      | _ => mode == bits, false)
  | .mayBe right => do
    let files := (← (get : Task Machine)).files
    return (match right with
      | 'r' => files.mayRead f.place
      | 'w' => files.mayWrite f.place
      | _ => files.mayRun f.place, false)
  | .isOwned byRoot => return (byRoot, false)
  | .changedAfter moment => do
    let changed := ((← (get : Task Machine)).files.attributesAt f.place).changed
    return (decide (moment < changed), false)
  | .changedAgo relation n unit => do
    let m ← (get : Task Machine)
    let age := (m.clock : Int) - (m.files.attributesAt f.place).changed
    let isMinutes := unit = 60 * secondSize
    return (match relation with
      | .gt => if isMinutes then decide (n * unit < age) else decide ((n + 1) * unit ≤ age)
      | .lt => decide (age < n * unit)
      | .eq => if isMinutes then decide ((n - 1 : Int) * unit < age ∧ age ≤ n * unit)
        else decide (n * unit ≤ age ∧ age < (n + 1) * unit), false)
  | .isSame place => do
    let m ← (get : Task Machine)
    return (f.place = place || (m.files.namesOf place).contains f.place, false)
  | .print ending file? => do
    giveOut file? (f.path ++ [ending])
    return (true, false)
  | .printAs format file? => do
    let known ← (knownAt f.path f.place f.entry : Task Known)
    let target? : Option Char := match ← (Task.find f.path : Task (Except Errno (Location × Entry))) with
      | .ok (_, e) => some (let c := kindLetter e; if c = '-' then 'f' else c)
      | .error .linkLoop => some 'L'
      | .error _ => none
    giveOut file? (f.inFormat known target? (format.length + 1) format)
    return (true, false)
  | .list => do
    let known ← (knownAt f.path f.place f.entry : Task Known)
    giveOut none (f.line known)
    return (true, false)
  | .run words inDirectory asks => do
    let path := pathInside f inDirectory
    if asks then
      Task.tell (Octets.ofString "< " ++ words.headD [] ++ Octets.ofString " ... " ++ path ++
        Octets.ofString " > ? ")
      let line ← (do
        match (← read).streams.lookup 0 with
        | some number => Task.attempt (Attempt.read number fun s => (s.takeWhile (· ≠ '\n')).length + 1)
        | none => return .ok [] : Task (Except Errno Octets))
      let isYes := match line with
        | .ok (c :: _) => c = 'y' ∨ c = 'Y'
        | _ => False
      if !isYes then return (false, false)
    return (← runFor launch inDirectory f (withFound path words), false)
  | .collect words inDirectory => do
    if inDirectory then
      let _ ← runFor launch true f (words ++ [pathInside f true])
      return (true, false)
    modify fun s =>
      let found := (s.collected.lookup words).getD []
      { s with collected := Keyed.put Prod.fst (words, found ++ [f.path]) s.collected }
    return (true, false)
  | .delete => do
    if lastName f.path = ['.'] then return (true, false)
    let result ← (do
      match f.entry with
      | .directory => removeEmpty f.path
      | _ => Task.attempt (Attempt.remove f.place) : Task (Except Errno Unit))
    match result with
    | .ok () => return (true, false)
    | .error errno =>
      Task.complain (Octets.ofString "cannot delete " ++ quoted f.path ++
        Octets.ofString (": " ++ errno.message))
      modify fun s => { s with status := 1 }
      return (false, false)
  | .prune => return (true, true)
  | .quit => do
    modify fun s => { s with stopped := true }
    return (true, false)
  | .not g => do
    let (holds, leaves) ← checkFound launch f g
    return (!holds, leaves)
  | .both g h => do
    let (holds, leaves) ← checkFound launch f g
    if !holds then return (false, leaves)
    if (← get).stopped then return (false, leaves)
    let (holds, more) ← checkFound launch f h
    return (holds, leaves || more)
  | .either g h => do
    let (holds, leaves) ← checkFound launch f g
    if holds then return (true, leaves)
    if (← get).stopped then return (true, leaves)
    let (holds, more) ← checkFound launch f h
    return (holds, leaves || more)
  | .andThen g h => do
    let (_, leaves) ← checkFound launch f g
    if (← get).stopped then return (true, leaves)
    let (holds, more) ← checkFound launch f h
    return (holds, leaves || more)

/-- Goes through what is at and below a path. -/
def findBelow (launch : Launcher) (plan : FindPlan) (root : Octets) :
    (fuel : Nat) → (depth : Nat) → (above : List Location) → Octets → StateT FindState Task Unit
  | 0, _, _, _ => return
  | fuel + 1, depth, above, path => do
    if (← get).stopped then return
    let follows := plan.follows = 2 || (plan.follows = 1 && depth = 0)
    let itself ← (findItself path : Task (Except Errno (Location × Entry)))
    let followed ← (Task.find path : Task (Except Errno (Location × Entry)))
    let found : Except Errno (Location × Entry) := match follows, itself, followed with
      | true, _, .ok found => .ok found
      | _, itself, _ => itself
    -- what cannot be looked at is known from the directory that it is in
    let known : Option (Location × Entry) ← match found, above.head? with
      | .error .denied, some directory => do
        let m ← (get : Task Machine)
        let place := childPlace directory (lastName path)
        pure ((m.files.get? place).map (place, ·))
      | _, _ => pure none
    let found : Except Errno (Location × Entry) := match known with
      | some known => .ok known
      | none => found
    let failed (message : Octets) : StateT FindState Task Unit := do
      Task.complain message
      modify fun s => { s with status := 1 }
    match found with
    | .error errno => failed (quoted path ++ Octets.ofString (": " ++ errno.message))
    | .ok (place, e) =>
      let isFollowed := match itself with
        | .ok (_, .link _) => follows
        | _ => false
      if e = .directory && above.contains place then
        failed (Octets.ofString "File system loop detected; " ++ quoted path ++
          Octets.ofString " is part of the same file system loop as " ++ quoted (loopStart above place root path) ++ ['.'])
      else
        let check : StateT FindState Task Bool := do
          if depth < plan.least then return false
          let (_, leaves) ← checkFound launch { path, root, depth, place, entry := e, isFollowed } plan.expression
          return leaves
        let inside : StateT FindState Task Unit := do
          if e = .directory ∧ plan.most?.all (depth < ·) then
            if !(← (get : Task Machine)).files.mayRead place then
              failed (quoted path ++ Octets.ofString (": " ++ Errno.denied.message))
            else
              for child in ← (childrenOf place : Task (List Octets)) do
                findBelow launch plan root fuel (depth + 1) (place :: above) (below path child)
        if plan.insideFirst then
          inside
          let _ ← check
        else
          let leaves ← check
          if !leaves then
            if !(← get).stopped then inside
where
  /-- The path of the directory at which a loop begins. -/
  loopStart (above : List Location) (place : Location) (root path : Octets) : Octets :=
    let up := (above.findIdx? (· = place)).getD 0 + 1
    let pieces := Text.split '/' path
    let kept := Octets.join ['/'] (pieces.take (pieces.length - up))
    if kept.length < root.length then root else kept

/-- What the files and the time say where an expression is read. -/
def findContext : Task FindContext := do
  let p ← read
  let m ← get
  let file (name : Octets) : Except Errno (Moment × Location) :=
    match ((Attempt.find p.directory name).run m).1 with
    | .ok (place, _) => .ok ((m.files.attributesAt place).changed, place)
    | .error errno => .error errno
  return { file, present := m.clock }

/-- Finds files. -/
def find (launch : Launcher) : Program := do
  let isMark (w : Octets) : Bool := w = ['-', 'L'] ∨ w = ['-', 'P'] ∨ w = ['-', 'H']
  let (marks, arguments) := (← read).arguments.span isMark
  let follows := match marks.getLast? with
    | some ['-', 'L'] => 2
    | some ['-', 'H'] => 1
    | _ => 0
  let isPath (w : Octets) : Bool := !(w.head? = some '-' && w.length > 1) && w ≠ ['('] && w ≠ ['!']
  let (paths, words) := arguments.span isPath
  let paths := if paths.isEmpty then [['.']] else paths
  let reader : FindReader Finding := if words.isEmpty then return .always
    else FindReader.inTurn (4 * words.length + 4)
  match (reader.run (← findContext)).run (words, { follows }) with
  | .error message => Task.refuse 1 message
  | .ok (_, [')'] :: _, _) =>
    Task.refuse 1 (Octets.ofString "invalid expression; you have too many ')'")
  | .ok (expression, _, plan) =>
    for warning in plan.warnings do
      Task.complain warning
    let expression := if expression.acts then expression else .both expression (.print '\n' none)
    let plan := { plan with expression, insideFirst := plan.insideFirst || expression.deletes }
    let ((), s) ← (paths.forM fun path => findBelow launch plan path 4096 0 [] path).run {}
    for (name, content) in s.written do
      let _ ← Task.writeFile .write name content
    s.collected.foldlM (fun status (words, found) => do
      match ← run launch (← read).environment (words ++ found) with
      | .ok (.status 0) => return status
      | .ok _ => return 1
      | .error errno =>
        Task.complain (quoted (words.headD []) ++ Octets.ofString (": " ++ errno.message))
        return 1) s.status

end ComponentReference.Tool
