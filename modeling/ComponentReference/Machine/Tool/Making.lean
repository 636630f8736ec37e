import ComponentReference.Machine.Mode
import ComponentReference.Machine.Tool.Moments
import ComponentReference.Machine.Tool.Removing

/-!
# Programs that make files

They make directories and empty files, and set the sizes and the times of files.
-/

namespace ComponentReference.Tool

/-! ## Directories -/

/-- Makes a directory. -/
def makeDirectory (name : Octets) (mode : Mode) : Task (Except Errno Unit) := do
  match ← locate (if withoutSlashes name = [] then name else withoutSlashes name)
      { followLast := false } with
  | .error errno => return .error errno
  | .ok ⟨_, some _⟩ => return .error .present
  | .ok ⟨place, none⟩ => Task.attempt (Attempt.make place .directory mode)

/-- Makes a directory of the mode that directories have for the program. -/
def makeOrdinaryDirectory (name : Octets) : Task (Except Errno Unit) := do
  makeDirectory name (Mode.without (← read).umask 0o777)

/-- Makes directories. -/
def mkdir : Program := do
  let a ← Options.taken { letters := "pvZ", valued := "m", words :=
    [("parents", 'p'), ("verbose", 'v'), ("mode", 'm')] }
  if a.operands.isEmpty then refuseMissing []
  let umask := (← read).umask
  let ordinary := Mode.without umask 0o777
  let mode ← match a.value? 'm' with
    | none => pure ordinary
    | some text =>
      match Mode.ofText? text with
      | none => Task.refuse 1 (Octets.ofString "invalid mode " ++ quoted text)
      | some change => pure (change { isDirectory := true, umask } 0o777)
  let failed (name : Octets) (errno : Errno) : Task Nat := do
    Task.complain (Octets.ofString "cannot create directory " ++ quoted name ++
      Octets.ofString (": " ++ errno.message))
    return 1
  let made (name : Octets) : Task Unit := do
    if a.has 'v' then
      Task.write (Octets.ofString "mkdir: created directory " ++ quotedName name ++ ['\n'])
  Task.worst a.operands fun name => do
    if a.has 'p' then
      for parent in (ancestors name.length name).reverse do
        if !(← Task.isDirectory parent) then
          match ← makeDirectory parent (ordinary ||| 0o300) with
          | .ok () => made parent
          | .error .present => return ← failed parent .notDirectory
          | .error errno => return ← failed parent errno
      if ← Task.isDirectory name then return 0
    match ← makeDirectory name mode with
    | .ok () =>
      made name
      return 0
    | .error errno => failed name errno

/-! ## Pipes with names -/

/-- The mode that an option asks for what is made, or the ordinary one. -/
def modeAsked (a : Arguments) : Task Mode := do
  let umask := (← read).umask
  match a.value? 'm' with
  | none => return Mode.without umask 0o666
  | some text =>
    match Mode.ofText? text with
    | none => Task.refuse 1 (Octets.ofString "invalid mode")
    | some change =>
      let mode := change { isDirectory := false, umask } 0o666
      if 0o777 < mode then Task.refuse 1 (Octets.ofString "mode must specify only file permission bits")
      return mode

/-- Makes an entry of a kind where nothing is. -/
def makeQueue (name : Octets) (mode : Mode) : Task (Except Errno Unit) := do
  match ← locate name { followLast := false } with
  | .error errno => return .error errno
  | .ok ⟨_, some _⟩ => return .error .present
  | .ok ⟨place, none⟩ => Task.attempt (Attempt.make place .queue mode)

/-- Makes pipes with names. -/
def mkfifo : Program := do
  let a ← Options.taken { letters := "Z", valued := "m", words := [("mode", 'm'), ("context", 'Z')] }
  if a.operands.isEmpty then refuseMissing []
  let mode ← modeAsked a
  Task.worst a.operands fun name => do
    match ← makeQueue name mode with
    | .ok () => return 0
    | .error errno =>
      complainFailed "cannot create fifo" name errno
      return 1

/-- Makes a file of a special kind; only pipes with names may be made. -/
def mknod : Program := do
  let a ← Options.taken { letters := "Z", valued := "m", words := [("mode", 'm'), ("context", 'Z')] }
  let mode ← modeAsked a
  let refused (message : Octets) (advice : String) : Task Nat := do
    Task.complain message
    Task.tell (Octets.ofString (advice ++ "\n"))
    refuseAdvised
  match a.operands with
  | [] => refuseMissing []
  | [name] => refuseMissing [name]
  | name :: ('p' :: _) :: rest =>
    match rest with
    | extra :: _ =>
      if rest.length = 2 then
        refused (Octets.ofString "extra operand " ++ quoted extra)
          "Fifos do not have major and minor device numbers."
      else refuseExtra extra
    | [] =>
      match ← makeQueue name mode with
      | .ok () => return 0
      | .error errno => Task.refuse 1 (shownName name ++ Octets.ofString (": " ++ errno.message))
  | [_, kind] =>
    refused (Octets.ofString "missing operand after " ++ quoted kind)
      "Special files require major and minor device numbers."
  | [_, _, major] => refuseMissing [major]
  | [name, kind, _, _] =>
    if !(["b".toList, "c".toList, "u".toList].contains (kind.take 1)) then
      refuseOperands (Octets.ofString "invalid device type " ++ quoted kind)
    Task.refuse 1 (shownName name ++ Octets.ofString ": Operation not permitted")
  | _ :: _ :: _ :: _ :: extra :: _ => refuseExtra extra
where
  /-- Advises to look at the help, and ends the program. -/
  refuseAdvised : Task Nat := do
    let title := (← read).title
    Task.tell (Octets.ofString "Try '" ++ title ++ Octets.ofString " --help' for more information.\n")
    Task.finish 1

/-! ## Names that nothing has yet -/

/-- The characters that stand in names which nothing has yet. -/
def nameLetters : List Char :=
  "abcdefghijklmnopqrstuvwxyzABCDEFGHIJKLMNOPQRSTUVWXYZ0123456789".toList

/-- So many characters that a number stands for, of which no two near numbers have the same. -/
def lettersOf : (count : Nat) → Nat → Octets
  | 0, _ => []
  | count + 1, n =>
    nameLetters.getD (n / 2 ^ 16 % nameLetters.length) 'x' ::
      lettersOf count ((n * 6364136223846793005 + 1442695040888963407) % 2 ^ 64)

/-- Makes a file or a directory with a name that nothing has yet, and shows it. -/
def mktemp : Program := do
  let a ← Options.taken { letters := "dqutV", valued := "ps", optional := "P", words :=
    [("directory", 'd'), ("quiet", 'q'), ("dry-run", 'u'), ("suffix", 's'), ("tmpdir", 'P')] }
  let template ← match a.operands with
    | [] => pure "tmp.XXXXXXXXXX".toList
    | [template] => pure template
    | _ => refuseOperands (Octets.ofString "too many templates")
  let usual := ((← Task.setting? "TMPDIR").filter (!·.isEmpty)).getD "/tmp".toList
  let chosen := (a.value? 'P').orElse fun _ => a.value? 'p'
  let inDirectory := a.operands.isEmpty || a.has 't' || a.has 'p' || a.has 'P'
  let isMarked (c : Char) : Bool := c = 'X'
  let (stem, ending) ← match a.value? 's' with
    | some ending =>
      if template.getLast? ≠ some 'X' then
        Task.refuse 1 (Octets.ofString "with --suffix, template " ++ quoted template ++
          Octets.ofString " must end in X")
      pure (template, ending)
    | none =>
      let ending := (template.reverse.takeWhile fun c => !isMarked c).reverse
      pure (template.take (template.length - ending.length), ending)
  if ending.contains '/' then
    Task.refuse 1 (Octets.ofString "invalid suffix " ++ quoted ending ++
      Octets.ofString ", contains directory separator")
  let count := (stem.reverse.takeWhile isMarked).length
  if count < 3 then Task.refuse 1 (Octets.ofString "too few X's in template " ++ quoted template)
  if a.has 't' ∧ template.contains '/' then
    Task.refuse 1 (Octets.ofString "invalid template, " ++ quoted template ++
      Octets.ofString ", contains directory separator")
  if inDirectory ∧ !a.has 't' ∧ template.head? = some '/' then
    Task.refuse 1 (Octets.ofString "invalid template, " ++ quoted template ++
      Octets.ofString "; with --tmpdir, it may not be absolute")
  let directory := match chosen with
    | some d => if d.isEmpty then usual else d
    | none => usual
  let front := stem.take (stem.length - count)
  let front := if inDirectory then below directory front else front
  let m ← get
  let seed := m.fresh * 7919 + m.clock
  set { m with fresh := m.fresh + 1 }
  let name := front ++ lettersOf count (seed * 2862933555777941757 % 2 ^ 64) ++ ending
  let result : Except Errno Unit ←
    if a.has 'u' then pure (.ok ())
    else if a.has 'd' then makeDirectory name 0o700
    else
      match ← locate name {} with
      | .ok ⟨place, none⟩ => Task.attempt (Attempt.make place (.file []) 0o600)
      | .ok _ => pure (.error .present)
      | .error errno => pure (.error errno)
  match result with
  | .ok () =>
    Task.write (name ++ ['\n'])
    return 0
  | .error errno =>
    if !a.has 'q' then
      Task.complain (Octets.ofString (if a.has 'd' then "failed to create directory via template "
        else "failed to create file via template ") ++
        quoted (front ++ List.replicate count 'X' ++ ending) ++ Octets.ofString (": " ++ errno.message))
    return 1

/-! ## Times -/

/-- The moment that a stamp of digits names: a month, a day, an hour and a minute, perhaps
with a year in front and seconds behind. -/
def stampOf? (present : Moment) (text : Octets) : Option Moment := do
  let (digits, seconds) := text.span (· ≠ '.')
  if !digits.all Char.isDigit ∨ !(seconds.drop 1).all Char.isDigit then none
  let second ← if seconds.isEmpty then some 0
    else if seconds.length = 3 then some (Octets.valueOf 10 (seconds.drop 1)) else none
  let thisYear := (Calendar.civilOfDays (present.fdiv (86400 * secondSize))).year
  let year ← match digits.length with
    | 8 => some thisYear
    | 10 => some (Moment.yearOf (digits.take 2))
    | 12 => some (Moment.yearOf (digits.take 4))
    | _ => none
  let field (n : Nat) : Nat := Octets.valueOf 10 (((digits.drop (digits.length - 8)).drop (2 * n)).take 2)
  let days := Calendar.daysOfCivil year (field 0) (field 1)
  if Calendar.civilOfDays days ≠ ⟨year, field 0, field 1⟩ ∨ 23 < field 2 ∨ 59 < field 3 ∨ 60 < second then
    none
  else some (((days * 24 + field 2) * 60 + field 3) * 60 * secondSize + second * secondSize)

/-- Notes a time for what is at a place. -/
def setTime (place : Location) (time : Moment) : Task Unit :=
  modify fun m =>
    { m with files := m.files.markAll place { m.files.attributesAt place with changed := time } }

/-- Makes empty files where there are none, and sets the times of files. -/
def touch : Program := do
  let a ← Options.taken { letters := "acfhm", valued := "drtT", words :=
    [("no-create", 'c'), ("date", 'd'), ("reference", 'r'), ("no-dereference", 'h'), ("time", 'T')] }
  let present : Moment := (← get).clock
  let sources := a.options.filter fun (c, _) => "rt".toList.contains c
  if 1 < sources.length ∨ (a.has 't' ∧ a.has 'd') then
    refuseOperands (Octets.ofString "cannot specify times from more than one source")
  let start : Moment ← match a.value? 'r' with
    | none => pure present
    | some name =>
      match ← Task.find name with
      | .error errno =>
        complainFailed "failed to get attributes of" name errno
        Task.finish 1
      | .ok (place, _) => pure ((← get).files.attributesAt place).changed
  let refuseDate (text : Octets) : Task Moment :=
    Task.refuse 1 (Octets.ofString "invalid date format " ++ quoted text)
  let time : Moment ← match a.value? 't', a.value? 'd' with
    | some text, _ =>
      match stampOf? present text with
      | some time => pure time
      | none => refuseDate text
    | none, some text =>
      match Moment.ofText? start text with
      | some time => pure time
      | none => refuseDate text
    | none, none => pure start
  if a.operands.isEmpty then refuseOperands (Octets.ofString "missing file operand")
  let sets := !(a.has 'a') || a.has 'm'
  Task.worst a.operands fun name => do
    if name = ['-'] then return 0
    let failed (act : String) (errno : Errno) : Task Nat := do
      complainFailed act name errno
      return 1
    let found (place : Location) : Task Nat := do
      if sets then setTime place time
      return 0
    if a.has 'c' || a.has 'h' then
      match ← (if a.has 'h' then findItself name else Task.find name) with
      | .ok (place, _) => found place
      | .error .missing => if a.has 'h' && !(a.has 'c') then failed "setting times of" .missing else return 0
      | .error errno => failed "setting times of" errno
    else
      match ← locate name { creating := true } with
      | .ok ⟨place, some _⟩ => found place
      | .ok ⟨place, none⟩ =>
        match ← Task.attempt (Attempt.make place (.file []) (Mode.without (← read).umask 0o666)) with
        | .ok () => found place
        | .error errno => failed "cannot touch" errno
      | .error .isDirectory =>
        match ← Task.find name with
        | .ok (place, _) => found place
        | .error errno => failed "setting times of" errno
      | .error errno => failed "cannot touch" errno

/-! ## Sizes -/

/-- The units of sizes: letters, each a thousand times the one before, or 1024 times. -/
def sizeUnit? (text : Octets) : Option Nat :=
  let powers := "KMGTPEZYRQ".toList
  match text with
  | [] => some 1
  | c :: rest =>
    let c := if c = 'k' then 'K' else if c = 'm' then 'M' else if c = 'g' then 'G' else c
    match powers.findIdx? (· = c), rest with
    | some i, [] | some i, ['i', 'B'] => some (1024 ^ (i + 1))
    | some i, ['B'] => some (1000 ^ (i + 1))
    | _, _ => none

/-- The number that digits with a unit behind them stand for. -/
def sizeOf? (text : Octets) : Option Nat :=
  let (digits, unit) := text.span Char.isDigit
  match Octets.nat? digits, sizeUnit? unit with
  | some n, some size => some (n * size)
  | none, some size => if digits.isEmpty ∧ !unit.isEmpty then some size else none
  | _, _ => none

/-- Makes files have a size. -/
def truncate : Program := do
  let a ← Options.taken { letters := "co", valued := "rs", words :=
    [("no-create", 'c'), ("size", 's'), ("reference", 'r'), ("io-blocks", 'o')] }
  if !(a.has 's') ∧ !(a.has 'r') then
    refuseOperands (Octets.ofString "you must specify either " ++ quoted "--size".toList ++
      Octets.ofString " or " ++ quoted "--reference".toList)
  let size := ((a.value? 's').getD []).dropWhile fun c => c = ' ' ∨ c = '\t'
  let (mark, digits) : Char × Octets := match size with
    | c :: digits => if "<>/%".toList.contains c then (c, digits) else (' ', size)
    | [] => (' ', [])
  let (sign, digits) : Char × Octets := match digits with
    | c :: rest => if c = '+' ∨ c = '-' then (c, rest) else (' ', digits)
    | [] => (' ', [])
  if mark ≠ ' ' ∧ sign ≠ ' ' then
    refuseOperands (Octets.ofString "multiple relative modifiers specified")
  let amount ← match a.has 's', sizeOf? digits with
    | false, _ => pure 0
    | true, some n => pure n
    | true, none => Task.refuse 1 (Octets.ofString "Invalid number: " ++ quoted size)
  if amount = 0 ∧ (mark = '/' ∨ mark = '%') then Task.refuse 1 (Octets.ofString "division by zero")
  let kind := if mark = ' ' then sign else mark
  if a.has 'r' ∧ a.has 's' ∧ kind = ' ' then
    refuseOperands (Octets.ofString "you must specify a relative " ++ quoted "--size".toList ++
      Octets.ofString " with " ++ quoted "--reference".toList)
  if a.has 'o' ∧ !(a.has 's') then
    refuseOperands (quoted "--io-blocks".toList ++ Octets.ofString " was specified but " ++
      quoted "--size".toList ++ Octets.ofString " was not")
  if a.operands.isEmpty then refuseOperands (Octets.ofString "missing file operand")
  let base? : Option Nat ← match a.value? 'r' with
    | none => pure none
    | some name =>
      match ← Task.find name with
      | .ok (_, .file content) => pure (some content.length)
      | .ok _ => pure (some 4096)
      | .error errno =>
        complainFailed "cannot stat" name errno
        Task.finish 1
  let amount := if a.has 'o' then amount * 4096 else amount
  Task.worst a.operands fun name => do
    let failed (errno : Errno) : Task Nat := do
      Task.complain (Octets.ofString "cannot open " ++ quotedName name ++
        Octets.ofString (" for writing: " ++ errno.message))
      return 1
    let p ← read
    let isThere := match ← locate name {} with
      | .ok ⟨_, some _⟩ => true
      | _ => false
    if a.has 'c' && !isThere then return 0
    match ← Task.attempt (Attempt.openFile p .append name) with
    | .error errno => failed errno
    | .ok _ =>
      match ← Task.find name with
      | .ok (place, .file content) =>
        let base := base?.getD content.length
        let size := match kind with
          | '+' => base + amount
          | '-' => base - amount
          | '<' => min base amount
          | '>' => max base amount
          | '/' => base / amount * amount
          | '%' => (base + amount - 1) / amount * amount
          | _ => if a.has 's' then amount else base
        let content := content.take size ++ List.replicate (size - content.length) 0
        modify fun m => { m with files := m.files.fill place content }
        return 0
      | _ => return 0

end ComponentReference.Tool
