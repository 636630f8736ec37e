import ComponentReference.Machine.Mode
import ComponentReference.Machine.Shell.Condition
import ComponentReference.Machine.Shell.Matching
import ComponentReference.Machine.Shell.Printing

/-!
# Commands of the shell

The commands that the shell itself carries out, but for those that run scripts.  Each is
given its arguments and gives a status.
-/

namespace ComponentReference.Shell

/-- What a command of the shell does with its arguments. -/
abbrev Builtin := List Octets → Sh Nat

/-- Octets between single quotes, as the shell reads them back; those that are quotes
themselves are between double ones. -/
def quotedForShell (s : Octets) : Octets :=
  go (s.length + 1) s
where
  /-- The pieces of what is left. -/
  go : (fuel : Nat) → Octets → Octets
    | 0, _ => []
    | fuel + 1, s =>
      let (plain, rest) := s.span (· ≠ '\'')
      let (quotes, rest) := rest.span (· = '\'')
      let marked := if quotes.isEmpty then [] else '"' :: quotes ++ ['"']
      '\'' :: plain ++ '\'' :: marked ++ (if rest.isEmpty then [] else go fuel rest)

/-- How the signals are called that have names. -/
def namedSignals : List String :=
  ["EXIT", "HUP", "INT", "QUIT", "ILL", "TRAP", "ABRT", "BUS", "FPE", "KILL", "USR1", "SEGV",
    "USR2", "PIPE", "ALRM", "TERM", "16", "CHLD", "CONT", "STOP", "TSTP", "TTIN", "TTOU", "URG",
    "XCPU", "XFSZ", "VTALRM", "PROF", "WINCH", "IO", "PWR", "SYS"]

/-- The signals by name. -/
def signalNames : List (String × Nat) :=
  let low := (List.range 15).map fun i => "RTMIN+" ++ toString (i + 1)
  let high := (List.range 14).map fun i => "RTMAX-" ++ toString (14 - i)
  (namedSignals ++ ["32", "33", "RTMIN"] ++ low ++ high ++ ["RTMAX"]).zipIdx

/-- The number of a signal, given by number or by name. -/
def signal? (s : Octets) (least : Nat := 0) : Option Nat :=
  match Octets.nat? s with
  | some n => if n < 65 then some n else none
  | none => (signalNames.drop least).lookup (String.ofList (s.map Char.toUpper))

/-- What a signal is called. -/
def signalName (signal : Nat) : String :=
  ((signalNames.find? (·.2 = signal)).map Prod.fst).getD (toString signal)

/-- Whether a signal does nothing to a program that has not asked for it. -/
def isHarmless (signal : Nat) : Bool :=
  [0, 17, 18, 19, 20, 21, 22, 23, 28].contains signal

/-- How a signal is called when it has ended a program. -/
def signalMessage (signal : Nat) : String :=
  let messages := [(1, "Hangup"), (2, "Interrupt"), (3, "Quit"), (4, "Illegal instruction"),
    (5, "Trace/breakpoint trap"), (6, "Aborted"), (7, "Bus error"),
    (8, "Floating point exception"), (9, "Killed"), (10, "User defined signal 1"),
    (11, "Segmentation fault"), (12, "User defined signal 2"), (13, "Broken pipe"), (14, "Alarm clock"),
    (15, "Terminated"), (16, "Stack fault"), (24, "CPU time limit exceeded"),
    (25, "File size limit exceeded"), (26, "Virtual timer expired"),
    (27, "Profiling timer expired"), (29, "I/O possible"), (30, "Power failure"),
    (31, "Bad system call")]
  (messages.lookup signal).getD (if 34 ≤ signal then "Real-time signal " ++ toString (signal - 34)
    else "Unknown signal " ++ toString signal)

namespace Builtin

/-- The options in front of other arguments, of which there are those with the given
letters; some have a value. -/
def options (letters valued : Octets) : (fuel : Nat) → List Octets →
    Sh (List (Char × Octets) × List Octets)
  | 0, arguments => return ([], arguments)
  | fuel + 1, arguments =>
    match arguments with
    | ['-', '-'] :: rest => return ([], rest)
    | ('-' :: c :: more) :: rest => do
      if valued.contains c then
        match more, rest with
        | [], value :: rest =>
          let (others, rest) ← options letters valued fuel rest
          return ((c, value) :: others, rest)
        | [], [] => Sh.fail (Octets.ofString "No arg for -" ++ [c] ++ Octets.ofString " option")
        | value, rest =>
          let (others, rest) ← options letters valued fuel rest
          return ((c, value) :: others, rest)
      else if letters.contains c then
        let rest := if more.isEmpty then rest else ('-' :: more) :: rest
        let (others, rest) ← options letters valued fuel rest
        return ((c, []) :: others, rest)
      else Sh.fail (Octets.ofString "Illegal option -" ++ [c])
    | arguments => return ([], arguments)

/-- The options and the other arguments of a command. -/
def split (letters : String) (arguments : List Octets) (valued : String := "") :
    Sh (List (Char × Octets) × List Octets) :=
  options letters.toList valued.toList ((arguments.map List.length).sum + arguments.length + 1)
    arguments

/-! ## Printing and checking -/

/-- Prints arguments. -/
def echo : Builtin := fun arguments => do
  let text := if (← Sh.own).isLarge then Printing.echoedByFlags arguments
    else Printing.echoed arguments
  Sh.write text
  return 0

/-- Prints arguments in a format. -/
def printf : Builtin := fun arguments => do
  let (_, operands) ← split "" arguments
  match operands with
  | [] => Sh.fail (Octets.ofString "usage: printf format [arg ...]")
  | format :: values =>
    let sheet := Printing.inFormat format values
    sheet.complaints.forM Sh.warn
    Sh.write sheet.printed
    if sheet.status = 2 then
      Sh.setStatus 2
      throw .failure
    return sheet.status

/-- What conditions learn about files.  What is missing may be taken to be older than all
that is there. -/
def filesSeen (m : Machine) (directory : Location) (missingIsOldest : Bool := false) :
    Condition.Files where
  holds property path :=
    let seen? (followLast : Bool) : Option (Location × Entry) :=
      ((Attempt.find directory path followLast).run m).1.toOption
    match property with
    | 'L' | 'h' => (seen? false).any fun (_, e) => match e with
      | .link _ => true
      | _ => false
    | property => (seen? true).any fun (place, e) =>
      let attributes := m.files.attributesAt place
      let hasBit (bit : Nat) : Bool := attributes.mode / bit % 2 = 1
      match property, e with
      | 'd', e => e = .directory
      | 'f', .file _ | 'c', .device _ | 'p', .queue => true
      | 's', .file content => !content.isEmpty
      | 's', .device _ | 's', .queue => false
      | 'r', _ => m.files.mayRead place
      | 'w', _ => m.files.mayWrite place
      | 'x', _ => m.files.mayRun place
      | 'u', _ => hasBit 0o4000
      | 'g', _ => hasBit 0o2000
      | 'k', _ => hasBit 0o1000
      | 'f', _ | 'c', _ | 'b', _ | 'p', _ | 'S', _ => false
      | _, _ => true
  areSame a b :=
    match place? a, place? b with
    | some a, some b => a = b || (m.files.namesOf a).contains b
    | _, _ => false
  isNewer a b :=
    match place? a, place? b with
    | some a, some b => (m.files.attributesAt b).changed < (m.files.attributesAt a).changed
    | some _, none => missingIsOldest
    | none, _ => false
where
  /-- The place that a path leads to. -/
  place? (path : Octets) : Option Location :=
    ((Attempt.find directory path).run m).1.toOption.map Prod.fst

/-- Checks a condition. -/
def test (bracketed : Bool) : Builtin := fun arguments => do
  if bracketed ∧ arguments.getLast? ≠ some [']'] then Sh.fail (Octets.ofString "missing ]")
  let words := if bracketed then arguments.dropLast else arguments
  let st ← get
  let files := filesSeen st.machine st.own.directory
  match Condition.check files (words.length + 1) words with
  | .ok value => return if value then 0 else 1
  | .error fault => Sh.fail fault.message

/-! ## Directories -/

/-- The path that another path leads to from a directory, without dots. -/
def pathFrom (directory path : Octets) : Octets :=
  let beginning := if path.head? = some '/' then [] else Text.split '/' directory
  let names := (beginning ++ Text.split '/' path).foldl (fun kept name =>
    if name = [] ∨ name = ['.'] then kept
    else if name = ['.', '.'] then kept.dropLast
    else kept ++ [name]) []
  '/' :: Octets.join ['/'] names

/-- The paths at which a directory is looked for, each with whether it is shown: those that
begin in one of a list of directories, unless the path says itself where it begins. -/
def directoryPaths (list? : Option Octets) (target : Octets) : List (Octets × Bool) :=
  let saysItself := ['/' :: [], ['.'], ['.', '.']].any fun first =>
    target.take first.length = first ∧ (first = ['/'] ∨ [none, some '/'].contains (target.drop first.length).head?)
  -- nothing at all is the directory itself, but does not say so
  let target := if target.isEmpty then ['.'] else target
  match list? with
  | some list =>
    if saysItself then []
    else (Text.split ':' list).map fun directory =>
      if directory.isEmpty then (target, false) else (directory ++ '/' :: target, true)
  | none => []

/-- Changes the directory. -/
def cd : Builtin := fun arguments => do
  let (given, operands) ← split "LP" arguments
  let own ← Sh.own
  let physical := given.getLast?.any (·.1 = 'P')
  let (target, shown) ← match operands with
    | [] => pure ((own.named "HOME").getD [], false)
    | ['-'] :: _ => pure ((own.named "OLDPWD").getD own.directoryPath, true)
    | target :: _ => pure (target, false)
  let files := (← get).machine.files
  let leads (path : Octets) : Sh (Option (Location × Octets)) := do
    let path := if physical then path else pathFrom own.directoryPath path
    match ← Sh.find path with
    | .ok (place, .directory) => return if files.mayRun place then some (place, path) else none
    | _ => return none
  let paths := directoryPaths (own.named "CDPATH") target
  let listed? ← paths.findSomeM? fun (path, shown) => do
    return (← leads path).map fun (place, path) => (place, path, shown)
  let found? ← match listed? with
    | some found => pure (some found)
    | none =>
      if target.isEmpty then pure (some (own.directory, own.directoryPath, false))
      else pure ((← leads target).map fun (place, path) => (place, path, false))
  match found? with
  | some (place, path, listed) =>
    let path := if physical then Octets.ofString (Location.path place).text else path
    Sh.assign "OLDPWD".toList own.directoryPath true
    Sh.change fun own => { own with
      directory := place, directoryPath := path
      found := own.found.map fun (name, path, _) => (name, path, true) }
    Sh.assign "PWD".toList path true
    if shown ∨ listed then Sh.write (path ++ ['\n'])
    return 0
  | none =>
    if own.isLarge then Sh.fail (target ++ Octets.ofString ": No such file or directory") 1
    else Sh.fail (Octets.ofString "can't cd to " ++ target)

/-- Prints the directory. -/
def pwd : Builtin := fun arguments => do
  let (given, _) ← split "LP" arguments
  let own ← Sh.own
  let path := if given.getLast?.any (·.1 = 'P') then Octets.ofString (Location.path own.directory).text
    else own.directoryPath
  Sh.write (path ++ ['\n'])
  return 0

/-- Sets or prints which rights new files are not given. -/
def umask : Builtin := fun arguments => do
  let (given, operands) ← split "S" arguments
  match operands with
  | [] =>
    let mask := (← Sh.own).fileMask
    if given.any (·.1 = 'S') then
      let rights (n : Nat) : Octets :=
        [('r', 4), ('w', 2), ('x', 1)].filterMap fun (c, bit) =>
          if n / bit % 2 = 0 then some c else none
      let classes := [('u', mask / 64 % 8), ('g', mask / 8 % 8), ('o', mask % 8)].map fun (c, n) =>
        c :: '=' :: rights n
      Sh.write (Octets.join [','] classes ++ ['\n'])
    else
      let digits := Octets.digits 8 mask
      Sh.write (List.replicate (4 - digits.length) '0' ++ digits ++ ['\n'])
    return 0
  | s :: _ =>
    let set (mask : Nat) : Sh Nat := do
      Sh.change fun own => { own with fileMask := mask }
      return 0
    if s.head?.any Char.isDigit then
      if s.all fun c => '0' ≤ c ∧ c ≤ '7' then set (Octets.valueOf 8 s % 0o1000)
      else Sh.fail (Octets.ofString "Illegal number: " ++ s)
    else
      let text := if 1 < s.length ∧ s.getLast? = some ',' then s.dropLast else s
      let mask := (← Sh.own).fileMask
      match Mode.ofText? text with
      | some change =>
        let rights := change { isDirectory := true } (Mode.without mask 0o777)
        set (Mode.without rights 0o777)
      | none =>
        if text.all "ugoa".toList.contains then return 0
        Sh.fail (Octets.ofString "Illegal mode: " ++ s)

/-! ## Variables -/

/-- The lines that show variables, in the order of their names, behind a word. -/
def shown (word : Octets) (settings : List Variable) : Octets :=
  let sorted := settings.mergeSort fun a b => Octets.le a.name b.name
  sorted.flatMap fun v =>
    let value := match v.value? with
      | some value => '=' :: quotedForShell value
      | none => []
    word ++ v.name ++ value ++ ['\n']

/-- The name and the value in an argument that sets a variable, or its name alone. -/
def settingIn (s : Octets) : Octets × Option Octets :=
  match s.span (· ≠ '=') with
  | (name, _ :: value) => (name, some value)
  | (name, []) => (name, none)

/-- Marks variables, or prints those that are marked. -/
def marking (word : String) (isMarked : Variable → Bool) (mark : Variable → Variable) : Builtin :=
  fun arguments => do
    let (given, operands) ← split "p" arguments
    if given.any (·.1 = 'p') ∨ operands.isEmpty then
      Sh.write (shown (Octets.ofString (word ++ " ")) ((← Sh.own).settings.filter isMarked))
      return 0
    for operand in operands do
      let (name, value?) := settingIn operand
      if !isName name then Sh.fail (name ++ Octets.ofString ": bad variable name")
      match value? with
      | some value => Sh.assign name value
      | none => pure ()
      Sh.change fun own => own.setVariable (mark ((own.get? name).getD { name }))
    return 0

/-- Marks variables to be handed to programs. -/
def exporting : Builtin :=
  marking "export" Variable.exported fun v => { v with exported := true }

/-- Marks variables to keep their values. -/
def readOnly : Builtin :=
  marking "readonly" Variable.readOnly fun v => { v with readOnly := true }

/-- Makes variables local to the function that is running. -/
def localVariables : Builtin := fun arguments => do
  if (← Sh.own).saved.isEmpty then Sh.fail (Octets.ofString "not in a function")
  for argument in arguments do
    let (name, value?) := settingIn argument
    if !isName name ∧ name ≠ ['-'] then Sh.fail (name ++ Octets.ofString ": bad variable name")
    Sh.change fun own =>
      match own.saved with
      | saved :: outer => { own with saved := ((name, own.get? name) :: saved) :: outer }
      | [] => own
    match value? with
    | some value => Sh.assign name value
    | none => pure ()
  return 0

/-- Drops variables or functions. -/
def unset : Builtin := fun arguments => do
  let (given, operands) ← split "vf" arguments
  let functions := given.getLast?.any (·.1 = 'f')
  for name in operands do
    if functions then
      Sh.change fun own => { own with functions := own.functions.filter (·.1 ≠ name) }
    else
      let own ← Sh.own
      if !isName name then Sh.fail (name ++ Octets.ofString ": bad variable name")
      if (own.get? name).any Variable.readOnly then
        Sh.fail (name ++ Octets.ofString ": is read only")
      if name = "OPTIND".toList then Sh.fail (Octets.ofString "Illegal number: ")
      Sh.change fun own => own.unset name
  return 0

/-! ## Aliases -/

/-- The place of an alias among all: its name's octets, the first of which counts for more,
added up. -/
def aliasPlace (name : Octets) : Nat :=
  (16 * ((name.head?.map Char.toNat).getD 0) + (name.map Char.toNat).sum) % 39

/-- The line that shows an alias. -/
def shownAlias (name text : Octets) : Octets :=
  name ++ '=' :: quotedForShell text ++ ['\n']

/-- Lets names stand for texts where commands begin, or shows what they stand for. -/
def setAliases : Builtin := fun arguments => do
  if arguments.isEmpty then
    let sorted := (← Sh.own).aliases.mergeSort fun a b => aliasPlace a.1 ≤ aliasPlace b.1
    Sh.write (sorted.flatMap fun (name, text) => shownAlias name text)
  let mut status := 0
  for argument in arguments do
    let (name, text) := (argument.drop 1).span (· ≠ '=')
    let name := argument.take 1 ++ name
    match text with
    | _ :: text =>
      Sh.change fun own => { own with aliases := Keyed.put Prod.fst (name, text) own.aliases }
    | [] =>
      match (← Sh.own).aliases.lookup name with
      | some text => Sh.write (shownAlias name text)
      | none =>
        let _ ← Sh.writeTo 2 (Octets.ofString "alias: " ++ name ++ Octets.ofString " not found\n")
        status := 1
  return status

/-- Lets names stand for themselves again. -/
def dropAliases : Builtin := fun arguments => do
  let (given, names) ← split "a" arguments
  if !given.isEmpty then
    Sh.change fun own => { own with aliases := [] }
    return 0
  let mut status := 0
  for name in names do
    if ((← Sh.own).aliases.lookup name).isNone then
      let _ ← Sh.writeTo 2 (Octets.ofString "unalias: " ++ name ++ Octets.ofString " not found\n")
      status := 1
    Sh.change fun own => { own with aliases := own.aliases.filter (·.1 ≠ name) }
  return status

/-- The letters of options by their long names. -/
def optionNames : List (String × Char) :=
  [("errexit", 'e'), ("noglob", 'f'), ("ignoreeof", 'I'), ("interactive", 'i'), ("monitor", 'm'),
    ("noexec", 'n'), ("stdin", 's'), ("xtrace", 'x'), ("verbose", 'v'), ("vi", 'V'),
    ("emacs", 'E'), ("noclobber", 'C'), ("allexport", 'a'), ("notify", 'b'), ("nounset", 'u'),
    ("privileged", 'p'), ("nolog", 'L'), ("debug", 'D')]

/-- Turns an option on or off; there is one way of editing lines at most. -/
def turn (letter : Char) (on : Bool) (own : Own) : Own :=
  let excluded := if on then match letter with
    | 'V' => 'E'
    | 'E' => 'V'
    | c => c
  else letter
  let others := own.options.filter fun c => c ≠ letter ∧ c ≠ excluded
  { own with options := if on then letter :: others else others }

/-- Turns an option on or off, as far as the shell can have it: jobs are not under its
control without a terminal. -/
def change (letter : Char) (on : Bool) : Sh Unit := do
  let own ← Sh.own
  if on && letter = 'm' && !own.isApart && !own.isLarge then
    Sh.warn (Octets.ofString "can't access tty; job control turned off")
  else Sh.change (turn letter on)

/-- Prints the options, each with whether it is in force. -/
def shownOptions (own : Own) : Octets :=
  Octets.ofString "Current option settings\n" ++
    optionNames.flatMap fun (name, letter) =>
      Octets.ofString (name ++ String.ofList (List.replicate (16 - name.length) ' ')) ++
        Octets.ofString (if own.has letter then "on\n" else "off\n")

/-- Commands that set the options as they are. -/
def optionCommands (own : Own) : Octets :=
  optionNames.flatMap fun (name, letter) =>
    Octets.ofString ((if own.has letter then "set -o " else "set +o ") ++ name ++ "\n")

/-- The options by name that a shell has. -/
def namedOptions (own : Own) : List (String × Char) :=
  if own.isLarge then ("pipefail", Own.pipesFail) :: optionNames else optionNames

/-- Turns an option on or off by its letter.  One letter is for options with names, the next
of which the arguments give. -/
def turnLetter (on : Bool) (rest : List Octets) (letter : Char) : Sh (List Octets) := do
  if letter = 'o' then
    match rest with
    | [] =>
      let own ← Sh.own
      Sh.write (if on then shownOptions own else optionCommands own)
      return []
    | name :: rest =>
      match (namedOptions (← Sh.own)).lookup (String.ofList name) with
      | none => Sh.fail (Octets.ofString "Illegal option -o " ++ name)
      | some letter =>
        change letter on
        return rest
  else
    if !Own.optionLetters.contains letter then
      Sh.fail (Octets.ofString "Illegal option -" ++ [letter])
    change letter on
    return rest

/-- Takes the options in front of arguments; gives the arguments, if they are to be set. -/
def takeOptions : (fuel : Nat) → List Octets → Sh (Option (List Octets))
  | 0, _ => return none
  | fuel + 1, arguments =>
    match arguments with
    | [] => return none
    | (sign :: letters) :: rest => do
      if sign ≠ '-' ∧ sign ≠ '+' then return some arguments
      let on := sign = '-'
      if on ∧ letters.isEmpty then
        Sh.change fun own => turn 'x' false (turn 'v' false own)
        return if rest.isEmpty then none else some rest
      if on ∧ letters = ['-'] then return some rest
      let rest ← letters.foldlM (turnLetter on) rest
      if rest.isEmpty then return none
      takeOptions fuel rest
    | [] :: _ => return some arguments

/-- Sets options and arguments, or prints all variables. -/
def set : Builtin := fun arguments => do
  if arguments.isEmpty then
    Sh.write (shown [] ((← Sh.own).settings.filter (·.value?.isSome)))
    return 0
  match ← takeOptions (arguments.length + 1) arguments with
  | some arguments => Sh.change fun own => { own with arguments, optionsRead := (1, 0) }
  | none => pure ()
  return 0

/-- Drops the first arguments. -/
def shift : Builtin := fun arguments => do
  let n ← match arguments with
    | [] => pure 1
    | s :: _ => Sh.number s
  if n > (← Sh.own).arguments.length then Sh.fail (Octets.ofString "can't shift that many")
  Sh.change fun own => { own with arguments := own.arguments.drop n, optionsRead := (1, 0) }
  return 0

/-! ## Reading -/

/-- The octets of a line that has been read, each with whether a backslash has taken its
meaning, and whether the line goes on with what is read next. -/
def unescaped (raw : Bool) : Octets → List Mark × Bool
  | [] => ([], false)
  | ['\\', '\n'] => if raw then ([⟨'\\', false⟩], false) else ([], true)
  | '\\' :: c :: rest =>
    if raw then
      let (marks, goesOn) := unescaped raw (c :: rest)
      (⟨'\\', false⟩ :: marks, goesOn)
    else
      let (marks, goesOn) := unescaped raw rest
      (⟨c, true⟩ :: marks, goesOn)
  | c :: rest =>
    let (marks, goesOn) := unescaped raw rest
    if c = '\n' ∨ c = Char.ofNat 0 ∨ (c = '\\' ∧ !raw) then (marks, goesOn)
    else (⟨c, false⟩ :: marks, goesOn)

/-- Reads lines as far as they are joined; gives what has been read, and whether the last
line is complete. -/
def readJoined (raw : Bool) : (fuel : Nat) → Sh (List Mark × Bool)
  | 0 => return ([], false)
  | fuel + 1 => do
    let lineLength (all : Octets) : Nat :=
      let line := all.takeWhile (· ≠ '\n')
      min (line.length + 1) all.length
    let line ← match (← Sh.own).streams.lookup 0 with
      | none => pure []
      | some number =>
        match ← Sh.attempt (Attempt.read number lineLength) with
        | .ok line => pure line
        | .error _ => pure []
    let complete := line.getLast? = some '\n'
    let (marks, goesOn) := unescaped raw line
    if goesOn then
      let (more, complete) ← readJoined raw fuel
      return (marks ++ more, complete)
    return (marks, complete)

/-- The first field of marks and what follows it, if there is one. -/
def firstField? (separators : Octets) (marks : List Mark) : Option (List Mark × List Mark) :=
  let divides (m : Mark) : Bool := !m.quoted && separators.contains m.octet
  let isBlank (m : Mark) : Bool := divides m && [' ', '\t', '\n'].contains m.octet
  match marks.dropWhile isBlank with
  | [] => none
  | rest =>
    let (field, rest) := rest.span (!divides ·)
    let rest := rest.dropWhile isBlank
    match rest with
    | m :: after => if divides m then some (field, after.dropWhile isBlank) else some (field, rest)
    | [] => some (field, [])

/-- The fields of marks, at most so many; the last one holds all that is left. -/
def fieldsUpTo (separators : Octets) : (most : Nat) → List Mark → List (List Mark)
  | 0, _ => []
  | most + 1, marks =>
    match firstField? separators marks with
    | none => []
    | some (field, rest) =>
      if most = 0 then
        let isBlank (m : Mark) : Bool :=
          !m.quoted && separators.contains m.octet && [' ', '\t', '\n'].contains m.octet
        if rest.isEmpty then [field]
        else [((marks.dropWhile isBlank).reverse.dropWhile isBlank).reverse]
      else field :: fieldsUpTo separators most rest

/-- Reads a line into variables. -/
def read : Builtin := fun arguments => do
  let (given, names) ← split "r" arguments "p"
  if names.isEmpty then Sh.fail (Octets.ofString "arg count")
  let (marks, complete) ← readJoined (given.any (·.1 = 'r')) 10000
  let fields := fieldsUpTo (← Sh.own).separators names.length marks
  for (name, i) in names.zipIdx do
    if !isName name then Sh.fail (name ++ Octets.ofString ": bad variable name")
    Sh.assign name ((fields[i]?.getD []).map Mark.octet)
  return if complete then 0 else 1

/-- Finds the next option among arguments, and puts its letter into a variable. -/
def getopts : Builtin := fun arguments => do
  match arguments with
  | letters :: target :: given =>
    let own ← Sh.own
    let words := if given.isEmpty then own.arguments else given
    let (index, offset) := own.optionsRead
    let silent := letters.head? = some ':'
    let finish (letter : Char) (index offset : Nat) (status : Nat) : Sh Nat := do
      Sh.assign "OPTIND".toList (Octets.ofNat index)
      Sh.change fun own => { own with optionsRead := (index, offset) }
      Sh.assign target [letter]
      return status
    let within := if offset = 0 ∨ index ≤ 1 then [] else ((words[index - 2]?).getD []).drop offset
    let current? : Option (Octets × Nat × Nat) :=
      if !within.isEmpty then some (within, index, offset)
      else match words[index - 1]? with
        | some ('-' :: c :: rest) =>
          if c = '-' ∧ rest.isEmpty then none else some (c :: rest, index + 1, 1)
        | _ => none
    match current? with
    | none =>
      let isEnd := words[index - 1]? = some ['-', '-']
      finish '?' (if isEnd then index + 1 else index) 0 1
    | some ([], index, offset) => finish '?' index offset 1
    | some (c :: rest, index, offset) =>
      let offset := if rest.isEmpty then 0 else offset + 1
      let complain (message : String) : Sh Unit := do
        let _ ← Sh.writeTo 2 (Octets.ofString message ++ ['\n'])
        Sh.change fun own => own.unset "OPTARG".toList
      match if c = ':' then [] else letters.dropWhile (· ≠ c) with
      | [] =>
        if silent then Sh.assign "OPTARG".toList [c]
        else complain ("Illegal option -" ++ String.singleton c)
        finish '?' index offset 0
      | _ :: ':' :: _ =>
        if !rest.isEmpty then
          Sh.assign "OPTARG".toList rest
          finish c index 0 0
        else
          match words[index - 1]? with
          | some value =>
            Sh.assign "OPTARG".toList value
            finish c (index + 1) 0 0
          | none =>
            if silent then
              Sh.assign "OPTARG".toList [c]
              finish ':' index 0 0
            else
              complain ("No arg for -" ++ String.singleton c ++ " option")
              finish '?' index 0 0
      | _ =>
        Sh.assign "OPTARG".toList []
        finish c index offset 0
  | _ => Sh.fail (Octets.ofString "Usage: getopts optstring var [arg...]")

/-! ## Times and limits -/

/-- Prints how long the shell and its programs have run, which is no time. -/
def times : Builtin := fun _ => do
  let line := Octets.ofString "0m0.000000s 0m0.000000s\n"
  Sh.write (line ++ line)
  return 0

/-- What is limited: the letter by which it is known, its name, its unit, and its limit. -/
def limits : List (Char × String × String × String) :=
  [('t', "time", "seconds", "unlimited"), ('f', "file", "blocks", "unlimited"),
    ('d', "data", "kbytes", "unlimited"), ('s', "stack", "kbytes", "8192"),
    ('c', "coredump", "blocks", "0"), ('m', "memory", "kbytes", "unlimited"),
    ('l', "locked memory", "kbytes", "64"), ('p', "process", "", "unlimited"),
    ('n', "nofiles", "", "1024"), ('v', "vmemory", "kbytes", "unlimited"),
    ('w', "locks", "", "unlimited"), ('r', "rtprio", "", "0")]

/-- Prints what limits the programs have. -/
def ulimit : Builtin := fun arguments => do
  let (given, operands) ← split ("HSa" ++ String.ofList (limits.map Prod.fst)) arguments
  let isAll := given.any (·.1 = 'a')
  let letter := ((given.reverse.map Prod.fst).find? fun c => c ≠ 'H' ∧ c ≠ 'S' ∧ c ≠ 'a').getD 'f'
  match operands with
  | value :: rest =>
    if isAll || !rest.isEmpty then Sh.fail (Octets.ofString "too many arguments")
    if value ≠ "unlimited".toList ∧ !value.all Char.isDigit then
      Sh.fail (Octets.ofString "bad number")
  | [] =>
    for (c, name, unit, limit) in limits do
      if isAll then
        let front := name ++ (if unit.isEmpty then "" else "(" ++ unit ++ ")")
        Sh.write (Octets.ofString (front ++ String.ofList (List.replicate (20 - front.length) ' ') ++ " " ++
          limit ++ "\n"))
      else if c = letter then Sh.write (Octets.ofString (limit ++ "\n"))
  return 0

/-! ## Ends and signals -/

/-- Ends the shell. -/
def exit : Builtin := fun arguments => do
  match arguments with
  | [] => pure ()
  | s :: _ => Sh.setStatus (← Sh.number s)
  throw .exit

/-- Ends the function or the file that is running. -/
def leaveFunction : Builtin := fun arguments => do
  match arguments with
  | [] => pure ()
  | s :: _ => Sh.setStatus (← Sh.number s)
  throw .returning

/-- Ends loops, or goes on with their next round. -/
def leaving (interrupt : Nat → Interrupt) : Builtin := fun arguments => do
  let n ← match arguments with
    | [] => pure 1
    | s :: _ =>
      let n ← Sh.number s
      if n = 0 then Sh.fail (Octets.ofString "Illegal number: " ++ s)
      pure n
  match min n (← Sh.own).loops with
  | 0 => return 0
  | n =>
    Sh.setStatus 0
    throw (interrupt n)

/-- Prints what is to be run at signals, or sets it. -/
def trap : Builtin := fun arguments => do
  let (_, operands) ← split "" arguments
  match operands with
  | [] =>
    let traps := (← Sh.own).traps.mergeSort fun a b => a.1 ≤ b.1
    Sh.write (traps.flatMap fun (signal, action) =>
      Octets.ofString "trap -- " ++ quotedForShell action ++
        Octets.ofString (" " ++ signalName signal ++ "\n"))
    return 0
  | first :: rest =>
    let (action?, names) :=
      if rest.isEmpty ∨ ((Octets.nat? first).any (· < 65)) then (none, operands)
      else (if first = ['-'] then none else some first, rest)
    for operand in names do
      match signal? operand with
      | none =>
        let _ ← Sh.writeTo 2 (Octets.ofString "trap: " ++ operand ++ Octets.ofString ": bad trap\n")
        return 1
      | some signal =>
        Sh.change fun own =>
          let others := own.traps.filter (·.1 ≠ signal)
          { own with traps := match action? with
            | some action => (signal, action) :: others
            | none => others }
    return 0

end Builtin

end ComponentReference.Shell
