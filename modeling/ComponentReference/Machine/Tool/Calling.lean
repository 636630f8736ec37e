import ComponentReference.Machine.Tool.Arguments

/-!
# Programs that run programs

They change what a program is given, run it for words that they read, or watch over it.
-/

namespace ComponentReference.Tool

/-- Runs the program that the first word names, with the others as its arguments. -/
def run (launch : Launcher) (environment : List (Octets × Octets)) (words : List Octets) :
    Task (Except Errno Exit) := do
  match words with
  | [] => return .error .missing
  | name :: arguments =>
    let p ← read
    let m ← get
    let number := m.fresh
    let path := (environment.lookup "PATH".toList).getD "/bin:/usr/bin".toList
    let p := { p with number, title := name, arguments, environment }
    let step (act : StateM Machine (Except Errno Exit)) : Task (Except Errno Exit) := do
      let (result, m) := act.run (← get)
      set m
      return result
    set { m with fresh := number + 1 }
    match ← step (launch.runNamed path name p) with
    | .error .unknownFormat =>
      -- what no program can be is taken for a script
      let scripts := Launcher.paths path name
      let script? ← scripts.findM? fun path => do
        Task.isProgram path
      step (launch "/bin/sh".toList { p with
        title := "/bin/sh".toList, arguments := script?.getD name :: arguments })
    | result => return result

/-- The status of a failure to run a program. -/
def refusalStatus (errno : Errno) : Nat :=
  if errno = .missing then 127 else 126

/-- Ends as a program did that ran in place of this one. -/
def endAs : Exit → Task Nat
  | .status n => return n
  | .signal n => throw (.signal n)

/-- Runs a program in place of this one. -/
def runInstead (launch : Launcher) (words : List Octets) : Task Nat := do
  match ← run launch (← read).environment words with
  | .ok exit => endAs exit
  | .error errno =>
    Task.complain (Octets.ofString "failed to run command " ++ quoted (words.head?.getD []) ++
      Octets.ofString (": " ++ errno.message))
    return refusalStatus errno

/-! ## Environments -/

/-- What is to be done with the environment of a program. -/
structure EnvironmentPlan where
  settings : List (Octets × Octets)
  directory? : Option Octets := none
  ending : Char := '\n'

/-- Why a plan cannot be read. -/
inductive PlanFault where
  | invalid (c : Char)
  | valueMissing (c : Char)
  | unknownWord (argument : Octets)
  | openQuote

/-- The words of one argument that holds several, in quotes of both kinds; `open?` is the
quote that is open. -/
def splitWords : (open? : Option Char) → (word? : Option Octets) → Octets → Option (List Octets)
  | none, word?, [] => some word?.toList
  | some _, _, [] => none
  | none, word?, c :: rest =>
    if c = '\'' ∨ c = '"' then splitWords (some c) (some (word?.getD [])) rest
    else if c = ' ' ∨ ('\t' ≤ c ∧ c ≤ '\r') then
      (splitWords none none rest).map fun words => word?.toList ++ words
    else if c = '#' ∧ word?.isNone then some []
    else if c = '\\' then
      match rest with
      | '_' :: rest => (splitWords none none rest).map fun words => word?.toList ++ words
      | d :: rest => splitWords none (some (word?.getD [] ++ [escaped d])) rest
      | [] => none
    else splitWords none (some (word?.getD [] ++ [c])) rest
  | some quote, word?, c :: rest =>
    if c = quote then splitWords none word? rest
    else if c = '\\' ∧ quote = '"' then
      match rest with
      | d :: rest => splitWords (some quote) (some (word?.getD [] ++ [escaped d])) rest
      | [] => none
    else splitWords (some quote) (some (word?.getD [] ++ [c])) rest
where
  /-- What an escape stands for. -/
  escaped (c : Char) : Char :=
    match c with
    | 'n' => '\n'
    | 't' => '\t'
    | 'r' => '\r'
    | 'f' => Char.ofNat 12
    | 'v' => Char.ofNat 11
    | '_' => ' '
    | c => c

/-- Reads the options of a plan; gives the arguments behind them too. -/
def EnvironmentPlan.read : (fuel : Nat) → EnvironmentPlan → List Octets →
    Except PlanFault (EnvironmentPlan × List Octets)
  | 0, plan, arguments => .ok (plan, arguments)
  | _, plan, [] => .ok (plan, [])
  | fuel + 1, plan, argument :: rest =>
    let withValue (c : Char) (value : Octets) (rest : List Octets) :
        Except PlanFault (EnvironmentPlan × List Octets) :=
      match c with
      | 'u' => EnvironmentPlan.read fuel
          { plan with settings := plan.settings.filter (·.1 ≠ value) } rest
      | 'C' => EnvironmentPlan.read fuel { plan with directory? := some value } rest
      | _ =>
        match splitWords none none value with
        | some words => EnvironmentPlan.read fuel plan (words ++ rest)
        | none => .error .openQuote
    match argument with
    | ['-'] => EnvironmentPlan.read fuel { plan with settings := [] } rest
    | ['-', '-'] => .ok (plan, rest)
    | '-' :: '-' :: text =>
      let (name, value) := text.span (· ≠ '=')
      match String.ofList name with
      | "ignore-environment" => EnvironmentPlan.read fuel { plan with settings := [] } rest
      | "null" => EnvironmentPlan.read fuel { plan with ending := Char.ofNat 0 } rest
      | "debug" => EnvironmentPlan.read fuel plan rest
      | "unset" => withValue 'u' (value.drop 1) rest
      | "chdir" => withValue 'C' (value.drop 1) rest
      | "split-string" => withValue 'S' (value.drop 1) rest
      | _ => .error (.unknownWord argument)
    | '-' :: c :: letters =>
      let further := if letters.isEmpty then rest else ('-' :: letters) :: rest
      match c with
      | 'i' => EnvironmentPlan.read fuel { plan with settings := [] } further
      | '0' => EnvironmentPlan.read fuel { plan with ending := Char.ofNat 0 } further
      | 'v' => EnvironmentPlan.read fuel plan further
      | 'u' | 'C' | 'S' =>
        match letters, rest with
        | [], value :: rest => withValue c value rest
        | [], [] => .error (.valueMissing c)
        | value, rest => withValue c value rest
      | c => .error (.invalid c)
    | argument => .ok (plan, argument :: rest)

/-- The settings in front of words, and the words behind them. -/
def settingsOf (settings : List (Octets × Octets)) :
    List Octets → List (Octets × Octets) × List Octets
  | [] => (settings, [])
  | word :: rest =>
    match word.span (· ≠ '=') with
    | (_, []) => (settings, word :: rest)
    | (name, _ :: value) => settingsOf (Keyed.put Prod.fst (name, value) settings) rest

/-- Runs a program in a changed environment, or shows that. -/
def env (launch : Launcher) : Program := do
  let p ← read
  let hint : Task Unit := Task.complain (Octets.ofString "use -[v]S to pass options in shebang lines")
  let usage : Task Nat := do
    Task.tell (Octets.ofString "Try '" ++ p.title ++ Octets.ofString " --help' for more information.\n")
    return 125
  let fuel := (p.arguments.map List.length).sum + p.arguments.length + 1
  match EnvironmentPlan.read fuel { settings := p.environment } p.arguments with
  | .error fault =>
    match fault with
    | .invalid c =>
      Task.complain (ArgumentFault.unknownLetter c).message
      if c = ' ' ∨ ('\t' ≤ c ∧ c ≤ '\r') then hint
    | .valueMissing c => Task.complain (ArgumentFault.valueMissing c).message
    | .unknownWord argument => Task.complain (ArgumentFault.unknownWord argument).message
    | .openQuote =>
      Task.complain (Octets.ofString "no terminating quote in -S string")
      return 125
    usage
  | .ok (plan, words) =>
    let (settings, words) := settingsOf plan.settings words
    match words with
    | [] =>
      for (name, value) in settings do
        Task.write (name ++ '=' :: value ++ [plan.ending])
      return 0
    | name :: _ =>
      let directory ← match plan.directory? with
        | none => pure p.directory
        | some path =>
          match ← Task.find path with
          | .ok (place, .directory) => pure place
          | result =>
            let errno := match result with
              | .error errno => errno
              | .ok _ => .notDirectory
            Task.refuse 125 (Octets.ofString "cannot change directory to " ++ quoted path ++
              Octets.ofString (": " ++ errno.message))
      match ← ReaderT.adapt (fun p => { p with directory }) (run launch settings words) with
      | .ok exit => endAs exit
      | .error errno =>
        Task.complain (quoted name ++ Octets.ofString (": " ++ errno.message))
        if errno = .missing ∧ name.any (fun c => c = ' ' ∨ ('\t' ≤ c ∧ c ≤ '\r')) then hint
        return refusalStatus errno

/-- Shows the values of variables. -/
def printenv : Program := do
  let a ← Options.taken { letters := "0", anywhere := false, refusal := 2 }
  let p ← read
  let ending := if a.has '0' then Char.ofNat 0 else '\n'
  if a.operands.isEmpty then
    for (name, value) in p.environment do
      Task.write (name ++ '=' :: value ++ [ending])
    return 0
  Task.worst a.operands fun name => do
    match p.environment.lookup name with
    | some value =>
      Task.write (value ++ [ending])
      return 0
    | none => return 1

/-! ## Programs for words that are read -/

/-- The words of the input, which may be in quotes. -/
def inputWords : (open? : Option Char) → (word? : Option Octets) → Octets →
    Except Char (List Octets)
  | none, word?, [] => .ok word?.toList
  | some quote, _, [] => .error quote
  | none, word?, c :: rest =>
    if c = '\'' ∨ c = '"' then inputWords (some c) (some (word?.getD [])) rest
    else if c = ' ' ∨ c = '\t' ∨ c = '\n' then
      (inputWords none none rest).map fun words => word?.toList ++ words
    else if c = '\\' then
      match rest with
      | d :: rest => inputWords none (some (word?.getD [] ++ [d])) rest
      | [] => .ok word?.toList
    else inputWords none (some (word?.getD [] ++ [c])) rest
  | some quote, word?, c :: rest =>
    if c = quote then inputWords none word? rest
    else if c = '\n' then .error quote
    else inputWords (some quote) (some (word?.getD [] ++ [c])) rest

/-- Words in groups of at most so many. -/
def groups (size : Nat) : (fuel : Nat) → List Octets → List (List Octets)
  | 0, _ => []
  | _, [] => []
  | fuel + 1, words => words.take size :: groups size fuel (words.drop size)

/-- Octets with each occurrence of others replaced. -/
def substituted (mark value : Octets) : (fuel : Nat) → Octets → Octets
  | 0, s => s
  | _, [] => []
  | fuel + 1, c :: rest =>
    if !mark.isEmpty ∧ mark.isPrefixOf (c :: rest) then
      value ++ substituted mark value fuel ((c :: rest).drop mark.length)
    else c :: substituted mark value fuel rest

/-- Runs a program for the words of the input. -/
def xargs (launch : Launcher) : Program := do
  let a ← Options.taken { letters := "0rtxopei", valued := "nIdLPsaE", anywhere := false, words :=
    [("null", '0'), ("no-run-if-empty", 'r'), ("max-args", 'n'), ("replace", 'I'),
      ("delimiter", 'd'), ("max-lines", 'L'), ("max-procs", 'P'), ("arg-file", 'a'),
      ("verbose", 't')] }
  let content ← match a.value? 'a' with
    | none => Task.input
    | some name =>
      match ← Task.readFile name with
      | .ok content => pure content
      | .error errno =>
        Task.refuse 1 (Octets.ofString "Cannot open input file " ++ quoted name ++
          Octets.ofString (": " ++ errno.message))
  let separator? : Option Char := if a.has '0' then some (Char.ofNat 0) else
    match a.value? 'd' with
    | some ['\\', 'n'] => some '\n'
    | some ['\\', 't'] => some '\t'
    | some ['\\', '0'] => some (Char.ofNat 0)
    | some (c :: _) => some c
    | _ => none
  let mark? := if a.has 'i' then some "\x7b\x7d".toList else a.value? 'I'
  let words ← match separator?, mark? with
    | some c, _ =>
      let parts := Text.split c content
      pure (if parts.getLast? = some [] then parts.dropLast else parts)
    | none, some _ =>
      pure ((((Octets.lines content).map Octets.chomp).map fun line =>
        line.dropWhile fun c => c = ' ' ∨ c = '\t').filter (!·.isEmpty))
    | none, none =>
      match inputWords none none content with
      | .ok words => pure words
      | .error quote =>
        Task.refuse 1 (Octets.ofString ("unmatched " ++ (if quote = '"' then "double" else "single") ++
          " quote; by default quotes are special to xargs unless you use the -0 option"))
  let command := if a.operands.isEmpty then ["echo".toList] else a.operands
  let calls : List (List Octets) := match mark? with
    | some mark => words.map fun word =>
        command.map fun s => substituted mark word (s.length + 1) s
    | none =>
      let size := (((a.value? 'n').or (a.value? 'L')).bind Octets.nat?).getD 5000
      if words.isEmpty then (if a.has 'r' then [] else [command])
      else (groups (max size 1) words.length words).map (command ++ ·)
  let settings := (← read).environment
  calls.foldlM (fun status call => do
    if a.has 't' then Task.tell (Octets.unwords call ++ ['\n'])
    match ← run launch settings call with
    | .ok (.status 0) => return status
    | .ok (.status 255) =>
      Task.refuse 124 ((call.head?.getD []) ++ Octets.ofString ": exited with status 255; aborting")
    | .ok (.status _) => return 123
    | .ok (.signal n) =>
      Task.refuse 125 ((call.head?.getD []) ++ Octets.ofString ": terminated by signal " ++
        Octets.ofNat n)
    | .error errno =>
      Task.complain ((call.head?.getD []) ++ Octets.ofString (": " ++ errno.message))
      Task.finish (refusalStatus errno)) 0

/-! ## Time -/

/-- A time in microseconds: a decimal number with a letter for the unit. -/
def microseconds? (s : Octets) : Option Nat :=
  let (whole, rest) := s.span Char.isDigit
  let (fraction, rest) := match rest with
    | '.' :: after => after.span Char.isDigit
    | rest => ([], rest)
  let unit? : Option Nat := match rest with
    | [] | ['s'] => some 1
    | ['m'] => some 60
    | ['h'] => some 3600
    | ['d'] => some 86400
    | _ => none
  if whole.isEmpty ∧ fraction.isEmpty then
    if rest = "inf".toList ∨ rest = "infinity".toList then some (10 ^ 18) else none
  else
    unit?.map fun unit =>
      unit * Octets.valueOf 10 (whole ++ fraction) * 10 ^ 6 / 10 ^ fraction.length

/-- Lets time pass. -/
def sleep : Program := do
  let a ← Options.taken {}
  if a.operands.isEmpty then refuseMissing []
  let wrong := a.operands.filter fun s => (microseconds? s).isNone
  if !wrong.isEmpty then
    for s in wrong.dropLast do
      Task.complain (Octets.ofString "invalid time interval " ++ quoted s)
    refuseOperands (Octets.ofString "invalid time interval " ++ quoted (wrong.getLast?.getD []))
  let time := (a.operands.filterMap microseconds?).sum
  modify fun m => m.atTime (m.clock + time)
  return 0

/-- Runs a program for a time at most. -/
def timeout (launch : Launcher) : Program := do
  let a ← Options.taken { letters := "fpv", valued := "ks", anywhere := false, refusal := 125, words :=
    [("foreground", 'f'), ("preserve-status", 'p'), ("kill-after", 'k'), ("signal", 's'),
      ("verbose", 'v')] }
  let usage : Task Nat := do
    Task.tell (Octets.ofString "Try '" ++ (← read).title ++
      Octets.ofString " --help' for more information.\n")
    return 125
  match a.operands with
  | [] | [_] => usage
  | time :: words =>
    match microseconds? time with
    | none =>
      Task.complain (Octets.ofString "invalid time interval " ++ quoted time)
      usage
    | some limit =>
      let begin := (← get).clock
      match ← run launch (← read).environment words with
      | .error errno =>
        Task.complain (Octets.ofString "failed to run command " ++ quoted (words.head?.getD []) ++
          Octets.ofString (": " ++ errno.message))
        return refusalStatus errno
      | .ok exit =>
        if 0 < limit ∧ begin + limit < (← get).clock then
          modify (·.atTime (begin + limit))
          return if a.has 'p' then 143 else 124
        return exit.code

/-- Runs a program as it is. -/
def runOnly (launch : Launcher) (valued : String) (refusal : Nat := 125) : Program := do
  let a ← Options.taken { valued, anywhere := false, refusal }
  if a.operands.isEmpty then refuseMissing [] refusal
  for (_, mode) in (if valued = "ioe" then a.options else []) do
    if mode ≠ ['0'] ∧ mode ≠ ['L'] ∧ !(mode.head?.any Char.isDigit) then
      Task.refuse 125 (Octets.ofString "invalid mode " ++
        quoted (mode.dropWhile fun c => c = ' ' ∨ ('\t' ≤ c ∧ c ≤ '\r')))
  runInstead launch a.operands

/-! ## What there is to know -/

/-- Does nothing, but refuses options. -/
def refuseOptions : Program := do
  let _ ← Options.taken {}
  return 0

/-- Writes a line. -/
def tellLine (line : String) : Program := do
  let _ ← refuseOptions
  Task.print (line ++ "\n")
  return 0

/-- Tells who runs the program. -/
def identity : Program := do
  let a ← Options.taken { letters := "agGnruz", words :=
    [("user", 'u'), ("group", 'g'), ("groups", 'G'), ("name", 'n'), ("real", 'r')] }
  Task.print (if a.has 'u' || a.has 'g' || a.has 'G' then (if a.has 'n' then "root\n" else "0\n")
    else "uid=0(root) gid=0(root) groups=0(root)\n")
  return 0

/-- Tells about the system. -/
def uname : Program := do
  let a ← Options.taken { letters := "asnrvmpio", words := [("all", 'a'), ("kernel-name", 's')] }
  let shown := "snrvmo".toList.filter fun c => a.has c || a.has 'a'
  let word (c : Char) : String := match c with
    | 'm' => "x86_64"
    | 'o' => "GNU/Linux"
    | 'n' => "localhost"
    | 's' => "Linux"
    | _ => "unknown"
  tellLine (" ".intercalate ((if shown.isEmpty then ['s'] else shown).map word))

/-- Tells the directory in which the program works. -/
def pwd : Program := do
  let _ ← Options.taken { letters := "LP" }
  tellLine (Location.path (← read).directory).text

/-- Tells where programs are. -/
def which : Program := do
  let arguments := (← read).arguments
  match Options.parse { letters := "as", anywhere := false } (arguments.flatten.length + arguments.length + 1)
      arguments with
  | .ok a => namedBy a
  | .error fault =>
    match fault with
    | .unknownLetter c => Task.tell (Octets.ofString "Illegal option -" ++ [c, '\n'])
    | _ => Task.tell (Octets.ofString "Illegal option --\n")
    Task.print "Usage: /usr/bin/which [-as] args\n"
    return 2
where
  /-- Writes where the programs are that the operands name. -/
  namedBy (a : Arguments) : Program := do
    let path := (← Task.setting? "PATH").getD []
    if a.operands.isEmpty then return 1
    Task.worst a.operands fun name => do
      let found ← (Launcher.paths path name).filterM fun path => do
        Task.isProgram path
      if found.isEmpty then return 1
      for path in (if a.has 'a' then found else found.take 1) do
        if !(a.has 's') then Task.write (path ++ ['\n'])
      return 0

end ComponentReference.Tool
