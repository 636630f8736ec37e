import ComponentReference.Machine.Shell.Jobs
import ComponentReference.Machine.Shell.Reader

/-!
# Running scripts

A script runs on the state of a shell.  What it calls is a function, a command of the
shell, or a program.  Scripts that run apart get a copy of what the shell has for itself;
those between bars run one after the other, each on all that the one before has written.
A script in the background goes on when the shell waits.
-/

namespace ComponentReference.Shell

/-- What is around a script. -/
structure Mode where
  /-- Whether its failure is looked at. -/
  tested : Bool := false
  /-- Whether the shell ends behind it. -/
  last : Bool := false

namespace Sh

/-! ## Rounds -/

/-- Takes steps as long as they ask for another one, each with the status of the one
before. -/
def iterate (step : Nat → Sh (Nat × Bool)) :
    (rounds : Nat) → (status : Nat) → State → Except Interrupt Nat × State
  | 0, status, st => (.ok status, st)
  | rounds + 1, status, st =>
    match (step status).run st with
    | (.ok (status, true), st) => iterate step rounds status st
    | (.ok (status, false), st) => (.ok status, st)
    | (.error interrupt, st) => (.error interrupt, st)

/-- More rounds than any loop comes to. -/
def manyRounds : Nat := 10 ^ 12

/-- What an interrupt means to a loop: whether another round follows; or it goes on to
what is around the loop. -/
def inLoop : Interrupt → Sh Bool
  | .breaking n => if n ≤ 1 then return false else throw (.breaking (n - 1))
  | .continuing n => if n ≤ 1 then return true else throw (.continuing (n - 1))
  | interrupt => throw interrupt

/-- Runs the body of a loop. -/
def counted (body : Sh Unit) : Sh Unit := do
  let before := (← own).loops
  change fun own => { own with loops := before + 1 }
  let result ← catching body
  change fun own => { own with loops := before }
  match result with
  | .ok () => return
  | .error interrupt => throw interrupt

/-! ## Ends -/

/-- Ends the shell if a failure has that effect. -/
def checkFailure (mode : Mode) : Sh Unit := do
  let own ← own
  if own.has 'e' ∧ !mode.tested ∧ own.status ≠ 0 then throw .exit

/-- Says which signal has ended a program, unless that goes without saying. -/
def reportEnd (exit : Exit) : Sh Unit := do
  match exit with
  | .status _ | .signal 2 | .signal 13 => return
  | .signal n =>
    let _ ← writeTo 2 (Octets.ofString (signalMessage n) ++ ['\n'])

/-- Takes the end of what has run in place of the shell's last command for its own. -/
def endAs (exit : Exit) : Sh Unit := do
  match exit with
  | .status n =>
    setStatus (n % 256)
    throw .exit
  | .signal n => throw (.killed n)

/-- How a shell has ended, of which a result is left. -/
def exitOf (own : Own) : Except Interrupt Unit → Exit
  | .error (.killed n) => .signal n
  | _ => .status (own.status % 256)

/-! ## Redirections -/

/-- Makes a stream be an open file. -/
def setStream (stream number : Nat) : Sh Unit :=
  change fun own =>
    { own with streams := Keyed.put Prod.fst (stream, number) own.streams }

/-- Opens what a redirection names, whose word has become the text; gives whether that
worked. -/
def redirect (r : Redirection) (text : Octets) : Sh Bool := do
  match r with
  | .file stream opening _ =>
    let own ← own
    let found ← find text
    let isKept : Bool := match found with
      | .ok (_, .file _) => true
      | _ => false
    if opening = .write ∧ own.has 'C' ∧ isKept then
      warn (Octets.ofString "cannot create " ++ text ++ Octets.ofString ": File exists")
      return false
    match ← attempt (Attempt.openFile own.process opening text) with
    | .ok number =>
      setStream stream number
      return true
    | .error errno =>
      let creating := opening ≠ .read
      if own.isLarge then warn (text ++ Octets.ofString (": " ++ errno.message))
      else warn (Octets.ofString (if creating then "cannot create " else "cannot open ") ++ text ++
        Octets.ofString (": " ++ openingMessage creating errno))
      return false
  | .copy stream _ =>
    match text with
    | ['-'] =>
      change fun own => { own with streams := own.streams.filter (·.1 ≠ stream) }
      return true
    | [c] =>
      if !c.isDigit then refuseForm (← own).lineRead .badStream
      else
        match (← own).streams.lookup (c.toNat - '0'.toNat) with
        | some number =>
          setStream stream number
          return true
        | none =>
          warn (c :: Octets.ofString ": Bad file descriptor")
          return false
    | _ => refuseForm (← own).lineRead .badStream
  | .hereText stream _ =>
    match ← attempt (Attempt.pipe false) with
    | .error _ => return false
    | .ok (writer, reader) =>
      let _ ← attempt (Attempt.write writer text)
      setStream stream reader
      return true

/-- The text that the word of a redirection becomes. -/
def redirectionText (substitute : Substitution) : Redirection → Sh Octets
  | .file _ _ word | .copy _ word => expandText substitute word
  | .hereText _ number => do
    let word := ((← own).texts.lookup number).getD []
    return Symbol.octets (← expandPieces substitute { dividing := false } word)

/-- Opens what redirections name, as far as that works; gives whether all of it did. -/
def redirectAll (substitute : Substitution) (rs : List Redirection) : Sh Bool := do
  let texts ← rs.mapM (redirectionText substitute)
  go (rs.zip texts)
where
  /-- Opens one after the other. -/
  go : List (Redirection × Octets) → Sh Bool
    | [] => return true
    | (r, text) :: rest => do
      if ← redirect r text then go rest else return false

/-! ## Variables of one command -/

/-- Keeps what the variables were that are about to change. -/
def openScope : Sh Unit :=
  change fun own => { own with saved := [] :: own.saved }

/-- Keeps what a variable was. -/
def keep (name : Octets) : Sh Unit :=
  change fun own =>
    match own.saved with
    | saved :: outer => { own with saved := ((name, own.get? name) :: saved) :: outer }
    | [] => own

/-- Gives variables back what they were. -/
def closeScope : Sh Unit :=
  change fun own =>
    match own.saved with
    | saved :: outer =>
      saved.foldl (fun own (name, old?) => match old? with
        | some old => own.setVariable old
        | none => own.unset name) { own with saved := outer }
    | [] => own

/-! ## Programs -/

/-- The directories in which programs are looked for. -/
def searchPath : Sh Octets :=
  return ((← own).named "PATH").getD "/usr/local/sbin:/usr/local/bin:/usr/sbin:/usr/bin:/sbin:/bin".toList

/-- The path of the program with a name, if there is one. -/
def programPath? (name : Octets) : Sh (Option Octets) := do
  let st ← get
  if name.contains '/' then
    return match ← find name with
      | .ok (place, .file _) => if st.machine.files.mayRun place then some name else none
      | _ => none
  for path in Launcher.paths (← searchPath) name do
    match ← find path with
    | .ok (_, .file _) => return some path
    | _ => pure ()
  return none

/-- Finds a program, and keeps its path in mind, unless that is kept already. -/
def remember (name : Octets) : Sh (Option Octets) := do
  match (← own).found.lookup name with
  | some (path, false) => return some path
  | _ =>
    let path? ← programPath? name
    match path? with
    | some path =>
      if !name.contains '/' then
        change fun own => { own with found := Keyed.put Prod.fst (name, path, false) own.found }
    | none => change fun own => { own with found := own.found.filter (·.1 ≠ name) }
    return path?

/-- The place of a program among those that have been found: its name's octets, the first of
which counts for more, added up. -/
def foundPlace (name : Octets) : Nat :=
  (16 * ((name.head?.map Char.toNat).getD 0) + (name.map Char.toNat).sum) % 31

/-- Lets a program run in the shell's streams and directory. -/
def launchProgram (launch : Launcher) (name : Octets) (arguments : List Octets) :
    Sh (Except Errno Exit) := do
  let st ← get
  let own := st.own
  let number := st.machine.fresh
  let machine := { st.machine with fresh := number + 1 }
  let p : Process := { own.process with number, title := name, arguments }
  let path ← searchPath
  let (result, machine) := (Launcher.runNamed launch path name p).run machine
  set { st with machine }
  match result with
  | .error .unknownFormat =>
    -- what no program can be is taken for a script
    let scripts := Launcher.paths path name
    let st ← get
    let script? ← scripts.findM? fun path => do
      match ← find path with
      | .ok (place, .file _) => return st.machine.files.mayRun place
      | _ => return false
    let p := { p with title := "/bin/sh".toList, arguments := script?.getD name :: arguments }
    let st ← get
    let (result, machine) := (launch "/bin/sh".toList p).run st.machine
    set { st with machine }
    return result
  | result => return result

/-- The status at which a refusal to run a program is known. -/
def refusalStatus (errno : Errno) : Nat :=
  if errno = .missing ∨ errno = .notDirectory ∨ errno = .linkLoop ∨ errno = .nameTooLong then 127
  else 126

/-- The wording of a refusal to run a program. -/
def refusalMessage (isLarge : Bool) (name : Octets) (errno : Errno) : String :=
  if isLarge then
    if errno = .missing ∧ !name.contains '/' then "command not found" else errno.message
  else if errno = .missing ∨ errno = .notDirectory then "not found"
  else errno.message

/-- Runs a program; gives its end. -/
def runProgram (launch : Launcher) (name : Octets) (arguments : List Octets) : Sh Exit := do
  let _ ← remember name
  let exit ← match ← launchProgram launch name arguments with
    | .ok exit => pure exit
    | .error errno =>
      warn (name ++ Octets.ofString (": " ++ refusalMessage (← own).isLarge name errno))
      pure (.status (refusalStatus errno))
  return exit

/-! ## Kinds of commands -/

/-- The commands whose faults end the script. -/
def isSpecial (name : String) : Bool :=
  Reader.specialNames.contains name

/-- The commands of the shell that run no scripts. -/
def builtin? (name : String) : Option Builtin :=
  match name with
  | ":" | "true" => some fun _ => return 0
  | "fg" | "bg" => some resume
  | "times" => some Builtin.times
  | "kill" => some kill
  | "alias" => some Builtin.setAliases
  | "unalias" => some Builtin.dropAliases
  | "false" => some fun _ => return 1
  | "echo" => some Builtin.echo
  | "printf" => some Builtin.printf
  | "test" => some (Builtin.test false)
  | "[" => some (Builtin.test true)
  | "cd" | "chdir" => some Builtin.cd
  | "pwd" => some Builtin.pwd
  | "umask" => some Builtin.umask
  | "ulimit" => some Builtin.ulimit
  | "export" => some Builtin.exporting
  | "readonly" => some Builtin.readOnly
  | "local" => some Builtin.localVariables
  | "unset" => some Builtin.unset
  | "set" => some Builtin.set
  | "shift" => some Builtin.shift
  | "read" => some Builtin.read
  | "getopts" => some Builtin.getopts
  | "exit" => some Builtin.exit
  | "return" => some Builtin.leaveFunction
  | "break" => some (Builtin.leaving .breaking)
  | "continue" => some (Builtin.leaving .continuing)
  | "trap" => some Builtin.trap
  | _ => none

/-- The commands of the shell that run scripts, or have to do with those that run. -/
def runningNames : List String :=
  ["eval", ".", "exec", "command", "type", "hash", "wait", "jobs"]

/-- Whether a name is that of a command of the shell. -/
def isBuiltin (name : String) : Bool :=
  (builtin? name).isSome || runningNames.contains name

/-- Tells what a name stands for, at length or by what it is called with. -/
def describe (atLength : Bool) (name : Octets) : Sh Nat := do
  let text := String.ofList name
  let own ← own
  let tell (short : Octets) (long : String) : Sh Nat := do
    write ((if atLength then name ++ long.toList else short) ++ ['\n'])
    return 0
  if Token.keywords.contains text then tell name " is a shell keyword"
  else if let some value := own.aliases.lookup name then
    tell (Octets.ofString "alias " ++ name ++ '=' :: quotedForShell value)
      (" is an alias for " ++ String.ofList value)
  else if (own.functions.lookup name).isSome then tell name " is a shell function"
  else if isBuiltin text then
    tell name (if isSpecial text then " is a special shell builtin" else " is a shell builtin")
  else
    let known? := (own.found.lookup name).map Prod.fst
    let isKnown := known?.isSome
    let path? ← match known? with
      | some path => pure (some path)
      | none => remember name
    match path? with
    | some path =>
      let kind := if isKnown then " is a tracked alias for " else " is "
      write ((if atLength then name ++ Octets.ofString kind ++ path else path) ++ ['\n'])
      return 0
    | none =>
      if atLength then write (name ++ Octets.ofString ": not found\n")
      return 127

/-- Finds programs and keeps their paths in mind, or shows which are kept. -/
def keepPaths : Builtin := fun arguments => do
  let (given, names) ← Builtin.split "r" arguments
  if !given.isEmpty then
    change fun own => { own with found := [] }
    return 0
  if names.isEmpty then
    let sorted := (← own).found.mergeSort fun a b => foundPlace a.1 ≤ foundPlace b.1
    write (sorted.flatMap fun (_, path, isStale) => path ++ (if isStale then ['*'] else []) ++ ['\n'])
  let mut status := 0
  for name in names do
    change fun own => { own with found := own.found.filter (·.1 ≠ name) }
    if isBuiltin (String.ofList name) ∨ ((← own).functions.lookup name).isSome then continue
    if (← remember name).isNone then
      warn (name ++ Octets.ofString ": not found")
      status := 1
  return status

/-! ## Scripts that run apart -/

/-- What a script that runs apart has for itself, with a number of its own. -/
def apartOwn (shell : Nat) (own : Own) : Own :=
  { own with shell, isApart := true, caught := [], traps := own.traps.filter (·.2.isEmpty) }

/-- The step of a job that is next, with the rest, or the job's steps with one taken
apart into several. -/
def unfolded : List (Condition × Script) → List (Condition × Script)
  | (c, .sequence a b) :: rest => (c, a) :: (c, b) :: rest
  | (.always, .both a b) :: rest => (.always, a) :: (.ifSuccess, b) :: rest
  | (.always, .either a b) :: rest => (.always, a) :: (.ifFailure, b) :: rest
  | [(.always, .apart _ body [])] => [(.always, body)]
  | steps => steps

/-- Makes a script go on in the background, which is so many programs at first. -/
def inBackground (script : Script) (width : Nat := 1) : Sh Unit := do
  let place ← takePlace
  let st ← get
  let m := st.machine
  let number := m.fresh + 10000
  let machine := { m.setOpen m.fresh { target := .nothing, reads := true } with fresh := m.fresh + 1 }
  let own := { apartOwn m.fresh st.own with
    streams := Keyed.put Prod.fst (0, m.fresh) st.own.streams }
  let job : Job :=
    { number, shell := st.own.shell, place, width, own, clock := machine.clock, steps := [(.always, script)] }
  set { st with machine, jobs := st.jobs ++ [job], own := { st.own with background? := some number } }
  setStatus 0

/-- Shows what is about to be run, on what was the stream for complaints. -/
def trace (streams : List (Nat × Nat)) (words : List Octets) : Sh Unit := do
  let mark := ((← own).named "PS4").getD "+ ".toList
  match streams.lookup 2 with
  | none => return
  | some number =>
    let _ ← attempt (Attempt.write number (mark ++ Octets.unwords words ++ ['\n']))

end Sh

namespace Script

mutual

/-- Runs a script. -/
def eval (launch : Launcher) : (fuel : Nat) → Mode → Script → Sh Unit
  | 0, _, _ => throw (.killed 11)
  | fuel + 1, mode, script => do
    let tested : Mode := { tested := mode.tested }
    Sh.follow
    if (← Sh.own).has 'n' then return
    match script with
    | .nothing => return
    | .call line settings words rs =>
      evalCall launch fuel mode line settings words rs
      Sh.checkFailure mode
    | .redirected line script rs =>
      Sh.change fun own => { own with line }
      let before := (← Sh.own).streams
      if ← Sh.redirectAll (output launch fuel) rs then
        let result ← Sh.catching (eval launch fuel tested script)
        Sh.change fun own => { own with streams := before }
        match result with
        | .ok () => return
        | .error interrupt => throw interrupt
      else
        Sh.change fun own => { own with streams := before }
        Sh.setStatus 2
    | .apart line script rs =>
      Sh.change fun own => { own with line }
      let _ ← Sh.takePlace
      let exit ← runApart launch fuel do
        if ← Sh.redirectAll (output launch fuel) rs then
          eval launch fuel { tested with last := true } script
        else Sh.setStatus 2
      if mode.last ∧ (← Sh.own).traps.isEmpty then Sh.endAs exit
      Sh.reportEnd exit
      Sh.setStatus exit.code
      waited launch fuel
      Sh.checkFailure mode
    | .background line script rs =>
      if line ≠ 0 then Sh.change fun own => { own with line }
      Sh.inBackground (if rs.isEmpty then script else .redirected line script rs)
    | .pipe stages true => Sh.inBackground (.pipe stages false) stages.length
    | .pipe stages false =>
      let _ ← Sh.takePlace
      let reader? := (← Sh.own).streams.lookup 0
      let exit ← evalStages launch fuel { tested with last := true } reader? stages
      Sh.setStatus exit.code
      waited launch fuel
      Sh.checkFailure mode
    | .inverted script =>
      eval launch fuel { tested := true } script
      Sh.setStatus (if (← Sh.own).status = 0 then 1 else 0)
    | .sequence first second =>
      eval launch fuel tested first
      eval launch fuel mode second
    | .both first second =>
      eval launch fuel { tested := true } first
      if (← Sh.own).status = 0 then eval launch fuel mode second
    | .either first second =>
      eval launch fuel { tested := true } first
      if (← Sh.own).status ≠ 0 then eval launch fuel mode second
    | .branch condition yes no =>
      eval launch fuel { tested := true } condition
      if (← Sh.own).status = 0 then eval launch fuel mode yes
      else
        match no with
        | .nothing => Sh.setStatus 0
        | no => eval launch fuel mode no
    | .loop whileSuccess condition body =>
      Sh.counted do
        let step (status : Nat) : Sh (Nat × Bool) := do
          match ← Sh.catching (eval launch fuel { tested := true } condition) with
          | .error interrupt => return (status, ← Sh.inLoop interrupt)
          | .ok () =>
            if ((← Sh.own).status = 0) ≠ whileSuccess then return (status, false)
            match ← Sh.catching (eval launch fuel tested body) with
            | .ok () => return ((← Sh.own).status, true)
            | .error interrupt => return (0, ← Sh.inLoop interrupt)
        let st ← get
        let (result, st) := Sh.iterate step Sh.manyRounds 0 st
        set st
        match result with
        | .ok status => Sh.setStatus status
        | .error interrupt => throw interrupt
    | .each line name words body =>
      Sh.change fun own => { own with line }
      let fields ← Sh.expandWords (output launch fuel) words
      Sh.setStatus 0
      Sh.counted (evalEach launch fuel tested name fields body)
    | .choice line word branches =>
      Sh.change fun own => { own with line }
      let text ← Sh.expandText (output launch fuel) word
      evalChoice launch fuel mode text branches
    | .define _ name body =>
      Sh.change fun own =>
        { own with functions := Keyed.put Prod.fst (name, body) own.functions }
      Sh.setStatus 0

/-- Runs the body of a loop for each of the fields. -/
def evalEach (launch : Launcher) : (fuel : Nat) → Mode → (name : Octets) → List Octets →
    (body : Script) → Sh Unit
  | 0, _, _, _, _ => throw (.killed 11)
  | fuel + 1, mode, name, fields, body => do
    let step (field : Octets) : Sh Bool := do
      Sh.assign name field
      match ← Sh.catching (eval launch fuel mode body) with
      | .ok () => return true
      | .error interrupt =>
        let goesOn ← Sh.inLoop interrupt
        Sh.setStatus 0
        return goesOn
    let _ ← fields.allM step

/-- Runs the first branch of a choice that matches. -/
def evalChoice (launch : Launcher) : (fuel : Nat) → Mode → Octets →
    List (List Word × Script) → Sh Unit
  | 0, _, _, _ => throw (.killed 11)
  | fuel + 1, mode, text, branches => do
    let isMatch (word : Word) : Sh Bool := do
      let symbols ← Sh.expandHomed (output launch fuel) { dividing := false } word
      return Pattern.isMatch (Pattern.ofWord (Symbol.marks symbols)) text
    match ← branches.findM? fun (words, _) => words.anyM isMatch with
    | some (_, .nothing) | none => Sh.setStatus 0
    | some (_, body) => eval launch fuel mode body

/-- Runs a script apart; gives how it ended. -/
def runApart (launch : Launcher) : (fuel : Nat) → Sh Unit → Sh Exit
  | 0, _ => return .signal 11
  | fuel + 1, body => do
    let st ← get
    let machine := { st.machine with fresh := st.machine.fresh + 1 }
    let (result, after) := body.run { st with own := Sh.apartOwn st.machine.fresh st.own, machine }
    let (exit, after) := (endShell launch fuel result).run after |> fun
      | (.ok exit, after) => (exit, after)
      | (.error _, after) => (Sh.exitOf after.own result, after)
    set { after with own := st.own }
    Sh.notice
    return exit

/-- Does what is to be done at the end of a shell; gives how it ended. -/
def endShell (launch : Launcher) : (fuel : Nat) → Except Interrupt Unit → Sh Exit
  | 0, result => return Sh.exitOf (← Sh.own) result
  | fuel + 1, result => do
    let own ← Sh.own
    match result, own.traps.lookup 0 with
    | .error (.killed n), _ => return .signal n
    | _, none => return .status (own.status % 256)
    | _, some action =>
      Sh.change fun own => { own with traps := own.traps.filter (·.1 ≠ 0) }
      match ← Sh.catching (runText launch fuel false { rest := action, texts := own.texts }) with
      | .error (.killed n) => return .signal n
      | .error .exit => return .status ((← Sh.own).status % 256)
      | _ => return .status (own.status % 256)

/-- Runs scripts between bars, the first with the given input; gives the end of the last
one. -/
def evalStages (launch : Launcher) : (fuel : Nat) → Mode → (reader? : Option Nat) →
    List Script → Sh Exit
  | 0, _, _, _ => return .signal 11
  | _, _, _, [] => return .status 0
  | fuel + 1, mode, reader?, stage :: rest => do
    let withInput (own : Own) : Own :=
      match reader? with
      | some number => { own with streams := Keyed.put Prod.fst (0, number) own.streams }
      | none => own
    match rest with
    | [] =>
      let exit ← runApart launch fuel do
        Sh.change withInput
        eval launch fuel mode stage
      Sh.reportEnd exit
      return exit
    | rest =>
      match ← Sh.attempt (Attempt.pipe true) with
      | .error _ => return .status 2
      | .ok (writer, reader) =>
        let exit ← runApart launch fuel do
          Sh.change withInput
          Sh.setStream 1 writer
          eval launch fuel mode stage
        Sh.reportEnd exit
        let last ← evalStages launch fuel mode (some reader) rest
        return if (← Sh.own).has Own.pipesFail ∧ last = .status 0 then exit else last

/-- What a script writes. -/
def output (launch : Launcher) : (fuel : Nat) → Script → Sh Octets
  | 0, _ => throw (.killed 11)
  | fuel + 1, script => do
    match ← Sh.attempt (Attempt.pipe false) with
    | .error _ => return []
    | .ok (writer, reader) =>
      let _ ← Sh.takePlace
      let exit ← runApart launch fuel do
        Sh.setStream 1 writer
        match script with
        | .nothing => Sh.setStatus 0
        | script => eval launch fuel { last := true } script
        jobsUntilEnd launch fuel writer
      Sh.reportEnd exit
      Sh.change fun own => { own with outputStatus := exit.code }
      match ← Sh.attempt (Attempt.readAll reader) with
      | .ok octets => return octets
      | .error _ => return []

/-- Lets the jobs that write to an open file come to their end. -/
def jobsUntilEnd (launch : Launcher) : (fuel : Nat) → (writer : Nat) → Sh Unit
  | 0, _ => return
  | fuel + 1, writer => do
    let waiting := (← get).jobs.any fun job =>
      job.exit?.isNone && job.own.streams.any (·.2 = writer)
    if waiting then runJobs launch fuel none

/-- Runs a text, one complete command after the other. -/
def runText (launch : Launcher) : (fuel : Nat) → (last : Bool) → Source → Sh Unit
  | 0, _, _ => throw (.killed 11)
  | fuel + 1, last, source => do
    let own ← Sh.own
    let aliases := if own.isLarge then [] else own.aliases
    let result := Reader.nextCommand?.run { source with texts := own.texts, aliases }
    if own.has 'v' ∧ source.isFile then
      let _ ← Sh.writeTo 2 (source.linesRead result)
    match result with
    | .error (line, fault) => Sh.refuseForm line fault
    | .ok (none, _) => return
    | .ok (some script, source) =>
      Sh.change fun own => { own with texts := source.texts, lineRead := source.line }
      let atEnd := match source.pushed with
        | some .endOfFile => true
        | _ => false
      eval launch fuel { last := last && atEnd } script
      if atEnd then return
      runText launch fuel last source

/-- Runs what is to be run at the signals that have come. -/
def runCaught (launch : Launcher) : (fuel : Nat) → Sh Unit
  | 0 => return
  | fuel + 1 => do
    let own ← Sh.own
    match own.caught with
    | [] => return
    | signal :: rest =>
      Sh.change fun own => { own with caught := rest }
      let action := (own.traps.lookup signal).getD []
      runText launch fuel false { rest := action, texts := own.texts }
      Sh.setStatus own.status
      runCaught launch fuel

/-- What follows the end of a program that the shell has waited for. -/
def waited (launch : Launcher) : (fuel : Nat) → Sh Unit
  | 0 => return
  | fuel + 1 => do
    let st ← get
    if !st.jobs.isEmpty then
      runJobs launch fuel (some st.machine.clock)
      Sh.seeEnds
    runCaught launch fuel

/-- Lets the jobs go on whose next step is due at a time, or all of them to their end. -/
def runJobs (launch : Launcher) : (fuel : Nat) → (until? : Option Nat) → Sh Unit
  | 0, _ => return
  | fuel + 1, until? => do
    let st ← get
    let due := st.jobs.filter fun job =>
      job.exit?.isNone && until?.all (job.clock ≤ ·)
    match due.mergeSort (fun a b => a.clock ≤ b.clock) with
    | [] => return
    | job :: _ =>
      runStep launch fuel job
      runJobs launch fuel until?

/-- Takes the next step of a job. -/
def runStep (launch : Launcher) : (fuel : Nat) → Job → Sh Unit
  | 0, _ => return
  | fuel + 1, job => do
    let st ← get
    let steps := Sh.unfolded job.steps
    let others := st.jobs.filter (·.number ≠ job.number)
    let put (job : Job) (st : State) : State :=
      { st with jobs := st.jobs.map fun j => if j.number = job.number then job else j }
    if steps.length ≠ job.steps.length ∨ (job.steps matches [(.always, .apart _ _ [])]) then
      set (put { job with steps } st)
    else
      match steps with
      | [] =>
        set (put { job with exit? := some (.status job.own.status) } st)
      | (condition, script) :: rest =>
        let takes := match condition with
          | .always => true
          | .ifSuccess => job.own.status = 0
          | .ifFailure => job.own.status ≠ 0
        if !takes then set (put { job with steps := rest } st)
        else
          let clock := st.machine.clock
          let during : State :=
            { st with own := job.own, jobs := others, machine := st.machine.atTime job.clock }
          let mode : Mode := { tested := !rest.isEmpty && rest.any (·.1 ≠ .always), last := rest.isEmpty }
          let (result, after) := (eval launch fuel mode script).run during
          let ended := match result with
            | .ok () => rest.isEmpty
            | .error _ => true
          let (exit?, after) :=
            if ended then
              let (exit, after) := (endShell launch fuel result).run after
              (exit.toOption, after)
            else (none, after)
          let job := { job with
            own := after.own, clock := after.machine.clock, steps := if ended then [] else rest, exit? }
          set { after with
            own := st.own
            machine := after.machine.atTime clock
            jobs := after.jobs ++ [job] }

/-- Waits for jobs. -/
def wait (launch : Launcher) : (fuel : Nat) → List Octets → Sh Nat
  | 0, _ => return 0
  | fuel + 1, arguments => do
    let (_, names) ← Builtin.split "" arguments
    if names.isEmpty then
      if let some signal ← waitFor launch fuel none then return 128 + signal
      Sh.seeEnds
      for job in ← Sh.jobsOfShell do
        Sh.changeJob job.number fun job => { job with isAwaited := true }
      return 0
    let mut status := 127
    for name in names do
      let job? ← if name.head? = some '%' then some <$> Sh.jobNamed (some name) else do
        let number ← Sh.number name
        pure ((← Sh.jobsOfShell).find? (·.number = number))
      if let some job := job? then
        if let some signal ← waitFor launch fuel (some job.number) then return 128 + signal
        Sh.seeEnds
        let ended? := (← Sh.jobsOfShell).find? (·.number = job.number)
        let exit := (ended?.bind Job.exit?).getD (.status 0)
        if !job.isSeen then Sh.reportEnd exit
        Sh.changeJob job.number fun job => { job with isAwaited := true }
        status := exit.code
    return status

/-- Lets time pass until a job has ended, or all jobs of the shell; gives the signal that
comes before that. -/
def waitFor (launch : Launcher) : (fuel : Nat) → (target? : Option Nat) → Sh (Option Nat)
  | 0, _ => return none
  | fuel + 1, target? => do
    Sh.notice
    if let signal :: _ := (← Sh.own).caught then return some signal
    let st ← get
    let now := st.machine.clock
    let pending := (← Sh.jobsOfShell).filter fun job =>
      !job.hasEnded now && target?.all (· = job.number)
    if pending.isEmpty then return none
    let due := (st.jobs.filter (·.exit?.isNone)).mergeSort fun a b => a.clock ≤ b.clock
    let ends := ((pending.filter (·.exit?.isSome)).map Job.clock).min?
    match due, ends with
    | [], none => return none
    | job :: _, ends =>
      if ends.all (job.clock ≤ ·) then
        modify fun st => { st with machine := st.machine.atTime (max now job.clock) }
        runStep launch fuel job
      else modify fun st => { st with machine := st.machine.atTime (max now (ends.getD now)) }
      waitFor launch fuel target?
    | [], some time =>
      modify fun st => { st with machine := st.machine.atTime (max now time) }
      waitFor launch fuel target?

/-- Runs a call. -/
def evalCall (launch : Launcher) : (fuel : Nat) → Mode → (line : Nat) →
    List (Octets × Word) → List Word → List Redirection → Sh Unit
  | 0, _, _, _, _, _ => throw (.killed 11)
  | fuel + 1, mode, line, settings, words, rs => do
    let substitute := output launch fuel
    Sh.change fun own => { own with line, outputStatus := 0 }
    let fields ← callFields launch fuel words
    let before := (← Sh.own).streams
    let restore : Sh Unit := Sh.change fun own => { own with streams := before }
    let functions := (← Sh.own).functions
    let function? := fields.head?.bind fun name => functions.lookup name
    let special := function?.isNone && fields.head?.any fun name => Sh.isSpecial (String.ofList name)
    if !(← Sh.redirectAll substitute rs) then
      restore
      Sh.setStatus 2
      if special then throw .failure
      return
    let isolated := fields ≠ [] ∧ !special
    if isolated then Sh.openScope
    let result ← Sh.catching do
      let mut shown := []
      for (name, value) in settings do
        let value ← Sh.expandSetting substitute value
        if isolated then Sh.keep name
        Sh.assign name value isolated
        shown := shown ++ [name ++ '=' :: value]
      if (← Sh.own).has 'x' then Sh.trace before (shown ++ fields)
      match fields with
      | [] => Sh.setStatus (← Sh.own).outputStatus
      | name :: arguments => dispatch launch fuel mode special function? name arguments
    if isolated then Sh.closeScope
    let isExec := fields = ["exec".toList]
    if !isExec then restore
    match result with
    | .ok () => return
    | .error interrupt => throw interrupt

/-- The fields that the words of a call become.  Where a command sets variables, what sets
one is no field of several. -/
def callFields (launch : Launcher) : (fuel : Nat) → List Word → Sh (List Octets)
  | 0, _ => throw (.killed 11)
  | _, [] => return []
  | fuel + 1, w :: rest => do
    let substitute := output launch fuel
    let fields ← Sh.expandWord substitute w
    match fields with
    | [] => callFields launch fuel rest
    | name :: _ =>
      let sets := ["export", "readonly", "local"].contains (String.ofList name) &&
        ((← Sh.own).functions.lookup name).isNone
      if sets then
        let more ← rest.mapM fun (w : Word) => do
          match w.setting? with
          | some (name, value) =>
            return [name ++ '=' :: (← Sh.expandSetting substitute value)]
          | none => Sh.expandWord substitute w
        return fields ++ more.flatten
      else if name = "command".toList then return fields ++ (← callFields launch fuel rest)
      else return fields ++ (← Sh.expandWords substitute rest)

/-- Runs what a name stands for. -/
def dispatch (launch : Launcher) : (fuel : Nat) → Mode → (special : Bool) →
    (function? : Option Script) → Octets → List Octets → Sh Unit
  | 0, _, _, _, _, _ => throw (.killed 11)
  | fuel + 1, mode, special, function?, name, arguments => do
    match function? with
    | some body => callFunction launch fuel mode body arguments
    | none =>
      if Sh.isBuiltin (String.ofList name) then
        let before := (← Sh.own).commandName?
        Sh.change fun own => { own with commandName? := some name }
        let result ← Sh.catching (builtin launch fuel mode (String.ofList name) arguments)
        Sh.change fun own => { own with commandName? := before }
        match result with
        | .ok status => Sh.setStatus status
        | .error .failure => if special then throw .failure
        | .error interrupt => throw interrupt
        runCaught launch fuel
      else program launch fuel mode name arguments

/-- Runs a program, be it in place of the shell. -/
def program (launch : Launcher) : (fuel : Nat) → Mode → Octets → List Octets → Sh Unit
  | 0, _, _, _ => throw (.killed 11)
  | fuel + 1, mode, name, arguments => do
    let _ ← Sh.takePlace
    let exit ← Sh.runProgram launch name arguments
    if mode.last ∧ (← Sh.own).traps.isEmpty then
      Sh.notice
      Sh.endAs exit
    Sh.reportEnd exit
    Sh.setStatus exit.code
    Sh.notice
    waited launch fuel

/-- Calls a function. -/
def callFunction (launch : Launcher) : (fuel : Nat) → Mode → Script → List Octets → Sh Unit
  | 0, _, _, _ => throw (.killed 11)
  | fuel + 1, mode, body, arguments => do
    let before ← Sh.own
    Sh.change fun own => { own with arguments, loops := 0, optionsRead := (1, 0) }
    let result ← Sh.catching (eval launch fuel { tested := mode.tested } body)
    Sh.change fun own => { own with
      arguments := before.arguments, loops := before.loops, optionsRead := before.optionsRead }
    match result with
    | .ok () | .error .returning => return
    | .error interrupt => throw interrupt

/-- Carries out a command of the shell; gives its status. -/
def builtin (launch : Launcher) : (fuel : Nat) → Mode → String → List Octets → Sh Nat
  | 0, _, _, _ => throw (.killed 11)
  | fuel + 1, mode, name, arguments => do
    match name with
    | "eval" =>
      let text := Octets.unwords arguments
      Sh.setStatus 0
      runText launch fuel mode.last { rest := text }
      return (← Sh.own).status
    | "." =>
      match arguments with
      | [] => return 0
      | path :: _ => sourceFile launch fuel path
    | "exec" =>
      match arguments with
      | [] => return 0
      | name :: arguments =>
        match ← Sh.launchProgram launch name arguments with
        | .ok exit =>
          Sh.endAs exit
          return 0
        | .error errno =>
          Sh.warn (name ++ Octets.ofString (": " ++ Sh.refusalMessage (← Sh.own).isLarge name errno))
          Sh.setStatus (Sh.refusalStatus errno)
          throw .exit
    | "command" =>
      let (given, operands) ← Builtin.split "pvV" arguments
      match operands with
      | [] => return 0
      | name :: rest =>
        if given.any (·.1 = 'V') then Sh.describe true name
        else if given.any (·.1 = 'v') then Sh.describe false name
        else
          Sh.change fun own => { own with commandName? := none }
          dispatch launch fuel mode false none name rest
          return (← Sh.own).status
    | "type" =>
      let statuses ← arguments.mapM (Sh.describe true)
      return statuses.foldl max 0
    | "hash" => Sh.keepPaths arguments
    | "wait" => wait launch fuel arguments
    | "jobs" =>
      runJobs launch fuel (some (← get).machine.clock)
      Sh.seeEnds
      Sh.tellJobs arguments
    | name =>
      match Sh.builtin? name with
      | some act => act arguments
      | none => return 0

/-- Runs the commands in a file. -/
def sourceFile (launch : Launcher) : (fuel : Nat) → (path : Octets) → Sh Nat
  | 0, _ => throw (.killed 11)
  | fuel + 1, path => do
    let own ← Sh.own
    let found? ← if path.contains '/' then pure (some path) else Sh.programPath? path
    match found? with
    | none => Sh.fail (path ++ Octets.ofString ": not found")
    | some file =>
      match ← Sh.attempt (Attempt.openFile own.process .read file) with
      | .error errno =>
        Sh.fail (Octets.ofString "cannot open " ++ file ++
          Octets.ofString (": " ++ openingMessage false errno))
      | .ok number =>
        let text ← match ← Sh.attempt (Attempt.readAll number) with
          | .ok text => pure text
          | .error _ => pure []
        Sh.change fun own => { own with commandName? := some file }
        Sh.setStatus 0
        match ← Sh.catching (runText launch fuel false { rest := text, isFile := true }) with
        | .ok () | .error .returning => return (← Sh.own).status
        | .error interrupt => throw interrupt

end

end Script

end ComponentReference.Shell
