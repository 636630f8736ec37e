import ComponentReference.Machine.Shell.Builtins

/-!
# Jobs

The scripts that a shell has started in the background.  Each has a place, which is taken
again when it has ended and the shell has waited for it.  The latest is the current one.
-/

namespace ComponentReference.Shell

namespace Sh

/-- The jobs of the shell, the latest first. -/
def jobsOfShell : Sh (List Job) := do
  let st ← get
  return (st.jobs.filter (·.shell = st.own.shell)).mergeSort fun a b => b.number ≤ a.number

/-- Changes a job. -/
def changeJob (number : Nat) (f : Job → Job) : Sh Unit :=
  modify fun st =>
    { st with jobs := st.jobs.map fun job => if job.number = number then f job else job }

/-- Forgets a job. -/
def forgetJob (number : Nat) : Sh Unit :=
  modify fun st => { st with jobs := st.jobs.filter (·.number ≠ number) }

/-- Notices which jobs of the shell have ended. -/
def seeEnds : Sh Unit :=
  modify fun st => { st with jobs := st.jobs.map fun job =>
    if job.shell = st.own.shell && job.hasEnded st.machine.clock then { job with isSeen := true }
    else job }

/-- Takes the first place that is free.  A job that was there is forgotten. -/
def takePlace : Sh Nat := do
  let jobs ← jobsOfShell
  let keeps (place : Nat) (job : Job) : Bool := job.place = place && !(job.isSeen && job.isAwaited)
  let places := (List.range (jobs.length + 1)).map (· + 1)
  let place := (places.find? fun place => !jobs.any (keeps place)).getD (jobs.length + 1)
  for job in jobs do
    if job.place = place then forgetJob job.number
  return place

/-- The job that a name stands for, or none if there is no name. -/
def jobNamed (name? : Option Octets) : Sh Job := do
  let jobs ← jobsOfShell
  let found (job? : Option Job) (message : String) : Sh Job :=
    match job? with
    | some job => return job
    | none => fail (Octets.ofString message)
  match name? with
  | none | some ['%'] | some ['%', '+'] | some ['%', '%'] => found jobs.head? "No current job"
  | some ['%', '-'] => found jobs[1]? "No previous job"
  | some name =>
    let number? := if name.head? = some '%' then Octets.nat? (name.drop 1) else none
    found (number?.bind fun number => jobs.find? (·.place = number))
      ("No such job: " ++ String.ofList name)

/-- The line that tells of a job. -/
def jobLine (jobs : List Job) (now : Nat) (withNumber : Bool) (job : Job) : Octets :=
  let isAt (i : Nat) : Bool := (jobs[i]?.map Job.number) = some job.number
  let mark := if isAt 0 then '+' else if isAt 1 then '-' else ' '
  let state := match job.hasEnded now, job.exit? with
    | true, some (.status 0) => "Done"
    | true, some (.status n) => "Done(" ++ toString n ++ ")"
    | true, some (.signal n) => signalMessage n
    | _, _ => "Running"
  let front := '[' :: Octets.ofNat job.place ++ [']', ' ', mark, ' '] ++
    (if withNumber then Octets.ofNat job.number ++ [' '] else []) ++ Octets.ofString state
  let blanks := max 1 (33 - front.length)
  front ++ List.replicate blanks ' ' ++ (List.replicate (job.width - 1) [' ', '|', ' ']).flatten ++ ['\n']

/-- Tells of jobs; those that have ended are forgotten. -/
def tellJobs : Builtin := fun arguments => do
  let (given, names) ← Builtin.split "lp" arguments
  let chosen ← if names.isEmpty then jobsOfShell else names.mapM fun name => jobNamed (some name)
  for job in chosen do
    let now := (← get).machine.clock
    match given.getLast?.map Prod.fst with
    | some 'p' => write (Octets.ofNat job.number ++ ['\n'])
    | mode =>
      write (jobLine (← jobsOfShell) now mode.isSome job)
      if job.hasEnded now then forgetJob job.number
  return 0

/-- Lets jobs go on, which they do only under the control of a terminal. -/
def resume : Builtin := fun arguments => do
  let (_, names) ← Builtin.split "" arguments
  let _ ← jobNamed names.head?
  let name := (names.head?.map String.ofList).getD "(null)"
  fail (Octets.ofString ("job " ++ name ++ " not created under job control"))

/-! ## Signals -/

/-- Does what a signal has the shell do. -/
def receive (signal : Nat) : Sh Unit := do
  let own ← own
  match if signal = 9 then none else own.traps.lookup signal with
  | some action =>
    if !action.isEmpty then change fun own => { own with caught := own.caught ++ [signal] }
  | none => if isHarmless signal then return else throw (.killed signal)

/-- Notices signals that have been sent to the shell meanwhile. -/
def notice : Sh Unit := do
  let st ← get
  if st.own.isApart then return
  match st.machine.signals.find? (·.1 = st.own.number) with
  | some (_, signal) =>
    let signals := st.machine.signals.erase (st.own.number, signal)
    set { st with machine := { st.machine with signals } }
    receive signal
  | none => return

/-- Lets a signal be sent to a process: the shell, or a job. -/
def sendSignal (signal target : Nat) : Sh Bool := do
  let st ← get
  if target = st.own.number then
    if st.own.isApart then
      set { st with machine := { st.machine with
        signals := st.machine.signals ++ [(target, signal)] } }
    else receive signal
    return true
  match st.jobs.find? (·.number = target) with
  | some job =>
    if job.isSeen then return false
    let now := st.machine.clock
    if !isHarmless signal && !job.hasEnded now then
      changeJob target fun job => { job with exit? := some (.signal signal), steps := [], clock := now }
    return true
  | none => return false

/-- Sends a signal, or tells how signals are called. -/
def kill : Builtin := fun arguments => do
  let usage : Sh Nat :=
    fail (Octets.ofString ("Usage: kill [-s sigspec | -signum | -sigspec] [pid | job]... or\n" ++
      "kill -l [exitstatus]"))
  let given : Sh (Bool × Option Nat × List Octets) := do
    let (given, operands) ← Builtin.split "l" arguments "s"
    let signals ← (given.filter (·.1 = 's')).mapM fun (_, name) =>
      match signal? name 1 with
      | some signal => pure signal
      | none => fail (Octets.ofString "invalid signal number or name: " ++ name)
    return (given.any (·.1 = 'l'), signals.getLast?, operands)
  let (lists, signal?, operands) ← match arguments with
    | ('-' :: name) :: rest =>
      match signal? name 1 with
      | some signal => pure (false, some signal, rest)
      | none => given
    | _ => given
  let signal? := if lists then signal? else some (signal?.getD 15)
  match signal?, lists, operands with
  | none, _, [] =>
    write (Octets.ofString "0\n")
    write ((signalNames.drop 1).flatMap fun (name, _) => Octets.ofString (name ++ "\n"))
    return 0
  | none, _, s :: _ =>
    let n ← number s
    let n := if n > 128 then n - 128 else n
    if n = 0 ∨ 64 < n then fail (Octets.ofString "invalid signal number or exit status: " ++ s)
    write (Octets.ofString (signalName n ++ "\n"))
    return 0
  | some _, _, [] | some _, true, _ => usage
  | some signal, false, targets =>
    let mut status := 0
    for target in targets do
      let arrived ← match target with
        | '%' :: _ => do
          -- a job is no group of its own
          let _ ← jobNamed (some target)
          pure false
        | '-' :: target => do
          let _ ← number target
          pure false
        | target => sendSignal signal (← number target)
      if !arrived then
        warn (Octets.ofString "No such process\n")
        status := 1
    return status

end Sh

end ComponentReference.Shell
