import ComponentReference.Host.Command
import ComponentReference.Machine.Editor.Run
import ComponentReference.Machine.Recipe.Run
import ComponentReference.Machine.Rule.Call
import ComponentReference.Machine.Shell.Run
import ComponentReference.Machine.Tool.Calling
import ComponentReference.Machine.Tool.Checking
import ComponentReference.Machine.Tool.Comparing
import ComponentReference.Machine.Tool.Dating
import ComponentReference.Machine.Tool.Dumping
import ComponentReference.Machine.Tool.Encoding
import ComponentReference.Machine.Tool.Fields
import ComponentReference.Machine.Tool.Finding
import ComponentReference.Machine.Tool.Moving
import ComponentReference.Machine.Tool.Reckoning
import ComponentReference.Machine.Tool.Requiring
import ComponentReference.Machine.Tool.Sorting
import ComponentReference.Machine.Tool.Words

/-!
# Launching programs

A program without a slash in its name is looked for in the directories of the
search path.  What is found is a program of the system, or a script whose first
line names the program that runs it, in the end a shell.  With `call` this machine is a
`Caller`, on which the parser of component files can be run.
-/

namespace ComponentReference.Shell

/-! ## The programs of the system -/

/-- The directories in which programs are looked for, in order. -/
def searchPath : List String :=
  ["/usr/local/sbin", "/usr/local/bin", "/usr/sbin", "/usr/bin", "/sbin", "/bin"]

/-- A program that takes itself for one of another name. -/
def calledAs (name : String) (program : Program) : Program :=
  program.adapt fun p => { p with title := name.toList }

/-- The programs that tell what differs from one system to the next, or that nothing is known of
but the options that they refuse. -/
def unsettled : List String :=
  ["df", "du", "chown", "chgrp", "fmt", "unexpand", "tsort", "factor", "logname",
    "users", "who", "numfmt", "csplit", "ptx", "shred", "pathchk",
    "dircolors", "dd", "base32", "basenc"]

/-- The programs of the system that are no shell, given how programs are run. -/
def tools (launch : Launcher) : List (String × Program) :=
  [("true", return 0), ("false", return 1), ("sync", Tool.refuseOptions), ("nproc", Tool.tellLine "1"),
    ("echo", Tool.echo), ("printf", Tool.printf), ("test", Tool.test false), ("[", Tool.test true),
    ("yes", Tool.yes), ("seq", Tool.seq),
    ("cat", Tool.cat), ("tac", Tool.tac), ("rev", Tool.rev), ("nl", Tool.nl), ("head", Tool.head),
    ("tail", Tool.tail), ("tee", Tool.tee), ("wc", Tool.wc),
    ("basename", Tool.basename), ("dirname", Tool.dirname),
    ("rm", Tool.rm), ("unlink", Tool.unlink), ("rmdir", Tool.rmdir), ("mkdir", Tool.mkdir),
    ("touch", Tool.touch), ("truncate", Tool.truncate), ("cp", Tool.cp), ("mv", Tool.mv),
    ("ln", Tool.ln), ("chmod", Tool.chmod), ("install", Tool.install),
    ("grep", Tool.grep 'G'), ("egrep", calledAs "grep" (Tool.grep 'E')),
    ("fgrep", calledAs "grep" (Tool.grep 'F')),
    ("sed", Editor.sed), ("awk", Rule.main launch), ("mawk", Rule.main launch), ("cut", Tool.cut), ("paste", Tool.paste), ("fold", Tool.fold),
    ("expand", Tool.expand), ("tr", Tool.tr), ("sort", Tool.sort), ("uniq", Tool.uniq),
    ("comm", Tool.comm), ("cmp", Tool.cmp), ("diff", Tool.diff), ("expr", Tool.expr),
    ("node", Tool.runScript), ("python3", Recipe.main), ("python", Recipe.main),
    ("find", Tool.find launch), ("base64", Tool.base64), ("od", Tool.od),
    ("ls", Tool.ls), ("readlink", Tool.readlink), ("realpath", Tool.realpath), ("stat", Tool.stat),
    ("env", Tool.env launch), ("printenv", Tool.printenv), ("xargs", Tool.xargs launch),
    ("sleep", Tool.sleep), ("timeout", Tool.timeout launch), ("nohup", Tool.runOnly launch ""),
    ("nice", Tool.runOnly launch "n"), ("stdbuf", Tool.runOnly launch "ioe"),
    ("setsid", Tool.runOnly launch "" 1),
    ("whoami", Tool.tellLine "root"), ("groups", Tool.tellLine "root"), ("id", Tool.identity),
    ("uname", Tool.uname), ("arch", Tool.tellLine "x86_64"), ("pwd", Tool.pwd),
    ("which", Tool.which), ("date", Tool.date),
    ("mkfifo", Tool.mkfifo), ("mknod", Tool.mknod), ("mktemp", Tool.mktemp)] ++ Tool.digestPrograms ++ unsettled.map fun name => (name, Tool.refuseOptions)

/-- The names that the shell goes by. -/
def shells : List String := ["sh", "dash", "bash"]

/-- The directory of the system's programs. -/
def systemPrograms : Location := ["usr", "bin"]

/-- A file system with the system's programs in it, and its devices. -/
def systemFiles : FileSystem :=
  let directories : List Location :=
    [["tmp"], ["usr"], systemPrograms, ["usr", "sbin"], ["usr", "lib"], ["usr", "local"],
      ["usr", "local", "bin"], ["usr", "local", "sbin"], ["dev"], ["dev", "fd"], ["etc"]]
  let names := (tools fun _ _ => return .error .missing).map Prod.fst ++ shells
  let programs := names.map fun name => (systemPrograms ++ [name], Entry.file [])
  let links := ["bin", "sbin", "lib"].map fun name => ([name], Entry.link ("usr/" ++ name))
  let devices : List (Location × Device) :=
    [(["dev", "null"], .nothing), (["dev", "zero"], .zeros), (["dev", "full"], .full),
      (["dev", "tty"], .terminal), (["dev", "stdin"], .stream 0), (["dev", "stdout"], .stream 1),
      (["dev", "stderr"], .stream 2)]
  let streams := (List.range 10).map fun n => (["dev", "fd", toString n], Device.stream n)
  let all (mode : ComponentReference.Mode) (entries : List (Location × Entry)) (fs : FileSystem) : FileSystem :=
    entries.foldl (fun fs (place, e) => (fs.put place e).mark place { mode, isOwn := false }) fs
  let fs := all 0o755 (directories.map (·, Entry.directory) ++ programs) {}
  let devices := (devices ++ streams).map fun (place, device) => (place, Entry.device device)
  (all 0o666 devices (all 0o777 links fs)).mark ["tmp"] { mode := 0o1777, isOwn := false }

/-! ## Interpreters -/

/-- How many octets of a script are looked at for the interpreter. -/
def firstOctets : Nat := 256

/-- Whether a character separates the words of the first line. -/
def isBlank (c : Char) : Bool :=
  c = ' ' ∨ c = '\t'

/-- The name of an interpreter, and the argument that may follow it.  A NUL ends both;
a name without octets is that of the directory. -/
def interpreterIn? (line : Octets) : Option (List Octets) :=
  let ends (c : Char) : Bool := c = Char.ofNat 0
  match ((line.dropWhile isBlank).reverse.dropWhile isBlank).reverse with
  | [] => none
  | trimmed =>
    let (name, rest) := trimmed.span fun c => !isBlank c && !ends c
    let name := if name.isEmpty then ['.'] else name
    match rest with
    | [] => some [name]
    | c :: rest =>
      if ends c then some [name]
      else some [name, (rest.dropWhile isBlank).takeWhile (!ends ·)]

/-- The interpreter that the first line of a script names, with the argument that may
follow it.  A script that is shorter than what is looked at goes on with NULs; where
no line ends in it, at least the name must. -/
def interpreter? (content : Bytes) : Option (List Octets) :=
  match Octets.ofBytes (content.take firstOctets) with
  | '#' :: '!' :: text =>
    let text := text ++ List.replicate (firstOctets - 2 - text.length) (Char.ofNat 0)
    let (line, after) := text.span fun c => c ≠ '\n' ∧ c ≠ Char.ofNat 0
    let nameEnds := (text.dropWhile isBlank).any fun c => isBlank c ∨ c = Char.ofNat 0
    if after.head? = some '\n' then interpreterIn? line
    else if nameEnds then interpreterIn? text.dropLast
    else none
  | _ => none

/-- Whether a place is that of one of the system's programs. -/
def systemProgram? (place : Location) : Option String :=
  match place.getLast? with
  | some name => if place = systemPrograms ++ [name] then some name else none
  | none => none

/-- The greatest number of scripts that run each other. -/
def maxInterpreters : Nat := 5

/-- A program of the system that is to be run. -/
structure Launch where
  program : String
  /-- The name that the program is told it was called by. -/
  title : Octets
  /-- The arguments that scripts put in front. -/
  arguments : List Octets := []

/-- What is run when a path is called from the directory `here`.  What is being
written does not run. -/
def find (here : Location) : (levels : Nat) → (path : Octets) → Attempt Launch
  | 0, _ => throw .linkLoop
  | levels + 1, path => do
    match ← Attempt.find here path with
    | (place, .file content) =>
      if !(← get).files.mayRun place then throw .denied
      if (← get).written? = some place then throw .busy
      match systemProgram? place, interpreter? content with
      | some program, _ => return { program, title := path }
      | none, some (interpreter :: argument) =>
        let launch ← find here levels interpreter
        return { launch with arguments := launch.arguments ++ argument ++ [path] }
      | none, _ => throw .unknownFormat
    | _ => throw .denied

/-! ## The shell as a program -/

/-- How a shell has been called. -/
structure ShellCall where
  letters : List Char := []
  /-- Whether the first of the other arguments is the script itself. -/
  isCommand : Bool := false
  operands : List Octets := []

/-- Reads the arguments of a shell, or gives what is wrong with an option. -/
def ShellCall.ofArguments (call : ShellCall) : (fuel : Nat) → List Octets →
    Except Octets ShellCall
  | 0, operands => .ok { call with operands }
  | fuel + 1, arguments =>
    let turned (on : Bool) (letter : Char) : ShellCall :=
      let others := call.letters.filter (· ≠ letter)
      { call with letters := if on then letter :: others else others }
    match arguments with
    | ['-'] :: rest | ['-', '-'] :: rest => .ok { call with operands := rest }
    | (sign :: letter :: letters) :: rest =>
      if sign ≠ '-' ∧ sign ≠ '+' then .ok { call with operands := arguments }
      else
        let further := if letters.isEmpty then rest else (sign :: letters) :: rest
        if letter = 'c' then ofArguments { call with isCommand := true } fuel further
        else if letter = 'l' then ofArguments call fuel further
        else if letter = 'o' then
          match rest with
          | name :: rest =>
            match Builtin.optionNames.lookup (String.ofList name) with
            | some letter =>
              ofArguments (turned (sign = '-') letter) fuel
                (if letters.isEmpty then rest else (sign :: letters) :: rest)
            | none => .error ("Illegal option -o ".toList ++ name)
          | [] => .ok { call with operands := [] }
        else if Own.optionLetters.contains letter then
          ofArguments (turned (sign = '-') letter) fuel further
        else .error ("Illegal option -".toList ++ [letter])
    | operands => .ok { call with operands }

/-- Whether octets are the name of a variable. -/
def isVariableName (s : Octets) : Bool :=
  match s with
  | c :: rest => (c.isAlpha || c = '_') && rest.all fun c => c.isAlphanum || c = '_'
  | [] => false

/-- The variables that a shell begins with. -/
def firstVariables (p : Process) : List Variable :=
  let given := p.environment.filterMap fun (name, value) =>
    if isVariableName name then some { name, value? := some value, exported := true : Variable }
    else none
  let own (name value : String) (exported : Bool := false) : Variable :=
    { name := name.toList, value? := some value.toList, exported }
  let directory : Variable :=
    { name := "PWD".toList, value? := some (Octets.ofString (Location.path p.directory).text),
      exported := true }
  let defaults := [own "IFS" " \t\n", own "OPTIND" "1", own "PS1" "# ", own "PS2" "> ",
    own "PS4" "+ ", own "PPID" "1"]
  let set (vs : List Variable) (v : Variable) : List Variable := Keyed.put Variable.name v vs
  let given := (given.filter (·.name ≠ "IFS".toList)).foldl set []
  let all := defaults.foldl (fun vs v =>
    if vs.any (·.name = v.name) ∧ v.name.take 2 = "PS".toList then vs else set vs v) given
  set all directory

/-- More steps than any script takes. -/
def manySteps : Nat := 10 ^ 12

/-- Runs a text as the script of a shell; gives how the shell ended. -/
def runScript (launch : Launcher) (isFile : Bool) (text : Octets) : Sh Exit := do
  let result ← Sh.catching (Script.runText launch manySteps true { rest := text, isFile })
  let exit ← Script.endShell launch manySteps result
  Script.runJobs launch manySteps none
  return exit

/-- Runs a shell. -/
def main (isLarge : Bool) (launch : Launcher) : Program := do
  let p ← read
  let refused (message : Octets) : Task Nat :=
    Task.refuse 2 (Octets.ofString "0: " ++ message)
  let fuel := (p.arguments.map List.length).sum + p.arguments.length + 1
  match ShellCall.ofArguments {} fuel p.arguments with
  | .error message => refused message
  | .ok call =>
    let start (name : Octets) (arguments : List Octets) (text : Octets) (isFile : Bool := true) :
        Task Nat := do
      let own : Own :=
        { number := p.number, name, arguments, settings := firstVariables p,
          directory := p.directory, turns := (← get).turns.length,
          directoryPath := Octets.ofString (Location.path p.directory).text,
          streams := p.streams, options := call.letters, fileMask := p.umask, isLarge }
      let (exit, st) := (runScript launch isFile text).run { machine := ← get, own }
      set st.machine
      match exit with
      | .ok (.status n) => return n
      | .ok (.signal n) => throw (.signal n)
      | .error _ => return st.own.status
    if call.isCommand then
      match call.operands with
      | [] => refused (Octets.ofString "-c requires an argument")
      | text :: [] => start p.title [] text false
      | text :: name :: rest => start name rest text false
    else if call.letters.contains 's' ∨ call.operands.isEmpty then
      start p.title call.operands (← Task.input)
    else
      match call.operands with
      | [] => return 0
      | path :: rest =>
        match ← Task.attempt (Attempt.openFile p .read path) with
        | .error errno =>
          if isLarge then
            Task.refuse (if call.letters.contains 'e' then 1 else 127)
              (path ++ Octets.ofString (": " ++ errno.message))
          refused (Octets.ofString "cannot open " ++ path ++
            Octets.ofString (": " ++ openingMessage false errno))
        | .ok number =>
          let text ← Task.attempt (Attempt.readAll number)
          start path rest (text.toOption.getD [])

/-! ## Launching -/

/-- The greatest number of programs that wait for each other. -/
def maxPrograms : Nat := 1000

/-- Runs the program at a path, on top of at most so many that wait for it. -/
def launchAt : (programs : Nat) → Launcher
  | 0, _, _ => return .error .missing
  | programs + 1, path, p => do
    match ← (find p.directory maxInterpreters path).run with
    | .error errno => return .error errno
    | .ok launch =>
      let isDirect := launch.arguments.isEmpty
      let p := { p with
        title := if isDirect then p.title else launch.title
        arguments := launch.arguments ++ p.arguments }
      let launcher := launchAt programs
      let program? := if shells.contains launch.program then some (main (launch.program = "bash") launcher)
        else (tools launcher).lookup launch.program
      match program? with
      | none => return .error .unknownFormat
      | some program =>
        match ← (program.run p).run with
        | .ok status => return .ok (.status (status % 256))
        | .error exit => return .ok exit

/-- The place that a call's program is to work in. -/
def workingPlace (fs : FileSystem) (here : Location) : Option String → Except Fault Location
  | none => .ok here
  | some path =>
    match fs.locate here {} path with
    | .error fault => .error fault
    | .ok ⟨place, some .directory⟩ =>
      if fs.mayRun place then .ok place else .error (.system .denied path)
    | .ok ⟨_, some _⟩ => .error (.system .notDirectory path)
    | .ok ⟨_, none⟩ => .error (.system .missing path)

/-- The machine on which a call runs, and which of its open files the streams are: an
empty input, and a pipe each for the output and for complaints. -/
def callStreams : Attempt (List (Nat × Nat)) := do
  let input ← Attempt.add { target := .nothing, reads := true }
  let (output, _) ← Attempt.pipe false
  let (errors, _) ← Attempt.pipe false
  return [(0, input), (1, output), (2, errors)]

/-- What has been written to an open file, if it is a pipe. -/
def pipeContent (m : Machine) (number : Option Nat) : Bytes :=
  match number.bind fun n => m.openFiles.lookup n with
  | some { target := .pipe n, .. } =>
    match m.pipes.lookup n with
    | some pipe => Octets.toBytes pipe.content
    | none => []
  | _ => []

/-- The environment in which programs are called. -/
def callEnvironment (env : Environment) : List (Octets × Octets) :=
  [("HOME", env.home), ("LANG", "C.UTF-8"), ("PATH", ":".intercalate searchPath)].map
    fun (name, value) => (name.toList, Octets.ofString value)

/-- The time that passes from one call to the next, in microseconds. -/
def callTime : Nat := 20000

/-- What becomes of a call. -/
def call (env : Environment) : Caller := fun w command =>
  let texts := command.program :: command.arguments ++ command.directory.toList
  if texts.any (·.toList.contains (Char.ofNat 0)) then (.error .embeddedNul, w)
  else
    match workingPlace w.files w.directory command.directory with
    | .error fault => (.error fault, w)
    | .ok place =>
      let m : Machine :=
        { files := { w.files with clock := w.files.clock + callTime }
          written? := w.logFile.map LogFile.location
          fresh := 1000 }
      let (streams, m) := callStreams.run m
      let streams := streams.toOption.getD []
      let title := Octets.ofString command.program
      let p : Process :=
        { number := m.fresh, title, arguments := command.arguments.map Octets.ofString,
          environment := callEnvironment env, directory := place, streams }
      let path := Octets.ofString (":".intercalate searchPath)
      match (Launcher.runNamed (launchAt maxPrograms) path title p).run
          { m with fresh := m.fresh + 1 } with
      | (.error errno, _) => (.error (.system errno command.program), w)
      | (.ok exit, m) =>
        let status : Int := match exit with
          | .status n => n
          | .signal n => -n
        let ending : Ending :=
          { status, output := pipeContent m (streams.lookup 1), errors := pipeContent m (streams.lookup 2) }
        let logFile := w.logFile.bind fun log => m.written?.map fun location => { log with location }
        (.ok ending, { w with files := m.files, directory := m.placeAfter 0 w.directory, logFile })

end ComponentReference.Shell
