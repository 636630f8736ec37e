import ComponentReference.CommandLine.Argument
import ComponentReference.Host.Path
import ComponentReference.Json.Basic
import ComponentReference.Keyed

/-!
# Options

What a command line asks for.  Flags and the path may come in any order; of a flag
that comes again the last value counts.  The first plain argument that is reached
while flags are still to come is the path, or else the first one after the last
flag; whatever is left over is a fault.
-/

namespace ComponentReference.CommandLine

/-- Where the log goes besides the console. -/
inductive LogTarget where
  | file (path : Path)
  /-- A separator came where the path should be. -/
  | noPath
deriving DecidableEq, Repr

/-- What a command line asks for. -/
structure Options where
  path : String := "."
  verbose : Bool := false
  logFile : Option LogTarget := none
  /-- The settings that go before those of the configuration file. -/
  overrides : Json.Fields := []

/-- Why a command line leads to no run. -/
inductive Stop where
  | help
  | refused (fault : UsageFault)
deriving DecidableEq, Repr

namespace Options

/-- The setting that a value makes.  A separator is taken out of values, of which
it leaves none. -/
def setting (value : String) : Json :=
  if value = Argument.separatorText then .arr [] else .str value

/-- The place for the log that a value names. -/
def logTarget (value : String) : LogTarget :=
  if value = Argument.separatorText then .noPath else .file (Path.ofString value)

/-- The options with one flag more. -/
def set (o : Options) (flag : Flag) (value : String) : Options :=
  match flag.key? with
  | some key => { o with overrides := Keyed.put Prod.fst (key, setting value) o.overrides }
  | none =>
    match flag with
    | .verbose => { o with verbose := true }
    | .logFile => { o with logFile := some (logTarget value) }
    | _ => o

end Options

/-! ## Flags and their values -/

/-- A flag that is asked for, with its value if it has come. -/
structure Request where
  flag : Flag
  value : Option String := none
deriving DecidableEq, Repr

namespace Request

/-- The requests that letters after a flag's own letter make: the value of the flag
if it takes one, else more flags. -/
def ofLetters (f : Flag) : List Char → Except UsageFault (List Request)
  | [] => .ok [{ flag := f }]
  | c :: rest =>
    if f.takesValue then .ok [⟨f, some (String.ofList (c :: rest))⟩]
    else
      match Flag.ofLetter? c with
      | some g => do return { flag := f } :: (← ofLetters g rest)
      | none => .error (.valueUnwanted f (String.ofList (c :: rest)))

/-- The requests that a flag makes together with what is attached to it. -/
def ofFlag (f : Flag) (byLetter : Bool) : Option String → Except UsageFault (List Request)
  | none => .ok [{ flag := f }]
  | some value =>
    if f.takesValue then .ok [⟨f, some value⟩]
    else if byLetter ∧ value ≠ "" then ofLetters f value.toList
    else .error (.valueUnwanted f value)

/-- Whether the value is still to come. -/
def awaitsValue (r : Request) : Bool :=
  r.flag.takesValue && r.value.isNone

end Request

/-! ## Reading a command line -/

/-- How far the reading of a command line has come. -/
structure Progress where
  options : Options := {}
  /-- Whether the path has come. -/
  hasPath : Bool := false
  /-- The arguments that mean nothing. -/
  leftOver : List String := []

namespace Progress

/-- The progress after the path. -/
def takePath (p : Progress) (path : String) : Progress :=
  { p with options := { p.options with path }, hasPath := true }

/-- The progress after arguments that mean nothing. -/
def leave (p : Progress) (arguments : List Argument) : Progress :=
  { p with leftOver := p.leftOver ++ arguments.map Argument.text }

/-- The progress after requests.  A request for help ends the reading. -/
def takeRequests : Progress → List Request → Except Stop Progress
  | p, [] => .ok p
  | p, r :: rest =>
    if r.flag = .help then .error .help
    else takeRequests { p with options := p.options.set r.flag (r.value.getD "") } rest

/-- The progress after the arguments behind the last flag.  A separator beside the
path belongs to it. -/
def takeTail (p : Progress) (tail : List Argument) : Progress :=
  if p.hasPath then p.leave tail
  else
    match tail with
    | .separator :: .plain path :: rest | .plain path :: .separator :: rest
    | .plain path :: rest => (p.takePath path).leave rest
    | _ => p

/-- The progress after arguments. -/
def takeArguments : List Argument → Progress → Except Stop Progress
  | [], p => .ok p
  | .unknown s :: rest, p => takeArguments rest (p.leave [.unknown s])
  | .separator :: rest, p => .ok (p.takeTail (.separator :: rest))
  | .plain s :: rest, p =>
    if rest.any Argument.isFlagLike then
      takeArguments rest (if p.hasPath then p.leave [.plain s] else p.takePath s)
    else .ok (p.takeTail (.plain s :: rest))
  | .flag f byLetter attached :: rest, p =>
    match Request.ofFlag f byLetter attached with
    | .error fault => .error (.refused fault)
    | .ok requests =>
      match requests.find? Request.awaitsValue, rest with
      | none, rest =>
        match p.takeRequests requests with
        | .error stop => .error stop
        | .ok p => takeArguments rest p
      | some _, .plain value :: rest =>
        match p.takeRequests (requests.map fun r =>
            if r.awaitsValue then { r with value := some value } else r) with
        | .error stop => .error stop
        | .ok p => takeArguments rest p
      | some r, _ => .error (.refused (.valueMissing r.flag))

/-- The options, unless something is left over. -/
def finish (p : Progress) : Except Stop Options :=
  if p.leftOver.isEmpty then .ok p.options else .error (.refused (.unrecognized p.leftOver))

end Progress

/-- The options that a command line asks for. -/
def Options.ofArguments (arguments : List String) : Except Stop Options :=
  match Argument.ofStrings arguments with
  | .error fault => .error (.refused fault)
  | .ok arguments =>
    match Progress.takeArguments arguments {} with
    | .error stop => .error stop
    | .ok p => p.finish

end ComponentReference.CommandLine
