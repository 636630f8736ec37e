import ComponentReference.Machine.Recipe.Files

/-!
# Functions that recipes can call

The functions that are there from the beginning, and what the modules hold that a recipe
can bring in.
-/

namespace ComponentReference.Recipe.Run

/-- The number of a value as text, in a base. -/
def wholeNumber (v : Value) (base : Nat) : Run Value := do
  match v with
  | .str s =>
    let digits := stripped true true none s.toList
    let (sign, digits) : Int × List Char := match digits with
      | '-' :: digits => (-1, digits)
      | '+' :: digits => (1, digits)
      | digits => (1, digits)
    let isDigit (c : Char) : Bool := ((Text.hexValue? c).map (decide <| · < base)).getD false
    if digits.isEmpty ∨ !digits.all isDigit then
      fail "ValueError" ("invalid literal for int() with base " ++ toString base ++ ": " ++ v.display)
    return .int (sign * digits.foldl (fun n c => n * base + (Text.hexValue? c).getD 0) 0)
  | v =>
    match v.ratio? with
    | some (num, den) => return .int (Int.tdiv num den)
    | none => fail "TypeError" ("int() argument must be a string, a bytes-like object or a real number, not '" ++
        v.typeName ++ "'")

/-- How a call wants JSON to be written. -/
def writingOf (g : Given) : Value.Writing :=
  let indent? := ((g.named.lookup "indent").bind Value.int?).map Int.toNat
  let plain : Value.Writing := { indent?, betweenItems := if indent?.isSome then "," else ", " }
  let escapes := ((g.named.lookup "ensure_ascii").map Value.isTrue).getD true
  let sorts := ((g.named.lookup "sort_keys").map Value.isTrue).getD false
  match g.named.lookup "separators" with
  | some (.tuple [.str betweenItems, .str behindKeys])
  | some (.list [.str betweenItems, .str behindKeys]) =>
    { plain with escapes, sorts, betweenItems, behindKeys }
  | _ => { plain with escapes, sorts }

/-- The text of a value as JSON. -/
def jsonText (g : Given) : Run String := do
  match Value.json (writingOf g) 0 ((g.at? 0).getD .none) with
  | .ok s => return s
  | .error kind => fail "TypeError" ("Object of type " ++ kind ++ " is not JSON serializable")

/-- The value that text is as JSON. -/
def ofJsonText (s : String) : Run Value :=
  match Json.parse s.toList with
  | .ok j => return .ofJson j
  | .error fault => fail "json.decoder.JSONDecodeError" fault.message

/-- The arguments of a text function as values between separators. -/
def shownBetween (g : Given) : String :=
  let between := match g.named.lookup "sep" with
    | some (.str s) => s
    | _ => " "
  let ending := match g.named.lookup "end" with
    | some (.str s) => s
    | _ => "\n"
  between.intercalate (g.values.map Value.text) ++ ending

/-- What a function gives that is there from the beginning. -/
def callBuiltin (name : String) (g : Given) : Run Value := do
  let first := (g.at? 0).getD .none
  match name with
  | "print" =>
    let shown := Octets.ofString (shownBetween g)
    match g.named.lookup "file" with
    | some (.stream n _) => put n shown
    | some (.file n) =>
      let _ ← fileMethod n "write" { values := [.str (shownBetween g)] }
    | _ => put 1 shown
    if (g.named.lookup "flush").any Value.isTrue then flush
    return .none
  | "len" =>
    match first with
    | .str s => return .int s.length
    | .octets s => return .int s.length
    | .list items | .tuple items => return .int items.length
    | .dict fields => return .int fields.length
    | v => fail "TypeError" ("object of type '" ++ v.typeName ++ "' has no len()")
  | "str" =>
    match first, g.at? 1 with
    | .octets s, some _ => return .str ((Octets.toString? s).getD (String.ofList s))
    | v, _ => return .str (if g.values.isEmpty then "" else v.text)
  | "repr" => return .str first.display
  | "int" =>
    if g.values.isEmpty then return .int 0
    wholeNumber first ((((g.at? 1 "base").bind Value.int?).map Int.toNat).getD 10)
  | "float" =>
    match first with
    | .str s =>
      match s.toList with
      | _ =>
        match Json.parse (stripped true true none s.toList) with
        | .ok (.int n) => return Value.ofRatio n 1
        | .ok (.double x) => return .double x
        | _ =>
          match s with
          | "nan" => return .double (.nan false)
          | "inf" => return .double (.infinite false)
          | "-inf" => return .double (.infinite true)
          | _ => fail "ValueError" ("could not convert string to float: " ++ first.display)
    | v =>
      match v.ratio? with
      | some (num, den) => return Value.ofRatio num den
      | none => return v
  | "bool" => return .bool first.isTrue
  | "type" => return match first with
      | .fault kind _ => .fault kind []
      | v => .builtin v.typeName
  | "round" =>
    match first, g.at? 1 "ndigits" with
    | .double (.finite negative significand exponent), none | .double (.finite negative significand exponent), some .none =>
      let (num, den) := if 0 ≤ exponent then (significand * 2 ^ exponent.toNat, 1)
        else (significand, 2 ^ (-exponent).toNat)
      let below := num / den
      let twice := 2 * (num - below * den)
      let n := if twice < den ∨ (twice = den ∧ below % 2 = 0) then below else below + 1
      return .int (if negative then -Int.ofNat n else n)
    | .int n, none => return .int n
    | _, _ => throw .unknown
  | "list" => return .list (← orEmpty g)
  | "tuple" => return .tuple (← orEmpty g)
  | "reversed" => return .list (← itemsOf first).reverse
  | "sorted" => return .list (← ordered (← itemsOf first) (g.getD 9 "reverse" .none).isTrue)
  | "dict" =>
    let given ← match g.at? 0 with
      | some (.dict fields) => pure fields
      | some v => do
        let items ← itemsOf v
        pure (items.filterMap fun v => match v with
          | .tuple [k, v] | .list [k, v] => some (k, v)
          | _ => none)
      | none => pure []
    return .dict (given ++ g.named.map fun (k, v) => (.str k, v))
  | "bytes" | "bytearray" =>
    match first with
    | .str s => return .octets (Octets.ofString s)
    | .octets s => return .octets s
    | .int n => return .octets (List.replicate n.toNat (Char.ofNat 0))
    | .none => return .octets []
    | v => return .octets ((← itemsOf v).map fun v => Char.ofNat ((v.int?.getD 0).toNat % 256))
  | "chr" => return .str (String.singleton (Char.ofNat (first.int?.getD 0).toNat))
  | "ord" => return .int ((lettersOf first).headD ' ').toNat
  | "abs" =>
    match first.int? with
    | some n => return .int n.natAbs
    | none => binary "-" (.int 0) first
  | "range" =>
    let bounds := g.values.map fun v => v.int?.getD 0
    let (start, stop, step) : Int × Int × Int := match bounds with
      | [stop] => (0, stop, 1)
      | [start, stop] => (start, stop, 1)
      | start :: stop :: step :: _ => (start, stop, step)
      | [] => (0, 0, 1)
    if step = 0 then fail "ValueError" "range() arg 3 must not be zero"
    let count := if 0 < step then (stop - start + step - 1) / step else (start - stop - step - 1) / (-step)
    return .list ((List.range count.toNat).map fun i => .int (start + step * Int.ofNat i))
  | "enumerate" =>
    let start := ((g.at? 1 "start").bind Value.int?).getD 0
    return .list ((← itemsOf first).zipIdx.map fun (v, i) => .tuple [.int (start + i), v])
  | "zip" =>
    let lists ← g.values.mapM itemsOf
    let count := (lists.map List.length).min?.getD 0
    return .list ((List.range count).map fun i => .tuple (lists.map (·.getD i .none)))
  | "sum" => (← itemsOf first).foldlM (binary "+") ((g.at? 1 "start").getD (.int 0))
  | "min" | "max" =>
    let items ← if g.values.length = 1 then itemsOf first else pure g.values
    match ← ordered items (name = "max") with
    | v :: _ => return v
    | [] => fail "ValueError" (name ++ "() arg is an empty sequence")
  | "any" => return .bool ((← itemsOf first).any Value.isTrue)
  | "all" => return .bool ((← itemsOf first).all Value.isTrue)
  | "isinstance" =>
    let kinds := match g.at? 1 with
      | some (.tuple kinds) => kinds
      | some kind => [kind]
      | none => []
    return .bool (kinds.any fun kind => match kind with
      | .builtin name => name = first.typeName ∨ (name = "int" ∧ first.typeName = "bool")
      | _ => false)
  | "open" | "io.open" =>
    match g.at? 1 "mode" with
    | some (.str mode) => openText first mode
    | _ => openText first "r"
  | "input" =>
    match ← itemsOf (.stream 0 true) with
    | .str line :: _ => return .str (String.ofList (Octets.chomp line.toList))
    | _ => fail "EOFError" "EOF when reading a line"
  | "exit" | "quit" | "sys.exit" => raise (.fault "SystemExit" g.values)
  | "os._exit" => act (Task.finish ((first.int?.getD 0) % 256).toNat)
  | "os.abort" => act (throw (.signal 6))
  | "os.getpid" => return .int (← act read).number
  | "os.getppid" => return .int 1
  | "os.kill" | "signal.raise_signal" =>
    let (target?, signal?) := if name = "os.kill" then (g.at? 0, g.at? 1) else (none, g.at? 0)
    let own : Int := (← act read).number
    let signal := ((signal?.bind Value.int?).getD 0).toNat
    if (target?.bind Value.int?).getD own = own then
      if signal = 0 then return .none
      if signal = 2 then raise (.fault "KeyboardInterrupt" [])
      act (throw (.signal signal))
    throw .unknown
  | "os.getenv" =>
    match ← act (Task.setting? first.text) with
    | some s => return .str ((Octets.toString? s).getD "")
    | none => return (g.at? 1).getD .none
  | "json.dumps" => return .str (← jsonText g)
  | "json.dump" =>
    let text ← jsonText g
    match g.at? 1 "fp" with
    | some (.stream n isText) => streamMethod n isText "write" { values := [.str text] }
    | some (.file n) => fileMethod n "write" { values := [.str text] }
    | _ => return .none
  | "json.loads" =>
    match first with
    | .octets s => ofJsonText (← decoded s)
    | v => ofJsonText v.text
  | "json.load" =>
    let text ← match first with
      | .stream n isText => streamMethod n isText "read" { values := [] }
      | .file n => fileMethod n "read" { values := [] }
      | v => pure v
    match text with
    | .octets s => ofJsonText (← decoded s)
    | v => ofJsonText v.text
  | "time.sleep" =>
    match first.ratio? with
    | some (num, den) =>
      let time := num.toNat * 1000000 / den
      act (modify fun m => m.atTime (m.clock + time))
      return .none
    | none => return .none
  | "pathlib.Path" | "pathlib.PurePath" =>
    return .path (Path.ofString (String.ofList
      ((g.values.drop 1).foldl (fun p v => Tool.below p (lettersOf v)) (lettersOf first)))).text
  | "pathlib.Path.cwd" => return .path ((Octets.toString? (← directory)).getD "")
  | name => onFiles name g
where
  /-- The items of the first argument, if there is one. -/
  orEmpty (g : Given) : Run (List Value) :=
    match g.values with
    | [] => return []
    | v :: _ => itemsOf v

/-- Functions that are there from the beginning, without a module. -/
def plainFunctions : List String :=
  ["print", "len", "str", "repr", "int", "float", "bool", "list", "tuple", "reversed", "sorted",
    "dict", "bytes", "bytearray", "chr", "ord", "abs", "range", "enumerate", "zip", "sum", "min",
    "max", "any", "all", "isinstance", "open", "input", "exit", "quit", "type", "round", "map",
    "filter"]

/-- The kinds of failures. -/
def kinds : List String :=
  ["SystemExit", "Exception", "BaseException", "ValueError", "TypeError", "KeyError", "IndexError",
    "RuntimeError", "OSError", "IOError", "FileNotFoundError", "PermissionError",
    "FileExistsError", "NotADirectoryError", "IsADirectoryError", "KeyboardInterrupt",
    "ZeroDivisionError", "AttributeError", "NameError", "AssertionError", "NotImplementedError",
    "UnicodeDecodeError", "EOFError", "ArithmeticError", "LookupError", "ImportError",
    "ModuleNotFoundError"]

/-- The modules that can be brought in. -/
def modules : List String :=
  ["sys", "os", "os.path", "json", "signal", "time", "pathlib", "io", "re", "math", "subprocess",
    "random", "shutil", "string", "itertools", "functools", "collections", "datetime", "textwrap",
    "traceback", "typing", "base64", "hashlib", "tempfile", "glob", "logging", "codecs", "struct",
    "__future__"]

/-- The numbers of signals by name. -/
def signalNumbers : List (String × Nat) :=
  [("SIGHUP", 1), ("SIGINT", 2), ("SIGQUIT", 3), ("SIGILL", 4), ("SIGTRAP", 5), ("SIGABRT", 6),
    ("SIGBUS", 7), ("SIGFPE", 8), ("SIGKILL", 9), ("SIGUSR1", 10), ("SIGSEGV", 11),
    ("SIGUSR2", 12), ("SIGPIPE", 13), ("SIGALRM", 14), ("SIGTERM", 15)]

/-- The functions of modules. -/
def moduleFunctions : List String :=
  ["sys.exit", "os._exit", "os.abort", "os.getpid", "os.getppid", "os.kill", "os.getenv", "json.dumps", "json.dump", "json.loads", "json.load", "time.sleep", "pathlib.Path",
    "pathlib.PurePath", "signal.raise_signal", "io.open"]

/-- What a module has under a name. -/
def moduleMember (module name : String) : Run Value := do
  let full := module ++ "." ++ name
  if moduleFunctions.contains full ∨ fileFunctions.contains full then return .builtin full
  if modules.contains full then return .module full
  match module, name with
  | "sys", "argv" => return .list ((← get).arguments.map .str)
  | "sys", "stdin" => return .stream 0 true
  | "sys", "stdout" => return .stream 1 true
  | "sys", "stderr" => return .stream 2 true
  | "sys", "version_info" => return .tuple [.int 3, .int 11]
  | "sys", "maxsize" => return .int (2 ^ 63 - 1)
  | "sys", "platform" => return .str "linux"
  | "os", "environ" =>
    let p ← act read
    let shown (s : Octets) : Value := .str ((Octets.toString? s).getD (String.ofList s))
    return .dict (p.environment.map fun (k, v) => (shown k, shown v))
  | "os", "sep" => return .str "/"
  | "os", "linesep" => return .str "\n"
  | "json", "JSONDecodeError" => return .fault "json.decoder.JSONDecodeError" []
  | "signal", name =>
    match signalNumbers.lookup name with
    | some n => return .int n
    | none => missing
  | _, _ => missing
where
  /-- Fails because there is no such thing. -/
  missing : Run Value :=
    if ["sys", "os", "os.path", "json", "signal", "time", "pathlib"].contains module then
      fail "AttributeError" ("module '" ++ (if module = "os.path" then "posixpath" else module) ++
        "' has no attribute '" ++ name ++ "'")
    else throw .unknown

/-- What a value has under a name. -/
def memberOf (v : Value) (name : String) : Run Value := do
  match v, name with
  | .module m, name => moduleMember m name
  | .stream n _, "buffer" => return .stream n false
  | .path s, "name" => return .str (String.ofList (nameOf s.toList))
  | .path s, "suffix" => return .str (String.ofList (endingOf (nameOf s.toList)))
  | .path s, "stem" =>
    let name := nameOf s.toList
    return .str (String.ofList (name.take (name.length - (endingOf name).length)))
  | .path s, "parent" => return .path (Path.ofString s).parent.text
  | .path s, "parts" => return .tuple ((Path.namesIn s).map .str)
  | .builtin "pathlib.Path", "cwd" => return .builtin "pathlib.Path.cwd"
  | .fault _ arguments, "args" => return .tuple arguments
  | .fault "SystemExit" arguments, "code" => return match arguments with
      | [] => .none
      | [v] => v
      | several => .tuple several
  | .fault kind _, "__name__" => return .str (Value.plainKind kind)
  | .builtin name, "__name__" | .function name _ _, "__name__" => return .str name
  | .fault _ [.int n, .str _, .str _], "errno" => return .int n
  | .fault _ [.int _, .str s, .str _], "strerror" => return .str s
  | .fault _ [.int _, .str _, .str s], "filename" => return .str s
  | v, name => return .method v name

end ComponentReference.Recipe.Run
