import ComponentReference.Machine.Recipe.Functions
import ComponentReference.Machine.Recipe.Reader

/-!
# Running recipes

The steps of a recipe are done one after the other.  A failure that nothing handles is
told with the steps that led to it.
-/

namespace ComponentReference.Recipe

namespace Run

/-- The names of methods that change what they are called on. -/
def changing : List String :=
  ["append", "extend", "insert", "pop", "sort", "reverse", "clear", "remove", "update", "setdefault"]

/-- What is called on an item that lasts until a block ends. -/
def isCollection : Value → Bool
  | .list _ | .dict _ | .tuple _ => true
  | _ => false

/-- Whether a failure is of a kind, which may stand for others. -/
def isOfKind (kind : String) : Value → Bool
  | .fault actual _ =>
    let actual := Value.plainKind actual
    let kind := Value.plainKind kind
    let files := ["FileNotFoundError", "PermissionError", "FileExistsError", "NotADirectoryError",
      "IsADirectoryError", "BrokenPipeError"]
    let ends := ["SystemExit", "KeyboardInterrupt"]
    kind = actual || kind = "BaseException" || (kind = "Exception" && !ends.contains actual) ||
      ((kind = "OSError" || kind = "IOError") && (files.contains actual || actual = "OSError")) ||
      (kind = "ValueError" && ["UnicodeDecodeError", "JSONDecodeError"].contains actual) ||
      (kind = "LookupError" && ["KeyError", "IndexError"].contains actual) ||
      (kind = "ArithmeticError" && actual = "ZeroDivisionError") ||
      (kind = "ImportError" && actual = "ModuleNotFoundError")
  | _ => false

/-- The kinds of failures that a value names. -/
def kindsOf : Value → List String
  | .builtin name => [name]
  | .fault kind _ => [kind]
  | .tuple items => items.filterMap fun v => match v with
    | .builtin name => some name
    | .fault kind _ => some kind
    | _ => none
  | _ => []

/-- What a name stands for. -/
def lookUp (name : String) : Run Value := do
  match ← variableOf name with
  | some v => return v
  | none =>
    if plainFunctions.contains name ∨ kinds.contains name then return .builtin name
    match name with
    | "__name__" => return .str "__main__"
    | "__file__" => return .str (← get).source.1
    | "__doc__" => return .none
    | _ => fail "NameError" ("name '" ++ name ++ "' is not defined")

/-- Fails because a value has no such method. -/
def missing (self : Value) (name : String) : Run Value :=
  fail "AttributeError" ("'" ++ self.typeName ++ "' object has no attribute '" ++ name ++ "'")

/-- The value of a sign between two values; text before a percent sign is a format. -/
def operation (sign : String) (a b : Value) : Run Value := do
  let values : List Value := match b with
    | .tuple items => items
    | v => [v]
  match sign, a with
  | "%", .str s => return .str (String.ofList (← filledIn (s.length + 1) s.toList values))
  | "%", .octets s => return .octets (← filledIn (s.length + 1) s values)
  | sign, a => binary sign a b

mutual

/-- The value of an expression. -/
def eval : (fuel : Nat) → Expr → Run Value
  | 0, _ => throw .unknown
  | fuel + 1, e => do
    match e with
    | .const j => return .ofJson j
    | .octets s => return .octets s
    | .name s => lookUp s
    | .list items => return .list (← evalAll fuel items)
    | .tuple items => return .tuple (← evalAll fuel items)
    | .dict fields =>
      fields.foldlM (fun (v : Value) (k, e) => do
        let k ← eval fuel k
        withItem v k (← eval fuel e)) (.dict [])
    | .member e name => memberOf (← eval fuel e) name
    | .item e index =>
      let v ← eval fuel e
      itemAt v (← eval fuel index)
    | .slice e from? to? step? =>
      let v ← eval fuel e
      let bound (e? : Option Expr) : Run (Option Int) := do
        match e? with
        | none => return none
        | some e => return (← eval fuel e).int?
      let from? ← bound from?
      let to? ← bound to?
      let step? ← bound step?
      match v with
      | .list items => return .list (sliced items from? to? step?)
      | .tuple items => return .tuple (sliced items from? to? step?)
      | .str s => return .str (String.ofList (sliced s.toList from? to? step?))
      | .octets s => return .octets (sliced s from? to? step?)
      | v => fail "TypeError" ("'" ++ v.typeName ++ "' object is not subscriptable")
    | .spread _ => throw .unknown
    | .unary sign e =>
      let v ← eval fuel e
      match sign, v with
      | "not", v => return .bool (!v.isTrue)
      | "-", .double x =>
        return .double (match x with
          | .finite negative significand exponent => .finite (!negative) significand exponent
          | .infinite negative => .infinite (!negative)
          | .nan negative => .nan (!negative))
      | sign, v =>
        match v.int? with
        | some n => return .int (if sign = "-" then -n else if sign = "~" then -n - 1 else n)
        | none => fail "TypeError" ("bad operand type for unary " ++ sign ++ ": '" ++ v.typeName ++ "'")
    | .binary sign a b =>
      let a ← eval fuel a
      operation sign a (← eval fuel b)
    | .compare first others => compareAll fuel (← eval fuel first) others
    | .both a b =>
      let v ← eval fuel a
      if v.isTrue then eval fuel b else return v
    | .either a b =>
      let v ← eval fuel a
      if v.isTrue then return v else eval fuel b
    | .choice condition yes no =>
      if (← eval fuel condition).isTrue then eval fuel yes else eval fuel no
    | .template pieces =>
      return .str (String.join ((← evalAll fuel pieces).map Value.text))
    | .shown e conversion format =>
      let v ← eval fuel e
      let v := if conversion = "r" then .str v.display
        else if conversion = "s" then .str v.text else v
      return .str (← formatted v format)
    | .each value target source conditions =>
      let items ← itemsOf (← eval fuel source)
      let values ← items.filterMapM fun item => do
        assign fuel target item
        let holds ← conditions.allM fun condition => return (← eval fuel condition).isTrue
        if holds then some <$> eval fuel value else return none
      return .list values
    | .eachField key value target source conditions =>
      let items ← itemsOf (← eval fuel source)
      items.foldlM (fun (v : Value) item => do
        assign fuel target item
        let holds ← conditions.allM fun condition => return (← eval fuel condition).isTrue
        if !holds then return v
        let k ← eval fuel key
        withItem v k (← eval fuel value)) (.dict [])
    | .function parameters value => return .function "<lambda>" parameters [.result (some value)]
    | .call (.member owner name) arguments named =>
      if changing.contains name then
        let self ← eval fuel owner
        if isCollection self then
          let g ← given fuel arguments named
          let (result, changed) ← collectionMethod self name g
          match owner with
          | .name _ | .item _ _ => assign fuel owner changed
          | _ => pure ()
          return result
        else apply fuel (← memberOf self name) (← given fuel arguments named)
      else
        let f ← memberOf (← eval fuel owner) name
        apply fuel f (← given fuel arguments named)
    | .call f arguments named =>
      let f ← eval fuel f
      apply fuel f (← given fuel arguments named)

/-- The values of expressions, in which one may stand for several. -/
def evalAll : (fuel : Nat) → List Expr → Run (List Value)
  | 0, _ => throw .unknown
  | _, [] => return []
  | fuel + 1, e :: rest => do
    let first ← match e with
      | .spread e => itemsOf (← eval fuel e)
      | e => do pure [← eval fuel e]
    return first ++ (← evalAll fuel rest)

/-- The arguments of a call. -/
def given : (fuel : Nat) → List Expr → List (String × Expr) → Run Given
  | 0, _, _ => throw .unknown
  | fuel + 1, arguments, named => do
    let values ← evalAll fuel arguments
    let named ← named.mapM fun (name, e) => return (name, ← eval fuel e)
    return { values, named }

/-- Whether each comparison of a chain holds. -/
def compareAll : (fuel : Nat) → Value → List (String × Expr) → Run Value
  | 0, _, _ => throw .unknown
  | _, _, [] => return .bool true
  | fuel + 1, first, (sign, e) :: rest => do
    let second ← eval fuel e
    if ← compare sign first second then compareAll fuel second rest else return .bool false

/-- What a call gives. -/
def apply : (fuel : Nat) → Value → Given → Run Value
  | 0, _, _ => throw .unknown
  | fuel + 1, f, g => do
    match f with
    | .builtin "map" =>
      match g.values with
      | [f, items] =>
        return .list (← (← itemsOf items).mapM fun v => apply fuel f { values := [v] })
      | _ => throw .unknown
    | .builtin "filter" =>
      match g.values with
      | [f, items] =>
        return .list (← (← itemsOf items).filterM fun v => do
          match f with
          | .none => return v.isTrue
          | f => return (← apply fuel f { values := [v] }).isTrue)
      | _ => throw .unknown
    | .builtin name =>
      if kinds.contains name then return .fault name g.values else callBuiltin name g
    | .fault kind [] => return .fault kind g.values
    | .method self name =>
      match self with
      | .str _ | .octets _ => textMethod self name g
      | .list _ | .tuple _ | .dict _ => return (← collectionMethod self name g).1
      | .stream n isText => streamMethod n isText name g
      | .file n => fileMethod n name g
      | .path s => pathMethod s name g
      | .int n =>
        match name with
        | "bit_length" => return .int (if n = 0 then 0 else n.natAbs.log2 + 1)
        | _ => missing self name
      | self => missing self name
    | .function name parameters body =>
      let frame ← parameters.zipIdx.mapM fun ((parameter, default?), i) => do
        match g.at? i parameter, default? with
        | some v, _ => return (parameter, v)
        | none, some e => return (parameter, ← eval fuel e)
        | none, none => fail "TypeError" (name ++ "() missing 1 required positional argument: '" ++
            parameter ++ "'")
      modify fun m => { m with frames := frame :: m.frames, shared := [] :: m.shared, steps := (name, 0) :: m.steps }
      let leave : Run Unit :=
        modify fun m => { m with frames := m.frames.tail, shared := m.shared.tail, steps := m.steps.tail }
      let result ← tryCatch (do
          doAll fuel body
          return Value.none) fun stop => do
        match stop with
        | .result v => return v
        | stop =>
          leave
          throw stop
      leave
      return result
    | v => fail "TypeError" ("'" ++ v.typeName ++ "' object is not callable")

/-- Gives a value to what an expression names. -/
def assign : (fuel : Nat) → Expr → Value → Run Unit
  | 0, _, _ => throw .unknown
  | fuel + 1, target, v => do
    match target with
    | .name s => setVariable s v
    | .item e index =>
      let container ← eval fuel e
      let index ← eval fuel index
      assign fuel e (← withItem container index v)
    | .tuple targets | .list targets =>
      let items ← itemsOf v
      if items.length < targets.length then
        fail "ValueError" ("not enough values to unpack (expected " ++ toString targets.length ++
          ", got " ++ toString items.length ++ ")")
      if targets.length < items.length then
        fail "ValueError" ("too many values to unpack (expected " ++ toString targets.length ++ ")")
      for (target, item) in targets.zip items do
        assign fuel target item
    | _ => throw .unknown

/-- Does steps one after the other. -/
def doAll : (fuel : Nat) → List Step → Run Unit
  | 0, _ => throw .unknown
  | _, [] => return
  | fuel + 1, step :: rest => do
    doStep fuel step
    doAll fuel rest

/-- Does a step. -/
def doStep : (fuel : Nat) → Step → Run Unit
  | 0, _ => throw .unknown
  | fuel + 1, step => do
    match step with
    | .value line e =>
      atLine line
      let _ ← eval fuel e
    | .assign line targets e =>
      atLine line
      let v ← eval fuel e
      for target in targets do
        assign fuel target v
    | .update line sign target e =>
      atLine line
      let old ← eval fuel target
      assign fuel target (← operation sign old (← eval fuel e))
    | .bring line parts =>
      atLine line
      for (owner, part?, called) in parts do
        let top := owner.takeWhile (· ≠ '.') |>.toString
        if !modules.contains owner then
          fail "ModuleNotFoundError" ("No module named '" ++ owner ++ "'")
        match part? with
        | none =>
          if called = owner then setVariable top (.module top)
          else setVariable called (.module owner)
        | some part =>
          if owner ≠ "__future__" ∧ owner ≠ "typing" then
            setVariable called (← moduleMember owner part)
    | .branch condition yes no =>
      if (← eval fuel condition).isTrue then doAll fuel yes else doAll fuel no
    | .loop condition body => loopWhile fuel condition body
    | .forEach target source body =>
      loopOver fuel target body (← itemsOf (← eval fuel source))
    | .pass => return
    | .shared names =>
      modify fun m => { m with shared := match m.shared with
        | first :: rest => (names ++ first) :: rest
        | [] => [] }
    | .remove line targets =>
      atLine line
      for target in targets do
        match target with
        | .name s => removeVariable s
        | .item e index =>
          let container ← eval fuel e
          let index ← eval fuel index
          assign fuel e (← withoutItem container index)
        | _ => throw .unknown
    | .require line condition message? =>
      atLine line
      if !(← eval fuel condition).isTrue then
        match message? with
        | some e => raise (.fault "AssertionError" [← eval fuel e])
        | none => raise (.fault "AssertionError" [])
    | .leave => throw .leave
    | .skip => throw .skip
    | .fail line e? =>
      atLine line
      match e? with
      | none => throw .unknown
      | some e =>
        match ← eval fuel e with
        | .builtin kind => raise (.fault kind [])
        | v => raise v
    | .attempt body handlers otherwise atEnd =>
      let run : Run Unit := do
        let stop? ← tryCatch (do
            doAll fuel body
            return none) fun stop => return some stop
        match stop? with
        | none => doAll fuel otherwise
        | some (.raised v steps) => handle fuel v steps handlers
        | some stop => throw stop
      let stop? ← tryCatch (do
          run
          return none) fun stop => return some stop
      doAll fuel atEnd
      match stop? with
      | none => return
      | some stop => throw stop
    | .define name parameters body => setVariable name (.function name parameters body)
    | .result e? =>
      match e? with
      | none => throw (.result .none)
      | some e => throw (.result (← eval fuel e))
    | .withFile line e target? body =>
      atLine line
      let v ← eval fuel e
      match target? with
      | some target => assign fuel target v
      | none => pure ()
      doAll fuel body

/-- Does a body as long as a condition holds. -/
def loopWhile : (fuel : Nat) → Expr → List Step → Run Unit
  | 0, _, _ => throw .unknown
  | fuel + 1, condition, body => do
    if !(← eval fuel condition).isTrue then return
    if ← goesOn fuel body then loopWhile fuel condition body

/-- Does a body for each of some items. -/
def loopOver : (fuel : Nat) → Expr → List Step → List Value → Run Unit
  | 0, _, _, _ => throw .unknown
  | _, _, _, [] => return
  | fuel + 1, target, body, item :: rest => do
    assign fuel target item
    if ← goesOn fuel body then loopOver fuel target body rest

/-- Does the body of a loop; gives whether the loop goes on. -/
def goesOn : (fuel : Nat) → List Step → Run Bool
  | 0, _ => throw .unknown
  | fuel + 1, body =>
    tryCatch (do
      doAll fuel body
      return true) fun stop =>
        match stop with
        | .skip => return true
        | .leave => return false
        | stop => throw stop

/-- Handles a failure by the first handler that is for it. -/
def handle : (fuel : Nat) → Value → List (String × Nat) →
    List (Option Expr × String × List Step) → Run Unit
  | 0, _, _, _ => throw .unknown
  | _, v, steps, [] => throw (.raised v steps)
  | fuel + 1, v, steps, (kind?, called, body) :: rest => do
    let isFor ← match kind? with
      | none => pure true
      | some e => do
        let kinds := kindsOf (← eval fuel e)
        pure (kinds.any (isOfKind · v))
    if isFor then
      if called ≠ "" then setVariable called v
      doAll fuel body
    else handle fuel v steps rest

end

end Run

/-- More nested steps than any recipe takes. -/
def manyLevels : Nat := 10 ^ 9

/-- The lines that tell of a failure. -/
def account (source : String × List String) (steps : List (String × Nat)) (v : Value) : String :=
  let shown : List String := steps.reverse.map fun (name, line) =>
    let text := (source.2[line - 1]?).getD ""
    let text := String.ofList (Run.stripped true true none text.toList)
    "  File \"" ++ source.1 ++ "\", line " ++ toString line ++ ", in " ++ name ++ "\n" ++
      (if text.isEmpty then "" else "    " ++ text ++ "\n")
  let kind := match v with
    | .fault kind _ => kind
    | v => v.typeName
  let message := v.text
  "Traceback (most recent call last):\n" ++ String.join shown ++
    (if message.isEmpty then kind else kind ++ ": " ++ message) ++ "\n"

/-- The lines that tell why a text is no recipe. -/
def misreadAccount (source : String × List String) (m : Misreading) : String :=
  let text := ((source.2[m.line - 1]?).getD "").toList
  let shown := Run.stripped true false none text
  let column := m.column - (text.length - shown.length)
  "  File \"" ++ source.1 ++ "\", line " ++ toString m.line ++ "\n" ++
    (if shown.isEmpty then "" else "    " ++ String.ofList shown ++ "\n") ++
    (if shown.isEmpty ∨ m.width = 0 then "" else
      "    " ++ String.ofList (List.replicate column ' ' ++ List.replicate m.width '^') ++ "\n") ++
    m.kind ++ ": " ++ m.message ++ "\n"

/-- Runs the text of a recipe; gives its status. -/
def runText (arguments : List String) (place : String) (text : Octets) : Task Nat := do
  match Octets.toString? text with
  | none => return 1
  | some s =>
    let characters := Text.unifyBreaks s.toList
    let lines := (Text.split '\n' characters).map String.ofList
    match stepsOf characters with
    | .error misreading =>
      Task.tell (Octets.ofString (misreadAccount (place, lines) misreading))
      return 1
    | .ok steps =>
      let run : Run Unit := Run.doAll manyLevels steps
      let (result, m) ← (run.run).run { arguments, source := (place, lines) }
      let letOut : Task Unit := Task.write (m.output.foldl (fun after s => s ++ after) [])
      match result with
      | .ok () =>
        letOut
        return 0
      | .error (.raised (.fault "SystemExit" values) _) =>
        let status ← match values with
          | [] | [.none] => pure 0
          | v :: _ =>
            match v.int? with
            | some n => pure (n % 256).toNat
            | none => do
              Task.tell (Octets.ofString (v.text ++ "\n"))
              pure 1
        letOut
        return status
      | .error (.raised v failed) =>
        Task.tell (Octets.ofString (account (place, lines) failed v))
        letOut
        match v with
        | .fault "KeyboardInterrupt" _ => throw (.signal 2)
        | _ => return 1
      | .error _ =>
        letOut
        return 1

/-- How recipes are to be run. -/
def usage (title : String) : String :=
  "usage: " ++ title ++ " [option] ... [-c cmd | -m mod | file | -] [arg] ...\n" ++
  "Try `python -h' for more information.\n"

/-- Runs a recipe: a file, a text among the arguments, or what is read. -/
def main : Program := do
  let p ← read
  let title := (Octets.toString? p.title).getD ""
  let shown (s : Octets) : String := (Octets.toString? s).getD (String.ofList s)
  let here := Octets.ofString (Location.path p.directory).text
  let rec start : List Octets → Task Nat
    | [] => do
      let text ← Task.input
      runText [""] "<stdin>" text
    | ['-'] :: rest => do
      let text ← Task.input
      runText ("-" :: rest.map shown) "<stdin>" text
    | ('-' :: letters) :: rest => do
      let plain := letters.takeWhile fun c => "bBdEIiOPqRsSuvx".toList.contains c
      match letters.drop plain.length, rest with
      | [], rest => if letters.isEmpty then return 2 else start rest
      | ['c'], text :: rest => runText ("-c" :: rest.map shown) "<string>" text
      | ['c'], [] =>
        Task.tell (Octets.ofString ("Argument expected for the -c option\n" ++ usage title))
        return 2
      | 'c' :: text, rest => runText ("-c" :: rest.map shown) "<string>" text
      | c :: _, _ =>
        Task.tell (Octets.ofString ("Unknown option: -" ++ String.singleton c ++ "\n" ++ usage title))
        return 2
    | name :: rest => do
      match ← Task.readFile name with
      | .ok text =>
        let place := if name.head? = some '/' then name else here ++ '/' :: name
        runText (shown name :: rest.map shown) (shown place) text
      | .error errno =>
        Task.tell (Octets.ofString (title ++ ": can't open file '") ++
          (if name.head? = some '/' then name else here ++ '/' :: name) ++
          Octets.ofString ("': [Errno " ++ toString errno.number ++ "] " ++ errno.message ++ "\n"))
        return 2
  start p.arguments

end ComponentReference.Recipe
