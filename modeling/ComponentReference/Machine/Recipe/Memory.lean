import ComponentReference.Machine.Recipe.Value
import ComponentReference.Machine.Tool.Names

/-!
# What recipes work on

A recipe has variables, files that it has opened, and output that it has not let out
yet.  It stops at a failure that nothing handles, and a failure knows which steps led
to it.
-/

namespace ComponentReference.Recipe

/-- A file that a recipe has opened. -/
structure OpenText where
  name : Octets
  isText : Bool := true
  /-- What is left to be read. -/
  rest : Octets := []

/-- What a recipe works on. -/
structure Memory where
  /-- The name of the script, and what else it was called with. -/
  arguments : List String
  /-- The path and the lines of the script. -/
  source : String × List String
  globals : List (String × Value) := []
  /-- The variables of the functions that run, the innermost first. -/
  frames : List (List (String × Value)) := []
  /-- The names for which those functions use the variables outside of them. -/
  shared : List (List String) := []
  /-- The steps that are on their way, the innermost first: the function, and the line. -/
  steps : List (String × Nat) := [("<module>", 0)]
  /-- The output that has not been let out, the latest first. -/
  output : List Octets := []
  files : List (Nat × OpenText) := []

/-- Why a step is not followed by the next one. -/
inductive Stop where
  | raised (v : Value) (steps : List (String × Nat))
  | leave
  | skip
  | result (v : Value)
  /-- The recipe does what is not known here. -/
  | unknown

/-- What runs in a recipe. -/
abbrev Run := ExceptT Stop (StateT Memory Task)

namespace Run

/-- Does something with the system. -/
def act {α : Type} (t : Task α) : Run α :=
  liftM (liftM t : StateT Memory Task α)

/-- Fails with a value. -/
def raise {α : Type} (v : Value) : Run α := do
  let m ← get
  throw (.raised v m.steps)

/-- Fails with a kind and a message. -/
def fail {α : Type} (kind message : String) : Run α :=
  raise (.fault kind [.str message])

/-- The kind of a refusal. -/
def kindOf : Errno → String
  | .missing => "FileNotFoundError"
  | .denied => "PermissionError"
  | .present => "FileExistsError"
  | .notDirectory => "NotADirectoryError"
  | .isDirectory => "IsADirectoryError"
  | .brokenPipe => "BrokenPipeError"
  | _ => "OSError"

/-- Fails because the system refuses an operation. -/
def failOf {α : Type} (errno : Errno) (name : Octets) : Run α :=
  raise (.fault (kindOf errno) [.int errno.number, .str errno.message,
    .str (((Octets.toString? name).getD (String.ofList name)))])

/-- What the system gives, if it does not refuse. -/
def orFail {α : Type} (name : Octets) (result : Except Errno α) : Run α :=
  match result with
  | .ok a => return a
  | .error errno => failOf errno name

/-- Notes the line of the step that is on its way. -/
def atLine (line : Nat) : Run Unit :=
  modify fun m => { m with steps := match m.steps with
    | (name, _) :: rest => (name, line) :: rest
    | [] => [] }

/-- Lets the output out. -/
def flush : Run Unit := do
  let m ← get
  set { m with output := [] }
  act (Task.write (m.output.foldl (fun after s => s ++ after) []))

/-- Writes to a stream; the output is kept for a while. -/
def put (stream : Nat) (s : Octets) : Run Unit :=
  if stream = 1 then modify fun m => { m with output := s :: m.output }
  else act (do let _ ← Task.writeTo stream s)

/-- The octets of text, with line ends as they are. -/
def octetsOf (s : String) : Octets :=
  Octets.ofString s

/-- Text in which all line ends are line feeds. -/
def decoded (s : Octets) : Run String := do
  match Octets.toString? s with
  | some text => return String.ofList (Text.unifyBreaks text.toList)
  | none => fail "UnicodeDecodeError" "invalid octets"

/-! ## Variables -/

/-- The value of a variable, if it has one. -/
def variableOf (name : String) : Run (Option Value) := do
  let m ← get
  return (m.frames.head?.bind (·.lookup name)).or (m.globals.lookup name)

/-- Gives a variable a value. -/
def setVariable (name : String) (v : Value) : Run Unit :=
  modify fun m =>
    let outside := { m with globals := Keyed.put Prod.fst (name, v) m.globals }
    match m.frames with
    | [] => outside
    | frame :: rest =>
      if m.shared.head?.any (·.contains name) then outside
      else { m with frames := Keyed.put Prod.fst (name, v) frame :: rest }

/-- Removes a variable. -/
def removeVariable (name : String) : Run Unit := do
  if (← variableOf name).isNone then fail "NameError" ("name '" ++ name ++ "' is not defined")
  modify fun m =>
    match m.frames with
    | [] => { m with globals := m.globals.filter fun (k, _) => k ≠ name }
    | frame :: rest => { m with frames := (frame.filter fun (k, _) => k ≠ name) :: rest }

/-! ## Items -/

/-- The values that a value goes through. -/
def itemsOf (v : Value) : Run (List Value) := do
  match v with
  | .list items | .tuple items => return items
  | .str s => return s.toList.map fun c => .str (String.singleton c)
  | .octets s => return s.map fun c => .int c.toNat
  | .dict fields => return fields.map Prod.fst
  | .file n =>
    let m ← get
    match m.files.lookup n with
    | none => return []
    | some file =>
      set { m with files := Keyed.put Prod.fst (n, { file with rest := [] }) m.files }
      if file.isText then
        let text ← decoded file.rest
        return (Octets.lines text.toList).map fun line => .str (String.ofList line)
      return (Octets.lines file.rest).map .octets
  | .stream 0 isText =>
    let s ← act Task.input
    if isText then
      return (Octets.lines (← decoded s).toList).map fun line => .str (String.ofList line)
    return (Octets.lines s).map .octets
  | v => fail "TypeError" ("'" ++ v.typeName ++ "' object is not iterable")

/-- The position that an index means in so many items. -/
def position (length : Nat) (index : Int) (what : String) : Run Nat :=
  let i := if index < 0 then index + length else index
  if 0 ≤ i ∧ i < length then return i.toNat
  else fail "IndexError" (what ++ " index out of range")

/-- The number that an index is. -/
def indexOf (what : String) (index : Value) : Run Int :=
  match index.int? with
  | some i => return i
  | none => fail "TypeError" (what ++ " indices must be integers or slices, not " ++ index.typeName)

/-- The item of a value at an index. -/
def itemAt (v index : Value) : Run Value := do
  match v, index with
  | .dict fields, key =>
    match fields.find? fun (k, _) => k.eq key with
    | some (_, v) => return v
    | none => raise (.fault "KeyError" [key])
  | .list items, index =>
    let i ← indexOf "list" index
    return items.getD (← position items.length i "list") .none
  | .tuple items, index =>
    let i ← indexOf "tuple" index
    return items.getD (← position items.length i "tuple") .none
  | .str s, index =>
    let i ← match index.int? with
      | some i => pure i
      | none => fail "TypeError" ("string indices must be integers, not '" ++ index.typeName ++ "'")
    let s := s.toList
    return .str (String.singleton (s.getD (← position s.length i "string") ' '))
  | .octets s, index =>
    let i ← indexOf "byte" index
    return .int (s.getD (← position s.length i "index") ' ').toNat
  | v, _ => fail "TypeError" ("'" ++ v.typeName ++ "' object is not subscriptable")

/-- A value in which the item at an index has been replaced. -/
def withItem (v index item : Value) : Run Value := do
  match v with
  | .dict fields =>
    if fields.any fun (k, _) => k.eq index then
      return .dict (fields.map fun (k, old) => (k, if k.eq index then item else old))
    return .dict (fields ++ [(index, item)])
  | .list items =>
    let i ← indexOf "list" index
    return .list (items.set (← position items.length i "list assignment") item)
  | v => fail "TypeError" ("'" ++ v.typeName ++ "' object does not support item assignment")

/-- A value without the item at an index. -/
def withoutItem (v index : Value) : Run Value := do
  match v with
  | .dict fields =>
    if !fields.any fun (k, _) => k.eq index then raise (.fault "KeyError" [index])
    return .dict (fields.filter fun (k, _) => !k.eq index)
  | .list items =>
    let i ← indexOf "list" index
    return .list (items.eraseIdx (← position items.length i "list assignment"))
  | v => fail "TypeError" ("'" ++ v.typeName ++ "' object does not support item deletion")

/-- The items from one bound to another, in steps. -/
def sliced {α : Type} (items : List α) (from? to? step? : Option Int) : List α :=
  let n : Int := items.length
  let step := step?.getD 1
  let bound (low high : Int) (i : Int) : Int :=
    let i := if i < 0 then i + n else i
    max low (min high i)
  if 0 < step then
    let start := (from?.map (bound 0 n)).getD 0
    let stop := (to?.map (bound 0 n)).getD n
    let taken := (items.take stop.toNat).drop start.toNat
    if step = 1 then taken
    else (taken.zipIdx.filter fun (_, i) => i % step.toNat = 0).map Prod.fst
  else
    let start := (from?.map (bound (-1) (n - 1))).getD (n - 1)
    let stop := (to?.map (bound (-1) (n - 1))).getD (-1)
    let taken := ((items.take (start + 1).toNat).drop (stop + 1).toNat).reverse
    (taken.zipIdx.filter fun (_, i) => i % (-step).toNat = 0).map Prod.fst

/-! ## Operations -/

/-- The value of a sign between two values. -/
def binary (sign : String) (a b : Value) : Run Value := do
  let refused : Run Value := fail "TypeError" ("unsupported operand type(s) for " ++
    (if sign = "**" then "** or pow()" else sign) ++ ": '" ++ a.typeName ++ "' and '" ++
    b.typeName ++ "'")
  let repeated (count : Int) : Run Value := match a, b with
    | .str s, _ | _, .str s =>
      return .str (String.ofList (List.replicate count.toNat s.toList).flatten)
    | .octets s, _ | _, .octets s => return .octets (List.replicate count.toNat s).flatten
    | .list s, _ | _, .list s => return .list (List.replicate count.toNat s).flatten
    | .tuple s, _ | _, .tuple s => return .tuple (List.replicate count.toNat s).flatten
    | _, _ => refused
  match sign, a, b with
  | "+", .str a, .str b => return .str (a ++ b)
  | "+", .octets a, .octets b => return .octets (a ++ b)
  | "+", .list a, .list b => return .list (a ++ b)
  | "+", .tuple a, .tuple b => return .tuple (a ++ b)
  | "+", .str _, b => fail "TypeError" ("can only concatenate str (not \"" ++ b.typeName ++ "\") to str")
  | "/", .path a, .str b =>
    return .path (String.ofList (Tool.below a.toList b.toList))
  | "|", .dict a, .dict b =>
    b.foldlM (fun (v : Value) (k, x) => withItem v k x) (.dict a)
  | _, _, _ =>
    match a.int?, b.int? with
    | some x, some y =>
      match sign with
      | "+" => return .int (x + y)
      | "-" => return .int (x - y)
      | "*" => return .int (x * y)
      | "/" =>
        if y = 0 then fail "ZeroDivisionError" "division by zero"
        return Value.ofRatio (if y < 0 then -x else x) y.natAbs
      | "//" =>
        if y = 0 then fail "ZeroDivisionError" "integer division or modulo by zero"
        return .int (Int.fdiv x y)
      | "%" =>
        if y = 0 then fail "ZeroDivisionError" "integer modulo by zero"
        return .int (Int.fmod x y)
      | "**" => if y < 0 then throw .unknown else return .int (x ^ y.toNat)
      | "<<" => return .int (x * 2 ^ y.toNat)
      | ">>" => return .int (Int.fdiv x (2 ^ y.toNat))
      | "&" => if x < 0 ∨ y < 0 then throw .unknown else return .int (Nat.land x.toNat y.toNat)
      | "|" => if x < 0 ∨ y < 0 then throw .unknown else return .int (Nat.lor x.toNat y.toNat)
      | "^" => if x < 0 ∨ y < 0 then throw .unknown else return .int (Nat.xor x.toNat y.toNat)
      | _ => refused
    | some n, none => if sign = "*" ∧ b.ratio?.isNone then repeated n else fractions refused
    | none, some n => if sign = "*" ∧ a.ratio?.isNone then repeated n else fractions refused
    | none, none => fractions refused
where
  /-- The value of a sign between numbers one of which is a fraction. -/
  fractions (refused : Run Value) : Run Value := do
    match a.ratio?, b.ratio? with
    | some (x, d), some (y, e) =>
      match sign with
      | "+" => return Value.ofRatio (x * e + y * d) (d * e)
      | "-" => return Value.ofRatio (x * e - y * d) (d * e)
      | "*" => return Value.ofRatio (x * y) (d * e)
      | "/" =>
        if y = 0 then fail "ZeroDivisionError" "float division by zero"
        return Value.ofRatio (if y < 0 then -(x * e) else x * e) (d * y.natAbs)
      | _ => refused
    | _, _ => refused

mutual

/-- Whether one value comes before another. -/
def isLess (sign : String) : Value → Value → Run Bool
  | .str a, .str b => return a < b
  | .octets a, .octets b => return Octets.isBefore a b
  | .list a, .list b | .tuple a, .tuple b => isLessItems sign a b
  | a, b =>
    match a.ratio?, b.ratio? with
    | some (x, d), some (y, e) => return x * e < y * d
    | _, _ => fail "TypeError" ("'" ++ sign ++ "' not supported between instances of '" ++
        a.typeName ++ "' and '" ++ b.typeName ++ "'")

/-- Whether items come before others, by the first of them that differ. -/
def isLessItems (sign : String) : List Value → List Value → Run Bool
  | [], others => return !others.isEmpty
  | _ :: _, [] => return false
  | a :: as, b :: bs => if a.eq b then isLessItems sign as bs else isLess sign a b

end

/-- Whether text occurs in other text. -/
def occurs (wanted text : List Char) : Bool :=
  Octets.occursIn wanted text

/-- Whether a comparison holds. -/
def compare (sign : String) (a b : Value) : Run Bool := do
  let contains : Run Bool := do
    match a, b with
    | .str a, .str b => return occurs a.toList b.toList
    | .octets a, .octets b => return occurs a b
    | a, b => return (← itemsOf b).any (·.eq a)
  match sign with
  | "==" | "is" => return a.eq b
  | "!=" | "is not" => return !a.eq b
  | "<" => isLess "<" a b
  | ">" => isLess ">" b a
  | "<=" => return !(← isLess "<=" b a)
  | ">=" => return !(← isLess ">=" a b)
  | "in" => contains
  | _ => return !(← contains)

end Run

end ComponentReference.Recipe
