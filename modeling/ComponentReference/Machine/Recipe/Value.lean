import ComponentReference.Json.Printer
import ComponentReference.Json.Reader
import ComponentReference.Machine.Recipe.Syntax
import ComponentReference.Machine.Text.Letters
import ComponentReference.Text.Quoted

/-!
# Values of recipes

What expressions stand for: numbers, text, octets, lists and dictionaries, and what can
be called.  Values are shown as messages show them, and are written as JSON.
-/

namespace ComponentReference.Recipe

/-- A value. -/
inductive Value where
  | none
  | bool (b : Bool)
  | int (n : Int)
  | double (x : Double)
  | str (s : String)
  | octets (s : Octets)
  | list (items : List Value)
  | tuple (items : List Value)
  | dict (fields : List (Value × Value))
  | module (name : String)
  /-- What is there from the beginning, by its full name. -/
  | builtin (name : String)
  | method (self : Value) (name : String)
  | function (name : String) (parameters : List (String × Option Expr)) (body : List Step)
  /-- A stream of the program, for text or for octets. -/
  | stream (n : Nat) (isText : Bool)
  | file (n : Nat)
  | path (s : String)
  /-- A failure with its kind. -/
  | fault (kind : String) (arguments : List Value)

namespace Value

mutual

/-- Whether two values are equal. -/
def eq : Value → Value → Bool
  | .none, .none => true
  | .bool a, .bool b => a = b
  | .bool a, .int b | .int b, .bool a => b = if a then 1 else 0
  | .int a, .int b => a = b
  | .double a, .double b => a = b
  | .str a, .str b => a = b
  | .octets a, .octets b => a = b
  | .list a, .list b | .tuple a, .tuple b => eqItems a b
  | .dict a, .dict b => eqFields a b
  | .path a, .path b => a = b
  | _, _ => false

/-- Whether items are equal one by one. -/
def eqItems : List Value → List Value → Bool
  | [], [] => true
  | a :: as, b :: bs => eq a b && eqItems as bs
  | _, _ => false

/-- Whether fields are equal one by one. -/
def eqFields : List (Value × Value) → List (Value × Value) → Bool
  | [], [] => true
  | (k, a) :: as, (l, b) :: bs => eq k l && eq a b && eqFields as bs
  | _, _ => false

end

/-- Octets as messages show them. -/
def shownOctets (s : Octets) : String :=
  let mark := Text.quoteMark s
  let shown (c : Char) : List Char :=
    if c = mark ∨ c = '\\' then ['\\', c]
    else if c = '\n' then ['\\', 'n']
    else if c = '\r' then ['\\', 'r']
    else if c = '\t' then ['\\', 't']
    else if ' ' ≤ c ∧ c ≤ '~' then [c]
    else ['\\', 'x'] ++ Text.hex 2 c.toNat
  String.ofList ('b' :: mark :: s.flatMap shown ++ [mark])

/-- The plain name of a kind of failure, without the module that it is from. -/
def plainKind (kind : String) : String :=
  String.ofList ((kind.toList.reverse.takeWhile (· ≠ '.')).reverse)

mutual

/-- The value as messages show it. -/
def display : Value → String
  | .none => "None"
  | .bool b => if b then "True" else "False"
  | .int n => n.repr
  | .double x => Json.numberLayout.text x
  | .str s => Text.quoted s
  | .octets s => shownOctets s
  | .list items => "[" ++ ", ".intercalate (displayItems items) ++ "]"
  | .tuple [item] => "(" ++ display item ++ ",)"
  | .tuple items => "(" ++ ", ".intercalate (displayItems items) ++ ")"
  | .dict fields => "\x7b" ++ ", ".intercalate (displayFields fields) ++ "\x7d"
  | .module name => "<module '" ++ name ++ "'>"
  | .builtin name => "<built-in function " ++ name ++ ">"
  | .method _ name => "<built-in method " ++ name ++ ">"
  | .function name _ _ => "<function " ++ name ++ ">"
  | .stream _ _ | .file _ => "<_io.TextIOWrapper>"
  | .path s => "PosixPath(" ++ Text.quoted s ++ ")"
  | .fault kind arguments => plainKind kind ++ "(" ++ ", ".intercalate (displayItems arguments) ++ ")"

/-- Items as messages show them. -/
def displayItems : List Value → List String
  | [] => []
  | v :: rest => display v :: displayItems rest

/-- Fields as messages show them. -/
def displayFields : List (Value × Value) → List String
  | [] => []
  | (k, v) :: rest => (display k ++ ": " ++ display v) :: displayFields rest

end

/-- The text of a value: strings stand for themselves. -/
def text : Value → String
  | .str s | .path s => s
  | .fault kind [v] => if kind = "KeyError" then v.display else text v
  | .fault _ [.int n, .str s, .str place] =>
    "[Errno " ++ n.repr ++ "] " ++ s ++ ": " ++ Text.quoted place
  | .fault _ [.int n, .str s, .str source, .none, .str target] =>
    "[Errno " ++ n.repr ++ "] " ++ s ++ ": " ++ Text.quoted source ++ " -> " ++ Text.quoted target
  | .fault _ [] => ""
  | .fault _ arguments => (Value.tuple arguments).display
  | v => v.display

/-- Whether a value counts as true. -/
def isTrue : Value → Bool
  | .none => false
  | .bool b => b
  | .int n => n ≠ 0
  | .double x => match x with
    | .finite _ significand _ => significand ≠ 0
    | _ => true
  | .str s => !s.isEmpty
  | .octets s => !s.isEmpty
  | .list items | .tuple items => !items.isEmpty
  | .dict fields => !fields.isEmpty
  | _ => true

/-- The name of a value's type. -/
def typeName : Value → String
  | .none => "NoneType"
  | .bool _ => "bool"
  | .int _ => "int"
  | .double _ => "float"
  | .str _ => "str"
  | .octets _ => "bytes"
  | .list _ => "list"
  | .tuple _ => "tuple"
  | .dict _ => "dict"
  | .module _ => "module"
  | .builtin _ | .method _ _ => "builtin_function_or_method"
  | .function _ _ _ => "function"
  | .stream _ _ | .file _ => "_io.TextIOWrapper"
  | .path _ => "PosixPath"
  | .fault kind _ => plainKind kind

/-- A number as a fraction. -/
def ratio? : Value → Option (Int × Nat)
  | .bool b => some (if b then 1 else 0, 1)
  | .int n => some (n, 1)
  | .double (.finite negative significand exponent) =>
    let sign : Int := if negative then -1 else 1
    some (if 0 ≤ exponent then (sign * significand * 2 ^ exponent.toNat, 1)
      else (sign * significand, 2 ^ (-exponent).toNat))
  | _ => Option.none

/-- A whole number. -/
def int? : Value → Option Int
  | .bool b => some (if b then 1 else 0)
  | .int n => some n
  | _ => Option.none

/-- A fraction as a floating-point number. -/
def ofRatio (num : Int) (den : Nat) : Value :=
  .double (Double.ofRatio (num < 0) num.natAbs den)

mutual

/-- The value of a JSON value. -/
def ofJson : Json → Value
  | .null => .none
  | .bool b => .bool b
  | .int n => .int n
  | .double x => .double x
  | .str s => .str s
  | .arr items => .list (ofItems items)
  | .obj fields => .dict (ofFields fields)

/-- The values of items. -/
def ofItems : List Json → List Value
  | [] => []
  | j :: rest => ofJson j :: ofItems rest

/-- The values of fields. -/
def ofFields : List (String × Json) → List (Value × Value)
  | [] => []
  | (key, j) :: rest => (.str key, ofJson j) :: ofFields rest

end

/-! ## Writing JSON -/

/-- How JSON is written. -/
structure Writing where
  /-- Whether characters beyond ASCII are escaped. -/
  escapes : Bool := true
  /-- By how much lists and objects stand in, if they have lines. -/
  indent? : Option Nat := Option.none
  betweenItems : String := ", "
  behindKeys : String := ": "
  sorts : Bool := false

/-- Text in which characters beyond ASCII are escaped, by units of sixteen bits. -/
def asciiText (s : String) : String :=
  let unit (n : Nat) : List Char := '\\' :: 'u' :: Text.hex 4 n
  let shown (c : Char) : List Char :=
    let n := c.toNat
    if n < 0x7F then [c]
    else if n < 0x10000 then unit n
    else unit (0xD800 + (n - 0x10000) / 0x400) ++ unit (0xDC00 + (n - 0x10000) % 0x400)
  String.ofList (s.toList.flatMap shown)

/-- The key that a value is in an object, if it may be one. -/
def key? : Value → Option String
  | .str s => some s
  | .none => some "null"
  | .bool b => some (if b then "true" else "false")
  | .int n => some n.repr
  | .double x => some (Json.printedLayout.text x)
  | _ => Option.none

/-- Items in brackets, in lines of their own if they stand in. -/
def bracketed (w : Writing) (depth : Nat) (opening closing : String) : List String → String
  | [] => opening ++ closing
  | items =>
    match w.indent? with
    | Option.none => opening ++ w.betweenItems.intercalate items ++ closing
    | some indent =>
      let front (depth : Nat) : String := "\n" ++ String.ofList (List.replicate (indent * depth) ' ')
      opening ++ front (depth + 1) ++ (w.betweenItems ++ front (depth + 1)).intercalate items ++
        front depth ++ closing

mutual

/-- A value as JSON, or the type of a value that has no such form. -/
def json (w : Writing) (depth : Nat) : Value → Except String String
  | .none => .ok "null"
  | .bool b => .ok (if b then "true" else "false")
  | .int n => .ok n.repr
  | .double x => .ok (Json.printedLayout.text x)
  | .str s => .ok (string s)
  | .list items | .tuple items => do
    return bracketed w depth "[" "]" (← jsonItems w (depth + 1) items)
  | .dict fields => do
    let shown ← jsonFields w (depth + 1) fields
    let shown := if w.sorts then shown.mergeSort fun a b => !(b.1 < a.1) else shown
    return bracketed w depth "\x7b" "\x7d" (shown.map fun (k, v) => string k ++ w.behindKeys ++ v)
  | v => .error v.typeName
where
  /-- A string with its quotes. -/
  string (s : String) : String :=
    let shown := Json.printString s
    if w.escapes then asciiText shown else shown

/-- Items as JSON. -/
def jsonItems (w : Writing) (depth : Nat) : List Value → Except String (List String)
  | [] => .ok []
  | v :: rest => do return (← json w depth v) :: (← jsonItems w depth rest)

/-- Fields with their values as JSON. -/
def jsonFields (w : Writing) (depth : Nat) :
    List (Value × Value) → Except String (List (String × String))
  | [] => .ok []
  | (k, v) :: rest => do
    match k.key? with
    | Option.none => .error k.typeName
    | some k => return (k, ← json w depth v) :: (← jsonFields w depth rest)

end

end Value

end ComponentReference.Recipe
