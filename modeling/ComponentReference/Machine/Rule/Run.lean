import ComponentReference.Machine.Number.Transcendental
import ComponentReference.Machine.Rule.Memory

/-!
# Running rules

The rules for the beginning come first, then all others for every record, then those for
the end.
-/

namespace ComponentReference.Rule

namespace Run

/-- A directive's text for a value. -/
def directed (d : Directive) (v : Value) : Run Octets := do
  let whole : Int := (v.double.whole?).getD 0
  let top : Int := 2 ^ 63
  match d.conversion with
  | 'd' | 'i' =>
    let unsigned : Bool := d.conversion = 'd'
    return match v.double with
      | .nan _ => d.int (-top)
      | .infinite true => d.int (1 - top)
      | .infinite false => if unsigned then d.nat (2 ^ 64 - 1) else d.int (top - 1)
      | _ =>
        -- what is too large for a sign is written without one
        if whole < -top then d.int (1 - top)
        else if whole < top then d.int whole
        else if unsigned then d.nat (min whole.toNat (2 ^ 64 - 1))
        else d.int (top - 1)
  | 'o' | 'x' | 'X' | 'u' =>
    return match v.double with
      | .infinite false => d.nat (2 ^ 64 - 1)
      | .infinite true | .nan _ => d.nat (2 ^ 63)
      | _ =>
        if 0 ≤ whole then d.nat (min whole.toNat (2 ^ 64 - 1)) else d.nat (whole % 2 ^ 64).toNat
  | 'c' =>
    match v with
    | .text s => return d.text [s.headD (Char.ofNat 0)]
    | .unset => return d.text [Char.ofNat 0]
    | _ => return d.text [Char.ofNat (whole % 256).toNat]
  | 's' => return d.text (← textOf v)
  | _ => return d.double v.double

/-- The text that a format makes of values; where the format asks for what is not there, it
ends with a complaint. -/
def filledIn (caller : String) (format : Octets) : (fuel number : Nat) → Octets → List Value →
    Run (Octets × Option Octets)
  | 0, _, _, _ => return ([], none)
  | _, _, [], _ => return ([], none)
  | fuel + 1, number, '%' :: '%' :: rest, values => do
    let (s, fault?) ← filledIn caller format fuel number rest values
    return ('%' :: s, fault?)
  | fuel + 1, number, '%' :: rest, values => do
    let complaint (what : String) : Octets :=
      Octets.ofString what ++ Octets.ofString (caller ++ "(\"") ++ format ++ Octets.ofString "\")"
    let s := Directive.sketch rest
    let (width, values) := match s.width?, values with
      | none, v :: values => ((v.double.whole?).getD 0, values)
      | width?, values => ((width?.getD 0 : Nat), values)
    let (precision?, values) : Option Nat × List Value := match s.precision?, values with
      | some none, v :: values => (some ((v.double.whole?).getD 0).toNat, values)
      | some (some n), values => (some n, values)
      | _, values => (none, values)
    match values with
    | [] => return ([], some (complaint "not enough arguments passed to "))
    | v :: values =>
      let sizes := s.rest.takeWhile fun c => c = 'l' ∨ c = 'h'
      match s.rest.drop sizes.length with
      | c :: after =>
        if "diouxXcseEfgG".toList.contains c ∧ !(!sizes.isEmpty && (c = 's' || c = 'c')) then
          let d : Directive :=
            { flags := (if width < 0 then ['-'] else []) ++ s.flags, width := width.natAbs,
              precision?, conversion := c }
          let shown ← directed d v
          let (s, fault?) ← filledIn caller format fuel (number + 1) after values
          return (shown ++ s, fault?)
        else return ([], some (complaint ("improper conversion(number " ++ toString number ++ ") in ")))
      | [] => return ([], some (complaint ("improper conversion(number " ++ toString number ++ ") in ")))
  | fuel + 1, number, c :: rest, values => do
    let (s, fault?) ← filledIn caller format fuel number rest values
    return (c :: s, fault?)

/-- Text in which a part is replaced, where an ampersand stands for what was there. -/
def inserted (found : Octets) : Octets → Octets
  | [] => []
  | '\\' :: '&' :: rest => '&' :: inserted found rest
  | '\\' :: '\\' :: '&' :: rest => '\\' :: found ++ inserted found rest
  | '&' :: rest => found ++ inserted found rest
  | c :: rest => c :: inserted found rest

/-- Text in which the first part, or every part that matches has been replaced, and how many
have been. -/
def substituted (everywhere : Bool) (r : Regular) (replacement s : Octets) : Octets × Nat :=
  let found := Regular.all ofOctets r s
  let found := if everywhere then found else found.take 1
  let (pieces, offset) := found.foldl (fun (pieces, offset) f =>
    (inserted ((s.drop f.start).take (f.finish - f.start)) replacement ::
      (s.drop offset).take (f.start - offset) :: pieces, f.finish)) (([], 0) : List Octets × Nat)
  (pieces.reverse.flatten ++ s.drop offset, found.length)

/-- The part of text that begins at a place and is so long.  Places in front of the text
make the part longer. -/
def part (s : Octets) (start : Double) (length? : Option Double) : Octets :=
  let whole (x : Double) : Int :=
    match x.whole? with
    | some n => max (-(2 ^ 31)) (min n (2 ^ 31))
    | none => if x.isNegative then -(2 ^ 31) else 2 ^ 31
  let isHuge (x : Double) : Bool := (x.whole?.map fun n => decide (2 ^ 63 ≤ n.natAbs)).getD true
  if start.isNan ∨ length?.any Double.isNan then []
  else
    let first := whole start
    let behind := s.drop (max first 1 - 1).toNat
    match length? with
    | none => behind
    | some length => if isHuge length ∧ 1 ≤ first then [] else behind.take (whole length - min first 0).toNat

/-- The value of a sign between two values. -/
def binary (sign : String) (a b : Value) : Run Value := do
  let compared : Run Ordering := do
    let numeric := match a, b with
      | .text _, _ | _, .text _ => false
      | _, _ => true
    if numeric then
      return if a.double.isLess b.double then .lt else if b.double.isLess a.double then .gt else .eq
    let s ← textOf a
    let t ← textOf b
    return if s = t then .eq else if Octets.isBefore s t then .lt else .gt
  match sign with
  | "+" => return .number (a.double.add b.double)
  | "-" => return .number (a.double.add b.double.neg)
  | "*" => return .number (a.double.mul b.double)
  | "/" => return .number (a.double.div b.double)
  | "%" => return .number (a.double.rem b.double)
  | "^" => return .number (a.double.power b.double)
  | " " => return .text ((← textOf a) ++ (← textOf b))
  | "==" => return .ofBool ((← compared) == .eq)
  | "!=" => return .ofBool ((← compared) != .eq)
  | "<" => return .ofBool ((← compared) == .lt)
  | "<=" => return .ofBool ((← compared) != .gt)
  | ">" => return .ofBool ((← compared) == .gt)
  | _ => return .ofBool ((← compared) != .lt)

/-- Assigns to a name; some names steer the program. -/
def setName (name : String) (v : Value) : Run Unit := do
  match ← bindingOf name with
  | .array _ => fail (Octets.ofString ("line 1: illegal reference to array " ++ name))
  | _ =>
    bind name (.value v)
    match name with
    | "NF" =>
      let n := (v.double.whole?).getD 0
      if n < 0 then halt (Octets.ofString "negative value assigned to NF")
      setCount n.toNat
    | "FS" | "RS" =>
      let s ← textOf v
      if s.length ≠ 1 then
        let _ ← regularFor s
    | _ => pure ()

/-- The number of a field. -/
def fieldNumber (v : Value) : Run Nat := do
  let n := (v.double.whole?).getD 0
  if n < 0 then halt (Octets.ofString "negative field index $" ++ Octets.ofInt n)
  return n.toNat

mutual

/-- The value of an expression. -/
def eval (launch : Launcher) : (fuel : Nat) → Operand → Run Value
  | 0, _ => throw (.exit none)
  | fuel + 1, e => do
    match e with
    | .number x => return .number x
    | .text s => return .text s
    | .regular r => return .ofBool (Regular.occursIn ofOctets r (← get).record)
    | .name s => valueOf s
    | .field e => fieldAt (← fieldNumber (← eval launch fuel e))
    | .item name indices =>
      let key ← keyOf launch fuel indices
      let n ← arrayOf name
      let (v?, t) := (← tableOf n).find key (some .unset)
      setTable n t
      return v?.getD .unset
    | .assign target none e =>
      let v ← eval launch fuel e
      assign launch fuel target v
      return v
    | .assign target (some sign) e =>
      let b ← eval launch fuel e
      let v ← binary sign (← eval launch fuel target) b
      assign launch fuel target v
      return v
    | .choice condition yes no =>
      if (← eval launch fuel condition).isTrue then eval launch fuel yes else eval launch fuel no
    | .binary "||" a b =>
      if (← eval launch fuel a).isTrue then return .ofBool true
      return .ofBool (← eval launch fuel b).isTrue
    | .binary "&&" a b =>
      if !(← eval launch fuel a).isTrue then return .ofBool false
      return .ofBool (← eval launch fuel b).isTrue
    | .binary sign a b =>
      let a ← eval launch fuel a
      binary sign a (← eval launch fuel b)
    | .unary "!" e => return .ofBool !(← eval launch fuel e).isTrue
    | .unary sign e =>
      let x := (← eval launch fuel e).double
      return .number (if sign = "-" then x.neg else x)
    | .step target up before =>
      let old := (← eval launch fuel target).double
      let new := old.add (Double.ofInt (if up then 1 else -1))
      assign launch fuel target (.number new)
      return .number (if before then old else new)
    | .isMatch wanted a b =>
      let s ← textOf (← eval launch fuel a)
      let r ← regularIn launch fuel b
      return .ofBool (Regular.occursIn ofOctets r s == wanted)
    | .contains indices name =>
      let key ← keyOf launch fuel indices
      let n ← arrayOf name
      let (v?, t) := (← tableOf n).find key none
      setTable n t
      return .ofBool v?.isSome
    | .call name arguments => callFunction launch fuel name arguments
    | .builtin name arguments => callBuiltin launch fuel name arguments
    | .nextRecord source? target? => getRecord launch fuel source? target?
    | .group [e] => eval launch fuel e
    | .group operands => return .text (← keyOf launch fuel operands).shown

/-- The expression that an operand stands for, which is to be matched. -/
def regularIn (launch : Launcher) : (fuel : Nat) → Operand → Run Regular
  | 0, _ => throw (.exit none)
  | _, .regular r => return r
  | fuel + 1, e => do regularFor (← textOf (← eval launch fuel e))

/-- The key that indices make up. -/
def keyOf (launch : Launcher) : (fuel : Nat) → List Operand → Run Key
  | 0, _ => throw (.exit none)
  | fuel + 1, [e] => do return (← eval launch fuel e).key (← setting "CONVFMT")
  | fuel + 1, indices => do
    let keys ← indices.mapM fun e => do textOf (← eval launch fuel e)
    return .text (Octets.join (← setting "SUBSEP") keys)

/-- Gives what an expression stands for a value. -/
def assign (launch : Launcher) : (fuel : Nat) → Operand → Value → Run Unit
  | 0, _, _ => throw (.exit none)
  | fuel + 1, target, v => do
    match target with
    | .name s => setName s v
    | .field e =>
      let n ← fieldNumber (← eval launch fuel e)
      setField n (← textOf v)
    | .item name indices =>
      let key ← keyOf launch fuel indices
      let n ← arrayOf name
      setTable n ((← tableOf n).put key v)
    | .group [target] => assign launch fuel target v
    | _ => return

/-- What a function gives. -/
def callFunction (launch : Launcher) : (fuel : Nat) → String → List Operand → Run Value
  | 0, _, _ => throw (.exit none)
  | fuel + 1, name, arguments => do
    match (← get).rules.functions.find? (·.name = name) with
    | none => fail (Octets.ofString ("function " ++ name ++ " never defined"))
    | some f =>
      let bindings ← arguments.mapM fun e => do
        match e with
        | .name s => bindingOf s
        | e => do pure (Binding.value (← eval launch fuel e))
      let m ← get
      let missing := (List.range (f.parameters.length - bindings.length)).map fun i =>
        Binding.open (m.fresh + i)
      let frame := f.parameters.zip (bindings ++ missing)
      set { m with fresh := m.fresh + missing.length, frames := frame :: m.frames }
      let leave : Run Unit := modify fun m => { m with frames := m.frames.tail }
      let v ← tryCatch (do
          doAll launch fuel f.body
          return Value.unset) fun stop => do
        match stop with
        | .result v => return v
        | stop =>
          leave
          throw stop
      leave
      return v

/-- What a function gives that is there from the beginning. -/
def callBuiltin (launch : Launcher) : (fuel : Nat) → String → List Operand → Run Value
  | 0, _, _ => throw (.exit none)
  | fuel + 1, name, arguments => do
    let value (i : Nat) : Run Value :=
      match arguments[i]? with
      | some e => eval launch fuel e
      | none => return .unset
    let text (i : Nat) : Run Octets := do textOf (← value i)
    match name, arguments with
    | "length", [] => return .ofNat (← get).record.length
    | "length", [.name s] =>
      match ← bindingOf s with
      | .array n => return .ofNat (← tableOf n).size
      | _ => return .ofNat (← text 0).length
    | "length", _ => return .ofNat (← text 0).length
    | "substr", _ =>
      let s ← text 0
      let start := (← value 1).double
      let length? ← if arguments.length > 2 then do pure (some (← value 2).double) else pure none
      return .text (part s start length?)
    | "index", _ =>
      let s ← text 0
      let wanted ← text 1
      let found? := (List.range (s.length + 1)).find? fun i => wanted.isPrefixOf (s.drop i)
      return .ofNat ((found?.map (· + 1)).getD 0)
    | "split", _ =>
      let s ← text 0
      let parts ← match arguments[2]? with
        | none => do partsOf (← setting "FS") s
        | some (Operand.regular r) => pure (if s.isEmpty then [] else partsBetween r s)
        | some e => do partsOf (← textOf (← eval launch fuel e)) s
      match arguments[1]? with
      | some (Operand.name array) =>
        setTable (← arrayOf array) (Table.ofList (parts.map Value.ofRead))
      | _ => pure ()
      return .ofNat parts.length
    | "sub", e :: _ | "gsub", e :: _ =>
      let r ← regularIn launch fuel e
      let replacement ← text 1
      let target := (arguments[2]?).getD (.field (.number (Double.ofInt 0)))
      let s ← textOf (← eval launch fuel target)
      let (changed, count) := substituted (name = "gsub") r replacement s
      if 0 < count then assign launch fuel target (.text changed)
      return .ofNat count
    | "match", _ :: e :: _ =>
      let s ← text 0
      let r ← regularIn launch fuel e
      let (start, length) : Nat × Int := match Regular.find ofOctets r s with
        | some f => (f.start + 1, f.finish - f.start)
        | none => (0, -1)
      setGlobal "RSTART" (.ofNat start)
      setGlobal "RLENGTH" (.number (Double.ofInt length))
      return .ofNat start
    | "sprintf", _ =>
      let format ← text 0
      let values ← (arguments.drop 1).mapM (eval launch fuel)
      match ← filledIn name format (format.length + 1) 1 format values with
      | (s, none) => return .text s
      | (_, some complaint) => halt complaint
    | "tolower", _ => return .text ((← text 0).map Char.toLower)
    | "toupper", _ => return .text ((← text 0).map Char.toUpper)
    | "int", _ =>
      let x := (← value 0).double
      return .number (match x.whole? with
        | some n => Double.ofInt n
        | none => x)
    | "sqrt", _ => return .number (← value 0).double.sqrt
    | "system", _ =>
      let command ← text 0
      flush
      let (status, _) ← runCommand launch command none false
      return .ofNat status
    | "close", _ =>
      let name ← text 0
      let status? ← finish launch name
      let m ← get
      let known := (m.sources.lookup name).isSome || m.written.contains name
      set { m with
        sources := m.sources.filter (·.1 ≠ name), written := m.written.filter (· ≠ name)
        statuses := m.statuses.filter (·.1 ≠ name) }
      return .number (Double.ofInt (match status?.or (m.statuses.lookup name) with
        | some status => status
        | none => if known then 0 else -1))
    | "fflush", _ =>
      flush
      if arguments.isEmpty then return .ofNat 0
      let name ← text 0
      let m ← get
      let known : Bool := m.written.contains name || (m.commands.lookup name).isSome ||
        name = "/dev/stdout".toList || name = "/dev/stderr".toList
      return .number (Double.ofInt (if known then 0 else -1))
    | "exp", _ => return .number (← value 0).double.exp
    | "log", _ => return .number (← value 0).double.log
    | "sin", _ => return .number (← value 0).double.cosSin.2
    | "cos", _ => return .number (← value 0).double.cosSin.1
    | "atan2", _ =>
      let y := (← value 0).double
      return .number (y.angleOf (← value 1).double)
    | "srand", _ =>
      let seed ← value 0
      let m ← get
      set { m with seed }
      return m.seed
    | _, _ => return .ofNat 0

/-- Reads a record from where a source says; gives whether there was one. -/
def getRecord (launch : Launcher) : (fuel : Nat) → Option (Bool × Operand) → Option Operand →
    Run Value
  | 0, _, _ => throw (.exit none)
  | fuel + 1, source?, target? => do
    let deliver (record : Octets) : Run Unit :=
      match target? with
      | none => setRecord record
      | some target => assign launch fuel target (.ofRead record)
    match source? with
    | none =>
      match ← nextRecord manyLevels with
      | none => return .ofNat 0
      | some record =>
        countRecord true
        deliver record
        return .ofNat 1
    | some (ofCommand, e) =>
      let name ← textOf (← eval launch fuel e)
      let content? ← match (← get).sources.lookup name with
        | some content => pure (some content)
        | none =>
          if ofCommand then do
            flush
            let (status, content) ← runCommand launch name none true
            modify fun m => { m with statuses := Keyed.put Prod.fst (name, status) m.statuses }
            pure (some content)
          else
            match ← act (Task.readOperand name) with
            | .ok content => pure (some content)
            | .error .isDirectory =>
              fail (Octets.ofString ("read error (" ++ Errno.isDirectory.message ++ ")"))
            | .error _ => pure none
      match content? with
      | none => return .number (Double.ofInt (-1))
      | some content =>
        match ← cutRecord content with
        | none =>
          modify fun m => { m with sources := Keyed.put Prod.fst (name, []) m.sources }
          return .ofNat 0
        | some (record, rest) =>
          modify fun m => { m with sources := Keyed.put Prod.fst (name, rest) m.sources }
          if ofCommand then countRecord false
          deliver record
          return .ofNat 1

/-- Does acts one after the other. -/
def doAll (launch : Launcher) : (fuel : Nat) → List Act → Run Unit
  | 0, _ => throw (.exit none)
  | _, [] => return
  | fuel + 1, a :: rest => do
    doAct launch fuel a
    doAll launch fuel rest

/-- Does an act. -/
def doAct (launch : Launcher) : (fuel : Nat) → Act → Run Unit
  | 0, _ => throw (.exit none)
  | fuel + 1, a => do
    let sinkOf (sink? : Option (Sink × Operand)) : Run (Option (Sink × Octets)) := do
      match sink? with
      | none => return none
      | some (sink, e) => return some (sink, ← textOf (← eval launch fuel e))
    match a with
    | .value e =>
      let _ ← eval launch fuel e
    | .print operands sink? =>
      let format ← setting "OFMT"
      let shown ← if operands.isEmpty then do pure [(← get).record]
        else operands.mapM fun e => do return (← eval launch fuel e).shown format
      let line := Octets.join (← setting "OFS") shown ++ (← setting "ORS")
      put (← sinkOf sink?) line
    | .printf operands sink? =>
      let values ← operands.mapM (eval launch fuel)
      match values with
      | [] => return
      | format :: values =>
        let format ← textOf format
        let (text, complaint?) ← filledIn "printf" format (format.length + 1) 1 format values
        put (← sinkOf sink?) text
        match complaint? with
        | some complaint => halt complaint
        | none => return
    | .branch condition yes no =>
      if (← eval launch fuel condition).isTrue then doAll launch fuel yes else doAll launch fuel no
    | .loop condition body => loopWhile launch fuel (some condition) [] body
    | .bodyFirst body condition =>
      if ← goesOn launch fuel body then loopWhile launch fuel (some condition) [] body
    | .count start condition? next body =>
      doAll launch fuel start
      loopWhile launch fuel condition? next body
    | .forEach name array body =>
      let n ← arrayOf array
      let (keys, t) := (← tableOf n).keys
      setTable n t
      loopOver launch fuel name body keys
    | .delete name none => setTable (← arrayOf name) {}
    | .delete name (some indices) =>
      let key ← keyOf launch fuel indices
      let n ← arrayOf name
      setTable n ((← tableOf n).erase key)
    | .next => throw .next
    | .nextFile => throw .nextFile
    | .exit e? =>
      match e? with
      | none => throw (.exit none)
      | some e => throw (.exit (some ((((← eval launch fuel e).double.whole?).getD 0) % 256).toNat))
    | .result e? =>
      match e? with
      | none => throw (.result .unset)
      | some e => throw (.result (← eval launch fuel e))
    | .leave => throw .leave
    | .skip => throw .skip
    | .block acts => doAll launch fuel acts

/-- Does a body, and what comes before the next one, as long as a condition holds. -/
def loopWhile (launch : Launcher) : (fuel : Nat) → Option Operand → (next body : List Act) →
    Run Unit
  | 0, _, _, _ => throw (.exit none)
  | fuel + 1, condition?, next, body => do
    let holds ← match condition? with
      | some e => do pure (← eval launch fuel e).isTrue
      | none => pure true
    if holds then
      if ← goesOn launch fuel body then
        doAll launch fuel next
        loopWhile launch fuel condition? next body

/-- Does a body for each of some keys. -/
def loopOver (launch : Launcher) : (fuel : Nat) → String → List Act → List Octets → Run Unit
  | 0, _, _, _ => throw (.exit none)
  | _, _, _, [] => return
  | fuel + 1, name, body, key :: rest => do
    setName name (.text key)
    if ← goesOn launch fuel body then loopOver launch fuel name body rest

/-- Does the body of a loop; gives whether the loop goes on. -/
def goesOn (launch : Launcher) : (fuel : Nat) → List Act → Run Bool
  | 0, _ => throw (.exit none)
  | fuel + 1, body =>
    tryCatch (do
      doAll launch fuel body
      return true) fun stop =>
        match stop with
        | .skip => return true
        | .leave => return false
        | stop => throw stop

end

/-- Does what a rule says, or prints the record. -/
def doRule (launch : Launcher) (acts? : Option (List Act)) : Run Unit :=
  match acts? with
  | some acts => doAll launch manyLevels acts
  | none => do
    let m ← get
    put none (m.record ++ (← setting "ORS"))

/-- Whether a rule is for the record; for a range, the rule's index is noted. -/
def isFor (launch : Launcher) (index : Nat) (occasion : Occasion) : Run Bool := do
  match occasion with
  | .start | .finish => return false
  | .always => return true
  | .matching e => return (← eval launch manyLevels e).isTrue
  | .between first last =>
    let hasBegun := (← get).begun.contains index
    let begins ← if hasBegun then pure true
      else do pure (← eval launch manyLevels first).isTrue
    if begins then
      let ends := (← eval launch manyLevels last).isTrue
      modify fun m =>
        { m with begun := if ends then m.begun.filter (· ≠ index) else index :: m.begun }
      return true
    return false

/-- Goes through all rules for every record. -/
def records (launch : Launcher) : (fuel : Nat) → Run Unit
  | 0 => return
  | fuel + 1 => do
    match ← nextRecord manyLevels with
    | none => return
    | some record =>
      countRecord true
      setRecord record
      tryCatch (do
        for (rule, index) in (← get).rules.rules.zipIdx do
          if ← isFor launch index rule.occasion then doRule launch rule.acts?) fun stop =>
            match stop with
            | .next => return
            | .nextFile => modify fun m => { m with rest? := none }
            | stop => throw stop
      records launch fuel

/-- Runs the rules of an occasion. -/
def atOccasion (launch : Launcher) (isStart : Bool) : Run Unit := do
  for rule in (← get).rules.rules do
    match rule.occasion, isStart with
    | .start, true | .finish, false => doRule launch rule.acts?
    | _, _ => pure ()

/-- Runs a program; gives its status. -/
def program (launch : Launcher) : Run Nat := do
  let status? (r : Run Unit) : Run (Option Nat) :=
    tryCatch (do
      r
      return none) fun stop =>
        match stop with
        | .exit status? => return status?
        | _ => return none
  let rules := (← get).rules.rules
  let needsInput := rules.any fun rule => match rule.occasion with
    | .start => false
    | _ => true
  let first ← status? do
    atOccasion launch true
    if needsInput then records launch manyLevels
  let last ← status? (atOccasion launch false)
  for (command, _) in (← get).commands do
    let _ ← finish launch command
  flush
  return (last.or first).getD 0

end Run

end ComponentReference.Rule
