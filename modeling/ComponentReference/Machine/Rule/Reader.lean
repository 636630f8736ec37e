import ComponentReference.Machine.Rule.Token

/-!
# Reading rules

Words are put together to rules, to what they do, and to expressions.  Where the form is
broken, reading goes on behind the end of the act, so that more than one fault is found.
-/

namespace ComponentReference.Rule

namespace WordReader

/-- The word in front. -/
def front : WordReader Word :=
  return (← get).front

/-- Finds the form broken at the word in front. -/
def broken {α : Type} : WordReader α :=
  throw .broken

/-- Takes a word if it is in front. -/
def accept (w : Word) : WordReader Bool := do
  if (← front) = w then
    advance
    return true
  else return false

/-- Takes a word that has to be there. -/
def expect (w : Word) : WordReader Unit := do
  if !(← accept w) then broken

/-- Takes a word that has to be there, and the ends of lines behind it. -/
def expectOverLines (w : Word) : WordReader Unit := do
  if (← front) = w then
    passLines
    advance
  else broken

/-- Whether a word ends an act. -/
def isEnd : Word → Bool
  | .lineEnd | .impliedEnd => true
  | .sign s => s = ";"
  | _ => false

/-- Takes the end of an act; what is to be looked after is done in front of it. -/
def ended (check : WordReader Unit) : WordReader Unit := do
  if isEnd (← front) then
    check
    advance
  else broken

/-- The sign in front, if it is one of some. -/
def signOf (wanted : List String) : WordReader (Option String) := do
  match ← front with
  | .sign s =>
    if wanted.contains s then
      advance
      return some s
    else return none
  | _ => return none

/-! ## What names are for -/

/-- Settles what a name is for, or complains that it is for something else. -/
def useName (kind : Kind) (name : String) : WordReader Unit := do
  let s ← get
  let shown (k : Kind) : String := if k = .array then "array " else "variable "
  match s.locals.lookup name with
  | some none =>
    set { s with locals := s.locals.map fun (n, k?) => (n, if n = name then some kind else k?) }
  | some (some k) =>
    if k ≠ kind then note (Octets.ofString ("illegal reference to local " ++ shown k ++ name))
  | none =>
    match s.kinds.lookup name with
    | none => set { s with kinds := (name, kind) :: s.kinds }
    | some k => if k ≠ kind then note (Octets.ofString ("illegal reference to " ++ shown k ++ name))

/-- Complains about what is passed to a function if a parameter is for something else, and
settles what names are for that are passed. -/
def checkPassed (c : Called) (parameters : List (Option Kind)) : WordReader Unit := do
  let complain (i : Nat) (actual wanted : Kind) : WordReader Unit :=
    let shown (k : Kind) : String := if k = .array then "local array" else "local variable"
    noteAt c.line (Octets.ofString ("type error in arg(" ++ toString (i + 1) ++ ") in call to " ++
      c.function ++ " (actual " ++ shown actual ++ " vs " ++ shown wanted ++ ")"))
  if parameters.length < c.arguments.length then
    noteAt c.line (Octets.ofString ("too many arguments in call to " ++ c.function))
  for ((passed, wanted?), i) in (c.arguments.zip parameters).zipIdx do
    match wanted? with
    | none => pure ()
    | some wanted =>
      let s ← get
      match passed with
      | .value => if wanted ≠ .single then complain i .single wanted
      | .name name isLocal _ =>
        let known? := if isLocal then (s.locals.lookup name).getD (some wanted)
          else s.kinds.lookup name
        match known? with
        | some kind => if kind ≠ wanted then complain i kind wanted
        | none => useName wanted name

/-- Notes a call, and checks it if the function is known. -/
def noteCall (c : Called) : WordReader Unit := do
  match (← get).heads.lookup c.function with
  | some parameters => checkPassed c parameters
  | none => modify fun s => { s with calls := c :: s.calls }

/-- Checks the text of an expression that is not read as one. -/
def checkPattern (e : Operand) : WordReader Unit := do
  match e with
  | .text s =>
    match Pattern.ofText s with
    | .ok _ => pure ()
    | .error fault =>
      note (Octets.ofString ("regular expression compile failed (" ++ fault.message ++ ")\n") ++ s)
      stop
  | _ => pure ()

/-! ## Expressions -/

/-- Whether an operand can be assigned to. -/
def isTarget : Operand → Bool
  | .name _ | .field _ | .item _ _ => true
  | _ => false

/-- Whether an operand is a field, or is kept like one. -/
def isField : Operand → Bool
  | .field _ => true
  | .name s => settings.contains s
  | _ => false

/-- Whether a word may begin an operand that is put behind another one. -/
def beginsOperand : Word → Bool
  | .number _ _ | .text _ | .regular _ | .name _ | .function _ | .builtin _ | .bareLength | .field _
  | .setting _ => true
  | .sign s => ["$", "!", "(", "++", "--"].contains s
  | .keyword s => s = "getline"
  | _ => false

/-- The signs between whole expressions, and how strongly they bind; what binds more
strongly has a greater number. -/
def strength? : Word → Option Nat
  | .sign "?" => some 2
  | .sign "||" => some 3
  | .sign "&&" => some 4
  | .keyword "in" => some 5
  | .sign s =>
    if ["~", "!~"].contains s then some 6
    else if ["<", "<=", "==", "!=", ">=", ">"].contains s then some 7
    else none
  | _ => none

mutual

/-- An expression whose signs bind at least so strongly; behind the word for printing, it may
be several operands in brackets. -/
def expression : (fuel : Nat) → (least : Nat) → WordReader Operand
  | 0, _ => stop
  | fuel + 1, least => do
    if ← accept (.sign "(") then
      expressionBehind fuel least (← opened fuel false)
    else expressionBehind fuel least (← headBehind fuel (← unit fuel))

/-- An expression that goes on behind what has been read of it. -/
def expressionBehind : (fuel : Nat) → (least : Nat) → Operand → WordReader Operand
  | 0, _, _ => stop
  | fuel + 1, least, left => do
    let word ← front
    match strength? word with
    | none => return left
    | some strength =>
      if strength < least then return left
      else
        advance
        match word with
        | .sign "?" =>
          let yes ← expression fuel 1
          expect (.sign ":")
          expressionBehind fuel least (.choice left yes (← expression fuel 2))
        | .keyword _ =>
          match ← front with
          | .name array =>
            useName .array array
            advance
            expressionBehind fuel least (.contains [left] array)
          | _ => broken
        | .sign s =>
          let right ← expression fuel (strength + 1)
          if strength = 6 then
            checkPattern right
            expressionBehind fuel least (.isMatch (s = "~") left right)
          else expressionBehind fuel least (.binary s left right)
        | _ => broken

/-- What is in brackets at the beginning of an expression, behind the opening one, and what
binds more strongly than signs between whole expressions. -/
def opened : (fuel : Nat) → (several : Bool) → WordReader Operand
  | 0, _ => stop
  | fuel + 1, several => do
    let first ← expression fuel 1
    if (← front) = .sign "," then
      let operands := first :: (← further fuel)
      expect (.sign ")")
      if ← accept (.keyword "in") then
        match ← front with
        | .name array =>
          useName .array array
          advance
          return .contains operands array
        | _ => broken
      else if several then return .group operands
      else broken
    else
      expect (.sign ")")
      headBehind fuel (← inBrackets fuel first)

/-- An expression in brackets, which may be a field all the same. -/
def inBrackets : (fuel : Nat) → Operand → WordReader Operand
  | 0, _ => stop
  | fuel + 1, e =>
    match e with
    | .regular r => return .regular r
    | e => if isField e then stepped fuel e else return .group [e]

/-- Operands behind one, with commas in front. -/
def further : (fuel : Nat) → WordReader (List Operand)
  | 0 => stop
  | fuel + 1 => do
    if ← accept (.sign ",") then
      let e ← expression fuel 1
      return e :: (← further fuel)
    else return []

/-- What begins with an operand: it may be calculated with, put together with others, or
assigned to. -/
def headBehind : (fuel : Nat) → Operand → WordReader Operand
  | 0, _ => stop
  | fuel + 1, e => do
    let e ← catenated fuel (← calculated fuel 10 e)
    if isTarget e then
      match ← signOf ["=", "+=", "-=", "*=", "/=", "%=", "^="] with
      | some "=" => return .assign e none (← expression fuel 1)
      | some s => return .assign e (some (String.ofList s.toList.dropLast)) (← expression fuel 1)
      | none => return e
    else return e

/-- Operands that are put together as text. -/
def catenated : (fuel : Nat) → Operand → WordReader Operand
  | 0, _ => stop
  | fuel + 1, left => do
    if beginsOperand (← front) then
      let right ← powered fuel 10
      catenated fuel (.binary " " left right)
    else return left

/-- An operand with what binds to it at least so strongly. -/
def powered : (fuel : Nat) → (least : Nat) → WordReader Operand
  | 0, _ => stop
  | fuel + 1, least => do calculated fuel least (← unit fuel)

/-- An operand behind which signs stand that bind at least so strongly. -/
def calculated : (fuel : Nat) → (least : Nat) → Operand → WordReader Operand
  | 0, _, _ => stop
  | fuel + 1, least, left => do
    match ← front with
    | .sign s =>
      if (s = "+" ∨ s = "-") ∧ least ≤ 10 then
        advance
        calculated fuel least (.binary s left (← powered fuel 11))
      else if (s = "*" ∨ s = "/" ∨ s = "%") ∧ least ≤ 11 then
        advance
        calculated fuel least (.binary s left (← powered fuel 12))
      else if s = "|" ∧ least ≤ 13 then
        advance
        expect (.keyword "getline")
        calculated fuel least (.nextRecord (some (true, left)) (← target? fuel))
      else if s = "^" ∧ least ≤ 14 then
        advance
        calculated fuel least (.binary s left (← powered fuel 14))
      else return left
    | _ => return left

/-- A target that may be stepped up or down. -/
def stepped : (fuel : Nat) → Operand → WordReader Operand
  | 0, _ => stop
  | _ + 1, e => do
    match ← signOf ["++", "--"] with
    | some s => return .step e (s = "++") true
    | none => return e

/-- What a name is the beginning of, behind the name. -/
def variableBehind : (fuel : Nat) → String → WordReader Operand
  | 0, _ => stop
  | fuel + 1, name => do
    if (← front) = .sign "[" then
      useName .array name
      advance
      return .item name (← list fuel "]")
    else
      useName .single name
      return .name name

/-- A field behind its dollar sign. -/
def fieldBehind : (fuel : Nat) → WordReader Operand
  | 0 => stop
  | fuel + 1 => do
    match ← front with
    | .name s =>
      advance
      return .field (← variableBehind fuel s)
    | _ => return .field (← unit fuel)

/-- A field. -/
def field : (fuel : Nat) → WordReader Operand
  | 0 => stop
  | fuel + 1 => do
    match ← front with
    | .field n =>
      advance
      return .field (.number (Double.ofInt n))
    | .setting s =>
      advance
      return .name s
    | .sign "$" =>
      advance
      fieldBehind fuel
    | .sign "(" =>
      advance
      let e ← field fuel
      expect (.sign ")")
      return e
    | _ => broken

/-- What can be assigned to, if it is in front. -/
def target? : (fuel : Nat) → WordReader (Option Operand)
  | 0 => stop
  | fuel + 1 => do
    match ← front with
    | .name s =>
      advance
      return some (← variableBehind fuel s)
    | .field _ | .setting _ | .sign "$" | .sign "(" => return some (← field fuel)
    | _ => return none

/-- Operands with commas between them, up to a closing sign. -/
def list : (fuel : Nat) → (closing : String) → WordReader (List Operand)
  | 0, _ => stop
  | fuel + 1, closing => do
    if ← accept (.sign closing) then return []
    else
      let first ← expression fuel 1
      let operands := first :: (← further fuel)
      expect (.sign closing)
      return operands

/-- An argument of a function, which may be an array, and what is known of it. -/
def argument : (fuel : Nat) → WordReader (Operand × Passed)
  | 0 => stop
  | fuel + 1 => do
    match ← front with
    | .name s =>
      advance
      let next ← front
      if next = .sign "," ∨ next = .sign ")" then
        let state ← get
        let passed := match state.locals.lookup s with
          | some kind? => Passed.name s true kind?
          | none => Passed.name s false (state.kinds.lookup s)
        return (.name s, passed)
      else
        let e ← stepped fuel (← variableBehind fuel s)
        return (← expressionBehind fuel 1 (← headBehind fuel e), .value)
    | _ => return (← expression fuel 1, .value)

/-- Arguments up to the closing bracket. -/
def arguments : (fuel : Nat) → WordReader (List (Operand × Passed))
  | 0 => stop
  | fuel + 1 => do
    let first ← argument fuel
    if ← accept (.sign ")") then return [first]
    else
      expect (.sign ",")
      return first :: (← arguments fuel)

/-- A call of a function that is there from the beginning, behind its name. -/
def builtinBehind : (fuel : Nat) → String → WordReader Operand
  | 0, _ => stop
  | fuel + 1, name => do
    expect (.sign "(")
    match name with
    | "length" =>
      if ← accept (.sign ")") then return .builtin name []
      else
        let (e, _) ← argument fuel
        expect (.sign ")")
        return .builtin name [e]
    | "split" =>
      let s ← expression fuel 1
      expect (.sign ",")
      match ← front with
      | .name array =>
        useName .array array
        advance
        if ← accept (.sign ")") then return .builtin name [s, .name array]
        else
          expect (.sign ",")
          let e ← expression fuel 1
          match e with
          | .text t => if t.length ≠ 1 then checkPattern e
          | _ => pure ()
          expect (.sign ")")
          return .builtin name [s, .name array, e]
      | _ => broken
    | "match" =>
      let s ← expression fuel 1
      expect (.sign ",")
      let e ← expression fuel 1
      checkPattern e
      expect (.sign ")")
      return .builtin name [s, e]
    | "sub" | "gsub" =>
      let e ← expression fuel 1
      checkPattern e
      expect (.sign ",")
      let s ← expression fuel 1
      if ← accept (.sign ")") then return .builtin name [e, s]
      else
        expect (.sign ",")
        match ← target? fuel with
        | some target =>
          expect (.sign ")")
          return .builtin name [e, s, target]
        | none => broken
    | name =>
      let operands ← list fuel ")"
      let (least, most) := (builtins.lookup name).getD (0, 0)
      if operands.length < least ∨ most < operands.length then
        note (Octets.ofString ("wrong number of arguments in call to " ++ name))
      return .builtin name operands

/-- An operand without signs behind it. -/
def unit : (fuel : Nat) → WordReader Operand
  | 0 => stop
  | fuel + 1 => do
    match ← front with
    | .number x _ =>
      advance
      return .number x
    | .text s =>
      advance
      return .text s
    | .regular s =>
      advance
      match Pattern.ofText s with
      | .ok r => return .regular r
      | .error _ => stop
    | .name s =>
      advance
      stepped fuel (← variableBehind fuel s)
    | .function s =>
      let line := (← get).place
      advance
      expect (.sign "(")
      let arguments ← if ← accept (.sign ")") then pure [] else arguments fuel
      noteCall { line, function := s, arguments := arguments.map Prod.snd }
      return .call s (arguments.map Prod.fst)
    | .builtin s =>
      advance
      builtinBehind fuel s
    | .bareLength =>
      advance
      return .builtin "length" []
    | .field _ | .setting _ | .sign "$" => stepped fuel (← field fuel)
    | .sign "(" =>
      advance
      let e ← expression fuel 1
      expect (.sign ")")
      inBrackets fuel e
    | .keyword "getline" =>
      modify fun s => { s with reads := true }
      advance
      let target? ← target? fuel
      if ← accept .inlet then
        return .nextRecord (some (false, ← powered fuel 14)) target?
      else
        modify fun s => { s with reads := false }
        return .nextRecord none target?
    | .sign s =>
      if s = "!" ∨ s = "-" ∨ s = "+" then
        advance
        return .unary s (← powered fuel 13)
      else if s = "++" ∨ s = "--" then
        advance
        match ← target? fuel with
        | some target => return .step target (s = "++") false
        | none => broken
      else broken
    | _ => broken

end

/-! ## Faults -/

/-- Complains about the word in front, unless a complaint has just been made. -/
def report : WordReader Unit := do
  let s ← get
  if s.quiet = 0 then
    let w := s.front
    let isBoundary : Bool := match w with
      | .keyword s => s = "BEGIN" ∨ s = "END"
      | w => w = .textEnd
    if 0 < s.brackets ∧ (isEnd w ∨ w = .textEnd) then
      set { s with brackets := 0 }
      note (Octets.ofString "missing ) near " ++ w.shown)
    else if 0 < s.braces ∧ isBoundary then
      set { s with braces := 0 }
      note (Octets.ofString "missing \x7d near " ++ w.shown)
    else
      match w with
      | .stray c =>
        let shown := if ' ' < c ∧ c.toNat < 127 then ['\'', c, '\'']
          else Octets.ofString "0x" ++ Octets.digits 16 c.toNat
        set { s with faults := (Octets.ofNat s.place ++
          Octets.ofString ": unexpected character " ++ shown) :: s.faults }
        stop
      | w => note (Octets.ofString "syntax error at or near " ++ w.shown)

/-- Passes over words until one of them is wanted; at the end of the text, reading ends. -/
def skipTo (wanted : Word → Bool) : (fuel : Nat) → WordReader Unit
  | 0 => stop
  | fuel + 1 => do
    let w ← front
    if wanted w then return
    else if w = .textEnd then stop
    else
      advance
      modify fun s => { s with quiet := 3 }
      skipTo wanted fuel

/-- Goes on behind the end of an act that is broken, or in front of the brace that closes
the block if it is the first one. -/
def recover (isFirst : Bool) : WordReader Unit := do
  report
  modify fun s => { s with quiet := 3 }
  skipTo (fun w => isEnd w || (isFirst && w = .sign "\x7d")) ((← get).rest.length + 2)
  modify fun s => { s with brackets := 0, directs := false, reads := false, quiet := 0 }
  if isEnd (← front) then advance

/-! ## Acts -/

/-- Where output goes, if it is said. -/
def sink? (fuel : Nat) : WordReader (Option (Sink × Operand)) := do
  match ← front with
  | .outlet s =>
    advance
    return some (if s = "|" then .command else .file (s = ">>"), ← expression fuel 1)
  | _ => return none

/-- What is printed, up to where the output goes. -/
def printed (fuel : Nat) : WordReader (List Operand) := do
  match ← front with
  | .outlet _ => return []
  | .sign "(" =>
    advance
    if ← accept (.sign ")") then return []
    else
      match ← opened fuel true with
      | .group (e :: f :: operands) => return e :: f :: operands
      | first => do
        let first ← expressionBehind fuel 1 first
        return first :: (← further fuel)
  | w =>
    if isEnd w then return []
    else
      let first ← expression fuel 1
      return first :: (← further fuel)

/-- An act for printing, behind its word. -/
def printBehind (fuel : Nat) (word : String) : WordReader Act := do
  let operands ← printed fuel
  let sink? ← sink? fuel
  ended do
    if word = "printf" ∧ operands.isEmpty then note (Octets.ofString "no arguments in call to printf")
    modify fun s => { s with directs := false }
  return if word = "print" then .print operands sink? else .printf operands sink?

/-- An act that ends with its line or a semicolon. -/
def plainAct (fuel : Nat) : WordReader Act := do
  let optional : WordReader (Option Operand) := do
    if isEnd (← front) then return none else return some (← expression fuel 1)
  match ← front with
  | .keyword s =>
    match s with
    | "print" | "printf" =>
      modify fun s => { s with directs := true }
      advance
      printBehind fuel s
    | "break" | "continue" =>
      advance
      ended do
        let state ← get
        if state.loops = 0 ∧ state.faults.isEmpty then
          note (Octets.ofString (s ++ " statement outside of loop"))
      return if s = "break" then .leave else .skip
    | "next" | "nextfile" =>
      advance
      ended do
        if (← get).scope ≠ .main then note (Octets.ofString ("improper use of " ++ s))
      return if s = "next" then .next else .nextFile
    | "return" =>
      advance
      let e? ← optional
      ended do
        if (← get).scope ≠ .function then note (Octets.ofString "return outside function body")
      return .result e?
    | "exit" =>
      advance
      let e? ← optional
      ended (pure ())
      return .exit e?
    | "delete" =>
      advance
      match ← front with
      | .name array =>
        useName .array array
        advance
        let indices? ← if ← accept (.sign "[") then some <$> list fuel "]" else pure none
        ended (pure ())
        return .delete array indices?
      | _ => broken
    | "getline" =>
      let e ← expression fuel 1
      ended (pure ())
      return .value e
    | _ => broken
  | _ =>
    let e ← expression fuel 1
    ended (pure ())
    return .value e

/-- Takes a semicolon that has to be there. -/
def semicolon : WordReader Unit := do
  match ← front with
  | .sign ";" | .impliedEnd => advance
  | _ => broken

/-- Reads what belongs to a loop. -/
def looped {α : Type} (r : WordReader α) : WordReader α := do
  modify fun s => { s with loops := s.loops + 1 }
  let x ← r
  modify fun s => { s with loops := s.loops - 1 }
  return x

mutual

/-- The acts up to the closing brace; the first one stands right behind the opening one. -/
def acts : (fuel : Nat) → (isFirst : Bool) → WordReader (List Act)
  | 0, _ => stop
  | fuel + 1, isFirst => do
    let first ← act fuel isFirst
    if (← front) = .sign "\x7d" then return [first]
    else return first :: (← acts fuel false)

/-- An act with its end; one that is broken does nothing. -/
def act : (fuel : Nat) → (isFirst : Bool) → WordReader Act
  | 0, _ => stop
  | fuel + 1, isFirst =>
    tryCatch (actOnce fuel) fun
      | .broken => do
        recover isFirst
        return .block []
      | .final => stop

/-- An act with its end. -/
def actOnce : (fuel : Nat) → WordReader Act
  | 0 => stop
  | fuel + 1 => do
    match ← front with
    | .sign "\x7b" =>
      advance
      let inner ← acts fuel true
      expect (.sign "\x7d")
      return .block inner
    | .keyword "if" =>
      advance
      expect (.sign "(")
      let condition ← expression fuel 1
      expectOverLines (.sign ")")
      let yes ← act fuel false
      if (← front) = .keyword "else" then
        expectOverLines (.keyword "else")
        return .branch condition [yes] [← act fuel false]
      else return .branch condition [yes] []
    | .keyword "while" =>
      advance
      expect (.sign "(")
      let condition ← expression fuel 1
      expectOverLines (.sign ")")
      return .loop condition [← looped (act fuel false)]
    | .keyword "do" =>
      expectOverLines (.keyword "do")
      let inner ← looped (act fuel false)
      return .bodyFirst [inner] (← bodyEnd fuel)
    | .keyword "for" =>
      advance
      expect (.sign "(")
      match ← front with
      | .name s =>
        advance
        if ← accept (.keyword "in") then
          match ← front with
          | .name array =>
            advance
            useName .single s
            useName .array array
            expectOverLines (.sign ")")
            return .forEach s array [← looped (act fuel false)]
          | _ => broken
        else
          let e ← stepped fuel (← variableBehind fuel s)
          let start ← expressionBehind fuel 1 (← headBehind fuel e)
          semicolon
          counted fuel [.value start]
      | w =>
        if isEnd w ∧ w ≠ .lineEnd then
          advance
          counted fuel []
        else
          let start ← expression fuel 1
          semicolon
          counted fuel [.value start]
    | w =>
      if isEnd w then
        advance
        return .block []
      else plainAct fuel

/-- The condition behind the body of a loop. -/
def bodyEnd : (fuel : Nat) → WordReader Operand
  | 0 => stop
  | fuel + 1 =>
    tryCatch (do
      expect (.keyword "while")
      expect (.sign "(")
      let condition ← expression fuel 1
      expect (.sign ")")
      ended (pure ())
      return condition) fun
        | .broken => do
          recover false
          bodyEnd fuel
        | .final => stop

/-- A loop that counts, behind its start. -/
def counted : (fuel : Nat) → List Act → WordReader Act
  | 0, _ => stop
  | fuel + 1, start => do
    let w ← front
    let condition? ← if isEnd w ∧ w ≠ .lineEnd then pure none else some <$> expression fuel 1
    semicolon
    let next ← if (← front) = .sign ")" then pure [] else do
      pure [Act.value (← expression fuel 1)]
    expectOverLines (.sign ")")
    return .count start condition? next [← looped (act fuel false)]

end

/-! ## Rules -/

/-- The acts in braces; before the closing one is passed over, something is done. -/
def block (fuel : Nat) (leave : WordReader Unit) : WordReader (List Act) := do
  expect (.sign "\x7b")
  let inner ← acts fuel true
  if (← front) ≠ .sign "\x7d" then broken
  leave
  advance
  return inner

/-- The names of parameters, up to the closing bracket. -/
def parameterNames (function : String) : (fuel : Nat) → WordReader (List String)
  | 0 => stop
  | fuel + 1 => do
    let name ← match ← front with
      | .name s => pure s
      | .function s =>
        if s = function then
          note (Octets.ofString "function parameter cannot be the function")
          broken
        else pure s
      | _ => broken
    advance
    if (← front) = .sign "," then
      advance
      return name :: (← parameterNames function fuel)
    else return [name]

/-- A function behind its keyword. -/
def functionBehind (fuel : Nat) : WordReader Unit := do
  let name ← match ← front with
    | .name s =>
      match (← get).kinds.lookup s with
      | some .single => note (Octets.ofString ("illegal reference to variable " ++ s))
      | some .array => note (Octets.ofString ("illegal reference to array " ++ s))
      | _ => modify fun state => { state with kinds := (s, .function) :: state.kinds }
      pure s
    | .function s =>
      if ((← get).heads.lookup s).isSome then note (Octets.ofString ("redefinition of " ++ s))
      pure s
    | _ => broken
  advance
  expect (.sign "(")
  let parameters ← if (← front) = .sign ")" then pure [] else
    parameterNames name ((← get).rest.length + 2)
  for (p, i) in parameters.zipIdx do
    if (parameters.take i).contains p then
      note (Octets.ofString (p ++ " is duplicated in argument list"))
  -- what has been passed to the function settles what its parameters are for
  let settled (i : Nat) : WordReader (Option Kind) := do
    let calls := (← get).calls.reverse.filter (·.function = name)
    return (calls.filterMap fun c => c.arguments[i]?.bind fun
      | .value => none
      | .name _ _ kind? => kind?).head?
  let kinds ← parameters.zipIdx.mapM fun (p, i) => do return (p, ← settled i)
  if (← front) ≠ .sign ")" then broken
  modify fun s => { s with locals := kinds, scope := .function }
  expectOverLines (.sign ")")
  let body ← block fuel do
    modify fun s =>
      { s with
        heads := (name, s.locals.map Prod.snd) :: s.heads, locals := [], scope := .main }
  modify fun s => { s with functions := { name, parameters, body } :: s.functions }

/-- A rule. -/
def rule (fuel : Nat) : WordReader Clause := do
  let inBlock (scope : Scope) (occasion : Occasion) : WordReader Clause := do
    advance
    modify fun s => { s with scope }
    let acts ← block fuel (modify fun s => { s with scope := .main })
    return { occasion, acts? := some acts }
  match ← front with
  | .keyword "BEGIN" => inBlock .start .start
  | .keyword "END" => inBlock .finish .finish
  | .sign "\x7b" => return { occasion := .always, acts? := some (← block fuel (pure ())) }
  | _ =>
    let first ← expression fuel 1
    let occasion ← if ← accept (.sign ",") then do
        pure (Occasion.between first (← expression fuel 1))
      else pure (Occasion.matching first)
    if (← front) = .sign "\x7b" then return { occasion, acts? := some (← block fuel (pure ())) }
    else
      ended (pure ())
      return { occasion, acts? := none }

/-- The rules and functions up to the end of the text. -/
def rules (nesting : Nat) : (fuel : Nat) → WordReader (List Clause)
  | 0 => stop
  | fuel + 1 => do
    if (← front) = .textEnd then return []
    else
      let first ← tryCatch (do
          if ← accept (.keyword "function") then
            functionBehind nesting
            return []
          else return [← rule nesting]) fun
        | .broken => do
          -- the next block is read for its faults only
          report
          modify fun s => { s with
            quiet := 3, directs := false, reads := false, locals := [], scope := .main }
          skipTo (· = .sign "\x7b") ((← get).rest.length + 2)
          return [{ occasion := .always, acts? := some (← tryCatch (block nesting (pure ())) fun _ => stop) }]
        | .final => stop
      return first ++ (← rules nesting fuel)

/-- Checks the calls of functions that were not known when they were called. -/
def checkCalls : WordReader Unit := do
  let s ← get
  let missing := s.calls.reverse.filter fun c => (s.heads.lookup c.function).isNone
  for name in (missing.map (·.function)).eraseDups.reverse do
    note (Octets.ofString ("function " ++ name ++ " never defined"))
  for c in s.calls.reverse do
    match s.heads.lookup c.function with
    | some parameters => checkPassed c parameters
    | none => pure ()

/-- All rules of the text. -/
def all : WordReader Rules := do
  passLines
  let length := (← get).rest.length
  readWord (length + 2)
  let rules ← rules (100 * length + 1000) (length + 2)
  if (← get).faults.isEmpty then checkCalls
  return { rules, functions := (← get).functions.reverse }

end WordReader

/-- The names that are there from the beginning. -/
def givenNames : List (String × Kind) :=
  [("ENVIRON", .array), ("ARGV", .array)] ++
    ["OFS", "ORS", "SUBSEP", "FILENAME", "NR", "FNR", "RSTART", "RLENGTH", "ARGC"].map (·, Kind.single)

/-- The rules that a text writes, or what is wrong with it. -/
def rulesOf (text : Octets) : Except (List Octets) Rules :=
  match WordReader.all.run.run { rest := text ++ ['\n'], kinds := givenNames } with
  | (.ok rules, s) => if s.faults.isEmpty then .ok rules else .error s.faults.reverse
  | (.error _, s) => .error s.faults.reverse

end ComponentReference.Rule
