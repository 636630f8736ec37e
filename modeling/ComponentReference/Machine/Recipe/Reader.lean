import ComponentReference.Machine.Recipe.Syntax
import ComponentReference.Machine.Recipe.Token

/-!
# Reading recipes

Words are put together to expressions, by how strongly signs bind, and to steps.
-/

namespace ComponentReference.Recipe

/-- What reads words; where it fails, it tells why, or the words that are left. -/
abbrev WordReader := StateT (List Placed) (Except (Misreading ⊕ List Placed))

namespace WordReader

/-- Fails at the word in front. -/
def refuse {α : Type} : WordReader α := do
  throw (.inr (← get))

/-- Fails at the word in front for a reason. -/
def refuseAs {α : Type} (message : String) (kind : String := "SyntaxError") : WordReader α := do
  match ← get with
  | word :: _ =>
    let width := if kind = "IndentationError" then 1 else word.width
    throw (.inl { kind, message, line := word.line, column := word.column, width })
  | [] => refuse

/-- The word in front. -/
def peek : WordReader (Option Token) :=
  return (← get).head?.map Placed.token

/-- The line of the word in front. -/
def line : WordReader Nat :=
  return ((← get).head?.map Placed.line).getD 0

/-- Passes over the word in front. -/
def advance : WordReader Unit :=
  modify List.tail

/-- Takes a sign if it is in front. -/
def trySign (wanted : String) : WordReader Bool := do
  match ← peek with
  | some (.sign s) =>
    if s = wanted then
      advance
      return true
    else return false
  | _ => return false

/-- Takes a word if it is in front. -/
def tryName (wanted : String) : WordReader Bool := do
  match ← peek with
  | some (.name s) =>
    if s = wanted then
      advance
      return true
    else return false
  | _ => return false

/-- Takes a sign that has to be there. -/
def sign (wanted : String) : WordReader Unit := do
  if !(← trySign wanted) then refuse

/-- Takes a word that has to be there. -/
def keyword (wanted : String) : WordReader Unit := do
  if !(← tryName wanted) then refuse

/-- The words that are no names. -/
def keywords : List String :=
  ["if", "else", "elif", "for", "while", "in", "is", "not", "and", "or", "import", "from", "as",
    "def", "return", "try", "except", "finally", "raise", "with", "pass", "break", "continue",
    "class", "lambda", "del", "global", "nonlocal", "assert", "yield", "async", "await"]

/-- A name. -/
def name : WordReader String := do
  match ← peek with
  | some (.name s) =>
    if keywords.contains s then refuse
    advance
    return s
  | _ => refuse

/-- Names with points between them. -/
def dottedName : (fuel : Nat) → WordReader String
  | 0 => refuse
  | fuel + 1 => do
    let first ← name
    if ← trySign "." then return first ++ "." ++ (← dottedName fuel) else return first

/-- The signs between operands by how strongly they bind, the weakest first. -/
def levels : List (List String) :=
  [["|"], ["^"], ["&"], ["<<", ">>"], ["+", "-"], ["*", "/", "//", "%"]]

/-- The sign in front, if it is one of some. -/
def signOf (wanted : List String) : WordReader (Option String) := do
  match ← peek with
  | some (.sign s) =>
    if wanted.contains s then
      advance
      return some s
    else return none
  | _ => return none

/-- A comparison that is in front. -/
def comparison : WordReader (Option String) := do
  match ← signOf ["<", ">", "==", "!=", "<=", ">="] with
  | some s => return some s
  | none =>
    if ← tryName "in" then return some "in"
    if ← tryName "is" then
      if ← tryName "not" then return some "is not"
      return some "is"
    match ← get with
    | ⟨.name "not", _, _, _⟩ :: ⟨.name "in", _, _, _⟩ :: rest =>
      set rest
      return some "not in"
    | _ => return none

/-- Whether brackets are open behind a character before which they were. -/
def depthAfter (depth : Nat) (c : Char) : Nat :=
  if ['\x7b', '[', '('].contains c then depth + 1
  else if ['\x7d', ']', ')'].contains c then depth - 1
  else depth

/-- What is up to the closing brace, and what is behind it. -/
def insideBraces : (depth : Nat) → List Char → List Char × List Char
  | _, [] => ([], [])
  | depth, c :: rest =>
    if c = '\x7d' ∧ depth = 0 then ([], rest)
    else
      let (inner, after) := insideBraces (depthAfter depth c) rest
      (c :: inner, after)

/-- An expression, and the format behind a colon. -/
def beforeFormat : (depth : Nat) → List Char → List Char × List Char
  | _, [] => ([], [])
  | depth, c :: rest =>
    if c = ':' ∧ depth = 0 then ([], rest)
    else
      let (source, format) := beforeFormat (depthAfter depth c) rest
      (c :: source, format)

/-- Pieces as one expression. -/
def joined : List Expr → Expr
  | [e@(.const _)] => e
  | pieces => .template pieces

mutual

/-- An expression. -/
def expr : (fuel : Nat) → WordReader Expr
  | 0 => refuse
  | fuel + 1 => do
    if ← tryName "lambda" then
      let parameters ← parametersUpTo fuel ":"
      return .function parameters (← expr fuel)
    let first ← disjunction fuel
    if ← tryName "if" then
      let condition ← disjunction fuel
      keyword "else"
      return .choice condition first (← expr fuel)
    return first

/-- Parameters with commas between them, up to a closing sign. -/
def parametersUpTo : (fuel : Nat) → (closing : String) → WordReader (List (String × Option Expr))
  | 0, _ => refuse
  | fuel + 1, closing => do
    if ← trySign closing then return []
    let parameter ← name
    if closing ≠ ":" then
      if ← trySign ":" then
        let _ ← expr fuel
    let default? ← if ← trySign "=" then some <$> expr fuel else pure none
    if ← trySign closing then return [(parameter, default?)]
    sign ","
    return (parameter, default?) :: (← parametersUpTo fuel closing)

/-- Operands of which one has to hold. -/
def disjunction : (fuel : Nat) → WordReader Expr
  | 0 => refuse
  | fuel + 1 => do
    let first ← conjunction fuel
    if ← tryName "or" then return .either first (← disjunction fuel)
    return first

/-- Operands of which each has to hold. -/
def conjunction : (fuel : Nat) → WordReader Expr
  | 0 => refuse
  | fuel + 1 => do
    let first ← inversion fuel
    if ← tryName "and" then return .both first (← conjunction fuel)
    return first

/-- An operand that may have to fail. -/
def inversion : (fuel : Nat) → WordReader Expr
  | 0 => refuse
  | fuel + 1 => do
    if ← tryName "not" then return .unary "not" (← inversion fuel)
    let first ← operands fuel levels
    match ← comparisons fuel with
    | [] => return first
    | others => return .compare first others

/-- The comparisons behind an operand. -/
def comparisons : (fuel : Nat) → WordReader (List (String × Expr))
  | 0 => refuse
  | fuel + 1 => do
    match ← comparison with
    | none => return []
    | some s =>
      let operand ← operands fuel levels
      return (s, operand) :: (← comparisons fuel)

/-- Operands with signs between them that bind at least so strongly. -/
def operands : (fuel : Nat) → List (List String) → WordReader Expr
  | 0, _ => refuse
  | fuel + 1, [] => signed fuel
  | fuel + 1, signs :: stronger => do
    let first ← operands fuel stronger
    further fuel signs stronger first

/-- Further operands behind one. -/
def further : (fuel : Nat) → List String → List (List String) → Expr → WordReader Expr
  | 0, _, _, _ => refuse
  | fuel + 1, signs, stronger, first => do
    match ← signOf signs with
    | none => return first
    | some s =>
      let second ← operands fuel stronger
      further fuel signs stronger (.binary s first second)

/-- An operand with signs in front. -/
def signed : (fuel : Nat) → WordReader Expr
  | 0 => refuse
  | fuel + 1 => do
    match ← signOf ["-", "+", "~"] with
    | some s => return .unary s (← signed fuel)
    | none =>
      let base ← trailed fuel (← atom fuel)
      if ← trySign "**" then return .binary "**" base (← signed fuel)
      return base

/-- What stands behind an operand. -/
def trailed : (fuel : Nat) → Expr → WordReader Expr
  | 0, _ => refuse
  | fuel + 1, e => do
    if ← trySign "." then
      trailed fuel (.member e (← name))
    else if ← trySign "(" then
      let (arguments, named) ← arguments fuel
      trailed fuel (.call e arguments named)
    else if ← trySign "[" then
      let bound (ends : List String) : WordReader (Option Expr) := do
        match ← peek with
        | some (.sign s) => if ends.contains s then return none else return some (← expr fuel)
        | _ => return some (← expr fuel)
      let from? ← bound [":"]
      if ← trySign ":" then
        let to? ← bound [":", "]"]
        let step? ← if ← trySign ":" then bound ["]"] else pure none
        sign "]"
        trailed fuel (.slice e from? to? step?)
      else
        sign "]"
        match from? with
        | some index => trailed fuel (.item e index)
        | none => refuse
    else return e

/-- The arguments of a call, up to the closing bracket. -/
def arguments : (fuel : Nat) → WordReader (List Expr × List (String × Expr))
  | 0 => refuse
  | fuel + 1 => do
    if ← trySign ")" then return ([], [])
    let ended (first : List Expr) (named : List (String × Expr)) :
        WordReader (List Expr × List (String × Expr)) := do
      if ← trySign ")" then return (first, named)
      sign ","
      let (others, more) ← arguments fuel
      return (first ++ others, named ++ more)
    match ← get with
    | ⟨.name s, _, _, _⟩ :: ⟨.sign "=", _, _, _⟩ :: rest =>
      set rest
      let e ← expr fuel
      ended [] [(s, e)]
    | ⟨.sign "*", _, _, _⟩ :: rest =>
      set rest
      let e ← expr fuel
      ended [.spread e] []
    | _ =>
      let e ← expr fuel
      match ← eachOf fuel e with
      | some all => ended [all] []
      | none => ended [e] []

/-- The targets, the source and the conditions behind an expression for each item. -/
def eachPart : (fuel : Nat) → WordReader (Option (Expr × Expr × List Expr))
  | 0 => refuse
  | fuel + 1 => do
    if !(← tryName "for") then return none
    let target ← targets fuel
    keyword "in"
    let source ← disjunction fuel
    return some (target, source, ← conditions fuel)

/-- What makes an expression one for each item, if that follows. -/
def eachOf : (fuel : Nat) → Expr → WordReader (Option Expr)
  | 0, _ => refuse
  | fuel + 1, e => do
    return (← eachPart fuel).map fun (target, source, conditions) =>
      .each e target source conditions

/-- The conditions behind a source of items. -/
def conditions : (fuel : Nat) → WordReader (List Expr)
  | 0 => refuse
  | fuel + 1 => do
    if !(← tryName "if") then return []
    let condition ← disjunction fuel
    return condition :: (← conditions fuel)

/-- The targets for the items of a source. -/
def targets : (fuel : Nat) → WordReader Expr
  | 0 => refuse
  | fuel + 1 => do
    let first ← trailed fuel (← atom fuel)
    if !(← trySign ",") then return first
    let others ← operandsUpTo fuel
    return .tuple (first :: others)

/-- Operands behind commas. -/
def operandsUpTo : (fuel : Nat) → WordReader (List Expr)
  | 0 => refuse
  | fuel + 1 => do
    match ← peek with
    | some (.name "in") => return []
    | _ =>
      let first ← trailed fuel (← atom fuel)
      if !(← trySign ",") then return [first]
      return first :: (← operandsUpTo fuel)

/-- Expressions with commas between them, up to a closing sign. -/
def items : (fuel : Nat) → (closing : String) → WordReader (List Expr)
  | 0, _ => refuse
  | fuel + 1, closing => do
    if ← trySign closing then return []
    let first ← if ← trySign "*" then pure (Expr.spread (← expr fuel)) else expr fuel
    if ← trySign closing then return [first]
    sign ","
    return first :: (← items fuel closing)

/-- Fields with commas between them, up to the closing brace. -/
def fields : (fuel : Nat) → WordReader (List (Expr × Expr))
  | 0 => refuse
  | fuel + 1 => do
    if ← trySign "\x7d" then return []
    let key ← expr fuel
    sign ":"
    let value ← expr fuel
    if ← trySign "\x7d" then return [(key, value)]
    sign ","
    return (key, value) :: (← fields fuel)

/-- An operand without signs. -/
def atom : (fuel : Nat) → WordReader Expr
  | 0 => refuse
  | fuel + 1 => do
    match ← peek with
    | some (.number n) =>
      advance
      return .const n
    | some (.text _) | some (.template _) => return joined (← strings fuel)
    | some (.octets s) =>
      advance
      return .octets s
    | some (.name "None") =>
      advance
      return .const .null
    | some (.name "True") =>
      advance
      return .const (.bool true)
    | some (.name "False") =>
      advance
      return .const (.bool false)
    | some (.name _) => return .name (← name)
    | some (.sign "(") =>
      advance
      if ← trySign ")" then return .tuple []
      let first ← expr fuel
      if ← trySign ")" then return first
      match ← eachOf fuel first with
      | some all =>
        sign ")"
        return all
      | none =>
        sign ","
        return .tuple (first :: (← items fuel ")"))
    | some (.sign "[") =>
      advance
      if ← trySign "]" then return .list []
      let first ← if ← trySign "*" then pure (Expr.spread (← expr fuel)) else expr fuel
      if ← trySign "]" then return .list [first]
      match ← eachOf fuel first with
      | some all =>
        sign "]"
        return all
      | none =>
        sign ","
        return .list (first :: (← items fuel "]"))
    | some (.sign "\x7b") =>
      advance
      if ← trySign "\x7d" then return .dict []
      let key ← expr fuel
      sign ":"
      let value ← expr fuel
      if ← trySign "\x7d" then return .dict [(key, value)]
      match ← eachPart fuel with
      | some (target, source, conditions) =>
        sign "\x7d"
        return .eachField key value target source conditions
      | none =>
        sign ","
        return .dict ((key, value) :: (← fields fuel))
    | _ => refuse

/-- Strings that follow each other. -/
def strings : (fuel : Nat) → WordReader (List Expr)
  | 0 => refuse
  | fuel + 1 => do
    match ← peek with
    | some (.text s) =>
      advance
      return .const (.str s) :: (← strings fuel)
    | some (.template s) =>
      advance
      return (← pieces fuel s) ++ (← strings fuel)
    | _ => return []

/-- The pieces of a template. -/
def pieces : (fuel : Nat) → List Char → WordReader (List Expr)
  | 0, _ => refuse
  | _, [] => return []
  | fuel + 1, '\x7b' :: '\x7b' :: rest => return .const (.str "\x7b") :: (← pieces fuel rest)
  | fuel + 1, '\x7d' :: '\x7d' :: rest => return .const (.str "\x7d") :: (← pieces fuel rest)
  | fuel + 1, '\x7b' :: rest => do
    let (inner, after) := insideBraces 0 rest
    let (source, format) := beforeFormat 0 inner
    let (source, conversion) := match source.reverse with
      | c :: '!' :: front => (front.reverse, String.singleton c)
      | _ => (source, "")
    let .ok (words, []) := wordsOf source | refuse
    let kept ← get
    set words
    let e ← expr fuel
    set kept
    return .shown e conversion (String.ofList format) :: (← pieces fuel after)
  | fuel + 1, c :: rest => do
    let plain := (c :: rest).takeWhile fun c => c ≠ '\x7b' ∧ c ≠ '\x7d'
    if plain.isEmpty then refuse
    return .const (.str (String.ofList plain)) ::
      (← pieces fuel ((c :: rest).drop plain.length))

end

/-! ## Steps -/

/-- An expression, or several with commas between them. -/
def exprs (fuel : Nat) : WordReader Expr := do
  let first ← expr fuel
  if !(← trySign ",") then return first
  return .tuple (first :: (← others fuel))
where
  /-- The expressions behind the first comma. -/
  others : (fuel : Nat) → WordReader (List Expr)
    | 0 => refuse
    | fuel + 1 => do
      match ← peek with
      | some .lineEnd | some (.sign "=") | some (.sign ";") | some (.sign ":") => return []
      | _ =>
        let e ← expr fuel
        if !(← trySign ",") then return [e]
        return e :: (← others fuel)

/-- The values behind targets, the targets in front of them in order. -/
def assigned : (fuel : Nat) → Expr → WordReader (List Expr × Expr)
  | 0, _ => refuse
  | fuel + 1, e => do
    if !(← trySign "=") then return ([], e)
    let (targets, value) ← assigned fuel (← exprs fuel)
    return (e :: targets, value)

/-- Names that are brought in, each with the name that it gets. -/
def brought : (fuel : Nat) → WordReader (List (String × String))
  | 0 => refuse
  | fuel + 1 => do
    let part ← dottedName fuel
    let called ← if ← tryName "as" then name else pure part
    if ← trySign "," then return (part, called) :: (← brought fuel)
    return [(part, called)]

/-- A step that holds no others. -/
def plainStep (fuel : Nat) : WordReader Step := do
  let here ← line
  let isEnd : WordReader Bool := do
    match ← peek with
    | some .lineEnd | some (.sign ";") | none => return true
    | _ => return false
  if ← tryName "pass" then return .pass
  if ← tryName "break" then return .leave
  if ← tryName "continue" then return .skip
  if ← tryName "global" then return .shared ((← brought fuel).map Prod.fst)
  if ← tryName "del" then
    match ← exprs fuel with
    | .tuple targets => return .remove here targets
    | target => return .remove here [target]
  if ← tryName "assert" then
    let condition ← expr fuel
    return .require here condition (← if ← trySign "," then some <$> expr fuel else pure none)
  if ← tryName "return" then
    return .result (← if ← isEnd then pure none else some <$> exprs fuel)
  if ← tryName "raise" then
    if ← isEnd then return .fail here none
    let e ← expr fuel
    if ← tryName "from" then
      let _ ← expr fuel
    return .fail here (some e)
  if ← tryName "import" then
    return .bring here ((← brought fuel).map fun (part, called) => (part, none, called))
  if ← tryName "from" then
    let owner ← dottedName fuel
    keyword "import"
    let bracket ← trySign "("
    let parts ← brought fuel
    if bracket then sign ")"
    return .bring here (parts.map fun (part, called) => (owner, some part, called))
  let e ← exprs fuel
  match ← signOf ["+=", "-=", "*=", "/=", "//=", "%=", "|=", "&=", "**=", "<<=", ">>="] with
  | some s => return .update here (String.ofList (s.toList.dropLast)) e (← exprs fuel)
  | none =>
    match ← assigned fuel e with
    | ([], e) => return .value here e
    | (targets, e) => return .assign here targets e

/-- The steps of one line. -/
def lineSteps : (fuel : Nat) → WordReader (List Step)
  | 0 => refuse
  | fuel + 1 => do
    let first ← plainStep fuel
    let more ← trySign ";"
    match ← peek with
    | some .lineEnd =>
      advance
      return [first]
    | _ => if more then return first :: (← lineSteps fuel) else refuse

mutual

/-- The steps of a block, behind its colon; it belongs to something that begins in a line. -/
def block : (fuel : Nat) → (owner : String) → (line : Nat) → WordReader (List Step)
  | 0, _, _ => refuse
  | fuel + 1, owner, line => do
    if !(← trySign ":") then
      match ← peek with
      | some .lineEnd => refuseAs "expected ':'"
      | _ => refuse
    match ← get with
    | ⟨.lineEnd, _, _, _⟩ :: ⟨.indent, _, _, _⟩ :: rest =>
      set rest
      steps fuel
    | ⟨.lineEnd, _, _, _⟩ :: rest =>
      set rest
      refuseAs ("expected an indented block after " ++ owner ++ " on line " ++ toString line)
        "IndentationError"
    | _ => lineSteps fuel

/-- Steps up to the end of the block, or of the recipe. -/
def steps : (fuel : Nat) → WordReader (List Step)
  | 0 => refuse
  | fuel + 1 => do
    match ← peek with
    | none => return []
    | some .dedent =>
      advance
      return []
    | some .lineEnd =>
      advance
      steps fuel
    | _ =>
      let first ← step fuel
      return first ++ (← steps fuel)

/-- The steps of a line, with the blocks that belong to it. -/
def step : (fuel : Nat) → WordReader (List Step)
  | 0 => refuse
  | fuel + 1 => do
    let here ← line
    if ← tryName "if" then return [← branches fuel "'if' statement" here]
    if ← tryName "while" then
      let condition ← expr fuel
      return [.loop condition (← block fuel "'while' statement" here)]
    if ← tryName "for" then
      let target ← targets fuel
      keyword "in"
      let source ← exprs fuel
      return [.forEach target source (← block fuel "'for' statement" here)]
    if ← tryName "def" then
      let defined ← name
      sign "("
      let parameters ← parametersUpTo fuel ")"
      if ← trySign "->" then
        let _ ← expr fuel
      return [.define defined parameters (← block fuel "function definition" here)]
    if ← tryName "with" then
      let e ← expr fuel
      let target? ← if ← tryName "as" then some <$> expr fuel else pure none
      return [.withFile here e target? (← block fuel "'with' statement" here)]
    if ← tryName "try" then
      let body ← block fuel "'try' statement" here
      let handlers ← handlers fuel
      let here ← line
      let otherwise ← if ← tryName "else" then block fuel "'else' statement" here else pure []
      let here ← line
      let hasEnd ← tryName "finally"
      let atEnd ← if hasEnd then block fuel "'finally' statement" here else pure []
      if handlers.isEmpty && !hasEnd then refuseAs "expected 'except' or 'finally' block"
      return [.attempt body handlers otherwise atEnd]
    lineSteps fuel

/-- What a branch does, behind its word. -/
def branches : (fuel : Nat) → (owner : String) → (line : Nat) → WordReader Step
  | 0, _, _ => refuse
  | fuel + 1, owner, here => do
    let condition ← expr fuel
    let yes ← block fuel owner here
    let here ← line
    if ← tryName "elif" then return .branch condition yes [← branches fuel "'elif' statement" here]
    if ← tryName "else" then return .branch condition yes (← block fuel "'else' statement" here)
    return .branch condition yes []

/-- The handlers of failures. -/
def handlers : (fuel : Nat) → WordReader (List (Option Expr × String × List Step))
  | 0 => refuse
  | fuel + 1 => do
    let here ← line
    if !(← tryName "except") then return []
    let kind? ← match ← peek with
      | some (.sign ":") => pure none
      | _ => some <$> expr fuel
    let called ← if ← tryName "as" then name else pure ""
    let body ← block fuel "'except' statement" here
    return (kind?, called, body) :: (← handlers fuel)

end

end WordReader

/-- Why words are no recipe that ends at those which are left. -/
def misreadingAt (left open' : List Placed) : Misreading :=
  let last := left.head?.getD { token := .lineEnd, line := 0 }
  match open' with
  | ⟨.sign s, line, column, _⟩ :: _ =>
    if line < last.line ∨ left.all fun word => word.token matches .lineEnd | .dedent then
      { message := "'" ++ s ++ "' was never closed", line, column }
    else plain last
  | _ => plain last
where
  /-- Why a word cannot follow. -/
  plain (word : Placed) : Misreading :=
    match word.token with
    | .indent => { kind := "IndentationError", message := "unexpected indent", line := word.line, column := 0, width := 0 }
    | .dedent => { kind := "IndentationError", message := "unexpected unindent", line := word.line, column := 0, width := 0 }
    | _ => { message := "invalid syntax", line := word.line, column := word.column, width := max word.width 1 }

/-- The steps of a recipe, if it can be read. -/
def stepsOf (text : List Char) : Except Misreading (List Step) := do
  let (words, open') ← wordsOf text
  match (WordReader.steps (20 * words.length + 200)).run words with
  | .ok (steps, []) => return steps
  | .ok (_, left) | .error (.inr left) => throw (misreadingAt left open')
  | .error (.inl misreading) => throw misreading

end ComponentReference.Recipe
