import ComponentReference.Machine.Regular.Ordered

/-!
# Reading ordered expressions

Ordered expressions are written with more signs than others: behind a bracket and a question
mark stand groups that match without being counted, conditions on what is around, and changes
of the manner of matching.
-/

namespace ComponentReference.Regular

/-- Why a text is no ordered expression. -/
inductive OrderedFault where
  | unclosedGroup
  | unopenedGroup
  | unclosedClass
  | badCount
  | tooGreatCount
  | nothingToRepeat
  | repeatedTwice
  | lastBackslash
  | badEscape (c : Char)
  | noName
  | openName
  | digitName
  | sameName (name : String)
  | unknownSign
  | lateFlags
  | variableBehind
  | unknownGroup (number : Nat)
  | unknownName (name : String)
  | badRange (low high : String)
  | rangeOfClass
  | unknownClass
  | loneClass
  | unknownProperty
  | tooGreatCode
  | unclosedComment
  | unsupported
deriving DecidableEq, Repr

namespace OrderedFault

/-- The wording of a fault. -/
def message : OrderedFault → String
  | unclosedGroup => "missing closing parenthesis"
  | unopenedGroup => "unmatched closing parenthesis"
  | unclosedClass => "missing terminating ] for character class"
  | badCount => "numbers out of order in \x7b\x7d quantifier"
  | tooGreatCount => "number too big in \x7b\x7d quantifier"
  | nothingToRepeat | repeatedTwice => "quantifier does not follow a repeatable item"
  | lastBackslash => "\\ at end of pattern"
  | badEscape _ => "unrecognized character follows \\"
  | noName => "subpattern name expected"
  | openName => "syntax error in subpattern name (missing terminator?)"
  | digitName => "subpattern name must start with a non-digit"
  | sameName _ => "two named subpatterns have the same name (PCRE2_DUPNAMES not set)"
  | unknownSign | lateFlags => "unrecognized character after (? or (?-"
  | variableBehind => "lookbehind assertion is not fixed length"
  | unknownGroup _ | unknownName _ => "reference to non-existent subpattern"
  | badRange _ _ => "range out of order in character class"
  | rangeOfClass => "invalid range in character class"
  | unknownClass => "unknown POSIX class name"
  | loneClass => "POSIX named classes are supported only within a class"
  | unknownProperty => "unknown property after \\P or \\p"
  | tooGreatCode => "character code point value in \\x\x7b\x7d or \\o\x7b\x7d is too large"
  | unclosedComment => "missing ) after (?# comment"
  | unsupported => "PCRE2 does not support \\F, \\L, \\l, \\N\x7bname\x7d, \\U, or \\u"

/-- The wording of a fault in a recipe. -/
def recipeMessage : OrderedFault → String
  | unclosedGroup => "missing ), unterminated subpattern"
  | unopenedGroup => "unbalanced parenthesis"
  | unclosedClass => "unterminated character set"
  | badCount => "min repeat greater than max repeat"
  | tooGreatCount => "the repetition number is too large"
  | nothingToRepeat => "nothing to repeat"
  | repeatedTwice => "multiple repeat"
  | lastBackslash => "bad escape (end of pattern)"
  | badEscape c => "bad escape \\" ++ String.singleton c
  | noName => "missing group name"
  | openName => "missing >, unterminated name"
  | digitName => "bad character in group name"
  | sameName name => "redefinition of group name '" ++ name ++ "'"
  | unknownSign => "unknown extension"
  | lateFlags => "global flags not at the start of the expression"
  | variableBehind => "look-behind requires fixed-width pattern"
  | unknownGroup number => "invalid group reference " ++ toString number
  | unknownName name => "unknown group name '" ++ name ++ "'"
  | badRange low high => "bad character range " ++ low ++ "-" ++ high
  | rangeOfClass => "bad character range"
  | unclosedComment => "missing ), unterminated comment"
  | _ => "bad escape"

end OrderedFault

/-- How far reading an ordered expression has come. -/
structure OrderedReading where
  rest : List Char
  /-- Whether the expression stands in a recipe, not among the arguments of a program. -/
  inRecipe : Bool := false
  manner : Manner := {}
  /-- Whether a point matches the end of a line too. -/
  pointMatchesAll : Bool := false
  /-- Whether spaces and comments stand for nothing. -/
  isSpaced : Bool := false
  groups : Nat := 0
  names : List (String × Nat) := []
  /-- The groups that are referred to before they are known. -/
  wanted : List Nat := []

/-- What reads a part of an ordered expression. -/
abbrev OrderedReader := StateT OrderedReading (Except (OrderedFault × List Char))

namespace OrderedReader

/-- Gives up at what is still to be read. -/
def fail {α : Type} (fault : OrderedFault) : OrderedReader α := do
  throw (fault, (← get).rest)

/-- Goes on at a text. -/
def moveTo (rest : List Char) : OrderedReader Unit :=
  modify fun r => { r with rest }

/-- Takes a text if it comes next. -/
def accept (text : String) : OrderedReader Bool := do
  let r ← get
  if text.toList.isPrefixOf r.rest then
    set { r with rest := r.rest.drop text.length }
    return true
  return false

/-- The character itself. -/
def plain (c : Char) : OrderedReader Ordered :=
  return .one (← get).manner false [.range c c]

/-- The characters with a property, or all others. -/
def property (inverted : Bool) (name : String) : OrderedReader Ordered :=
  return .one (← get).manner inverted [.named name]

/-- The octal or hexadecimal number at the beginning of a text, of at most so many digits, and
what follows it. -/
def code (base most : Nat) (text : List Char) : Nat × List Char :=
  let digits := (text.take most).takeWhile fun c => (Text.hexValue? c).any (· < base)
  (Octets.valueOf base digits, text.drop digits.length)

/-- What is between a text's opening sign and a closing one, and what follows that. -/
def enclosed? (closing : Char) (text : List Char) : Option (List Char × List Char) :=
  match text.span (· ≠ closing) with
  | (inner, _ :: rest) => some (inner, rest)
  | _ => none

/-- The character that an escape stands for, behind whose letter the text goes on. -/
def escapedChar? (inRecipe : Bool) (c : Char) (rest : List Char) :
    Except OrderedFault (Option (Char × List Char)) :=
  let found (n : Nat) (rest : List Char) : Except OrderedFault (Option (Char × List Char)) :=
    if 0x10FFFF < n then .error .tooGreatCode else .ok (some (Char.ofNat n, rest))
  match c with
  | 'n' => found 10 rest
  | 't' => found 9 rest
  | 'r' => found 13 rest
  | 'f' => found 12 rest
  | 'a' => found 7 rest
  | 'v' => if inRecipe then found 11 rest else .ok none
  | 'e' => if inRecipe then .error (.badEscape c) else found 27 rest
  | '0' => let (n, rest) := code 8 2 rest; found n rest
  | 'x' =>
    match inRecipe, rest with
    | false, '\x7b' :: inner =>
      match enclosed? '\x7d' inner with
      | some (digits, rest) => found (Octets.valueOf 16 digits) rest
      | none => .error .tooGreatCode
    | _, rest => let (n, rest) := code 16 2 rest; found n rest
  | 'u' =>
    if inRecipe then let (n, rest) := code 16 4 rest; found n rest else .error .unsupported
  | 'U' =>
    if inRecipe then let (n, rest) := code 16 8 rest; found n rest else .error .unsupported
  | 'c' =>
    match inRecipe, rest with
    | false, d :: rest => found (Nat.xor d.toUpper.toNat 64) rest
    | _, _ => .error (.badEscape c)
  | 'L' | 'l' => .error (if inRecipe then .badEscape c else .unsupported)
  | c =>
    if c.isAlpha then (if inRecipe then .error (.badEscape c) else .ok none)
    else .ok (some (c, rest))

/-- What a letter behind a backslash lists. -/
def listedBy? (inRecipe : Bool) : Char → Option ClassItem
  | 'd' => some (.named "digit")
  | 'D' => some (.lacking "digit")
  | 'w' => some (.named "word")
  | 'W' => some (.lacking "word")
  | 's' => some (.named "space")
  | 'S' => some (.lacking "space")
  | 'h' => if inRecipe then none else some (.named "blank")
  | 'H' => if inRecipe then none else some (.lacking "blank")
  | _ => none

/-- The name of the class of characters that a general property is. -/
def propertyName? (name : String) : Option String :=
  [("L", "alpha"), ("Lu", "upper"), ("Ll", "lower"), ("N", "digit"), ("Nd", "digit"), ("P", "punct"),
    ("Po", "punct"), ("S", "punct"), ("Z", "space"), ("Zs", "blank"), ("Xan", "alnum"), ("Xwd", "word"),
    ("Xsp", "space"), ("Xps", "space"), ("Cc", "cntrl"), ("Any", "any")].lookup name

/-! ## Brackets -/

/-- An element of a bracket: characters that it lists, or one that may begin a range. -/
inductive Element where
  | items (item : ClassItem)
  | char (c : Char)

/-- The element of a bracket that comes next. -/
def element : OrderedReader Element := do
  let r ← get
  match r.rest with
  | [] => fail .unclosedClass
  | '\\' :: [] => fail .lastBackslash
  | '\\' :: c :: rest =>
    match listedBy? r.inRecipe c with
    | some item =>
      moveTo rest
      return .items item
    | none =>
      if c = 'b' then
        moveTo rest
        return .char '\x08'
      if (c = 'p' ∨ c = 'P') ∧ !r.inRecipe then
        match rest with
        | '\x7b' :: inner =>
          match enclosed? '\x7d' inner with
          | some (name, rest) =>
            match propertyName? (String.ofList name) with
            | some name =>
              moveTo rest
              return .items (if c = 'p' then .named name else .lacking name)
            | none => fail .unknownProperty
          | none => fail .unknownProperty
        | _ => fail .unknownProperty
      if '1' ≤ c ∧ c ≤ '7' then
        let (n, rest) := code 8 3 (c :: rest)
        moveTo rest
        return .char (Char.ofNat n)
      match escapedChar? r.inRecipe c rest with
      | .ok (some (c, rest)) =>
        moveTo rest
        return .char c
      | .ok none =>
        moveTo rest
        return .char c
      | .error fault => fail fault
  | '[' :: ':' :: rest =>
    let named? := if r.inRecipe then none else delimited rest
    match named? with
    | some (inverted, name, rest) =>
      if (property? name).isNone ∧ name ≠ "word" then fail .unknownClass
      moveTo rest
      return .items (if inverted then .lacking name else .named name)
    | none =>
      moveTo (':' :: rest)
      return .char '['
  | c :: rest =>
    moveTo rest
    return .char c
where
  /-- The name of a class up to its end, whether it is taken the other way round, and what
  follows. -/
  delimited (text : List Char) : Option (Bool × String × List Char) :=
    let (inverted, text) := match text with
      | '^' :: text => (true, text)
      | text => (false, text)
    match text.span Char.isAlpha with
    | (name, ':' :: ']' :: rest) => some (inverted, String.ofList name, rest)
    | _ => none

/-- The items of a bracket up to its end. -/
def bracketItems : (fuel : Nat) → (first : Bool) → OrderedReader (List ClassItem)
  | 0, _ => fail .unclosedClass
  | fuel + 1, first => do
    if !first then
      if ← accept "]" then return []
    let start ← get
    let item ← match ← element with
      | .items item => do
        if !start.inRecipe then
          match (← get).rest with
          | '-' :: c :: _ => if c ≠ ']' then fail .rangeOfClass
          | _ => pure ()
        pure item
      | .char low =>
        let r ← get
        match r.rest with
        | '-' :: ']' :: _ => pure (ClassItem.range low low)
        | '-' :: rest =>
          moveTo rest
          match ← element with
          | .items _ => fail .rangeOfClass
          | .char high =>
            if high < low then
              set start
              fail (.badRange (String.singleton low) (String.singleton high))
            pure (.range low high)
        | _ => pure (.range low low)
    return item :: (← bracketItems fuel false)

/-- The bracket whose opening has been read. -/
def bracket : OrderedReader Ordered := do
  let before ← get
  let inverted ← accept "^"
  let fuel := (← get).rest.length + 1
  match (bracketItems fuel true).run (← get) with
  | .ok (items, r) =>
    set r
    return .one r.manner inverted items
  | .error (.unclosedClass, _) =>
    set { before with rest := '[' :: before.rest }
    fail .unclosedClass
  | .error e => throw e

/-! ## Escapes -/

/-- A reference to a group by its number. -/
def reference (number : Nat) : OrderedReader Ordered := do
  let r ← get
  if r.inRecipe ∧ r.groups < number then fail (.unknownGroup number)
  set { r with wanted := number :: r.wanted }
  return .again r.manner number

/-- A reference to a group by its name, or its number. -/
def namedReference (name : List Char) : OrderedReader Ordered := do
  let r ← get
  match Octets.int? name with
  | some n => reference (if n < 0 then (r.groups + 1 + n).toNat else n.toNat)
  | none =>
    match r.names.lookup (String.ofList name) with
    | some number => reference number
    | none => fail (if r.inRecipe then .unknownName (String.ofList name) else .unknownGroup 0)

/-- What an escape stands for whose backslash has been read. -/
def escape : OrderedReader Ordered := do
  let r ← get
  let manner := r.manner
  match r.rest with
  | [] => fail .lastBackslash
  | c :: rest =>
    let single (result : Ordered) : OrderedReader Ordered := do
      moveTo rest
      return result
    match listedBy? r.inRecipe c with
    | some item => single (.one manner false [item])
    | none =>
      match c with
      | 'b' => single (.edge manner .wordEdge)
      | 'B' => single (.edge manner .noWordEdge)
      | 'A' => single (.edge manner .textStart)
      | 'Z' => single (.edge manner (if r.inRecipe then .textEnd else .lastLineEnd))
      | _ =>
        if '1' ≤ c ∧ c ≤ '9' then
          let (digits, after) := (c :: rest).span Char.isDigit
          let number := Octets.valueOf 10 digits
          if number < 10 ∨ number ≤ r.groups then
            moveTo after
            return ← reference number
          if c ≤ '7' then
            let (n, after) := code 8 3 (c :: rest)
            moveTo after
            return ← plain (Char.ofNat n)
          fail (.unknownGroup number)
        if r.inRecipe then
          match escapedChar? true c rest with
          | .ok (some (c, rest)) =>
            moveTo rest
            return ← plain c
          | .ok none => fail (.badEscape c)
          | .error fault => fail fault
        match c with
        | 'z' => single (.edge manner .textEnd)
        | 'G' => single (.edge manner .textStart)
        | 'K' => single .begins
        | 'N' => single (.any false)
        | 'X' => single (.any true)
        | 'R' => single (.choice (.sequence (.one manner false [.range '\r' '\r']) (.one manner false [.range '\n' '\n']))
            (.one manner false [.range '\n' '\r']))
        | 'v' => single (.one manner false [.range '\n' '\r'])
        | 'V' => single (.one manner true [.range '\n' '\r'])
        | 'E' => single .empty
        | 'Q' =>
          let text := String.ofList rest
          let quoted := (text.splitOn "\\E").headD ""
          moveTo (rest.drop (quoted.length + 2))
          return quoted.toList.foldr (fun c r => .sequence (.one manner false [.range c c]) r) .empty
        | 'p' | 'P' =>
          let (name, rest) : List Char × List Char := match rest with
            | '\x7b' :: inner => (enclosed? '\x7d' inner).getD ([], inner)
            | c :: rest => ([c], rest)
            | [] => ([], [])
          let (inverted, name) : Bool × List Char := match name with
            | '^' :: name => (c = 'p', name)
            | name => (c = 'P', name)
          match propertyName? (String.ofList name) with
          | some "any" =>
            moveTo rest
            return .any true
          | some name =>
            moveTo rest
            return .one { manner with plainClasses := false } inverted [.named name]
          | none => fail .unknownProperty
        | 'k' | 'g' =>
          let pairs := [('\x7b', '\x7d'), ('<', '>'), ('\'', '\'')]
          match rest with
          | opening :: inner =>
            match pairs.lookup opening with
            | some closing =>
              match enclosed? closing inner with
              | some (name, rest) =>
                moveTo rest
                return ← namedReference name
              | none => fail .openName
            | none =>
              let (digits, after) := rest.span fun c => c.isDigit ∨ c = '-'
              if digits.isEmpty then fail (.unknownGroup 0)
              moveTo after
              return ← namedReference digits
          | [] => fail (.unknownGroup 0)
        | c =>
          match escapedChar? false c rest with
          | .ok (some (c, rest)) =>
            moveTo rest
            return ← plain c
          | .ok none => fail (.badEscape c)
          | .error fault => fail fault

/-! ## Repetitions -/

/-- The bounds of a repetition that come next, if there are some. -/
def bounds? : OrderedReader (Option (Nat × Option Nat)) := do
  let r ← get
  match r.rest with
  | '*' :: rest =>
    moveTo rest
    return some (0, none)
  | '+' :: rest =>
    moveTo rest
    return some (1, none)
  | '?' :: rest =>
    moveTo rest
    return some (0, some 1)
  | '\x7b' :: rest =>
    let (low, after) := rest.span Char.isDigit
    let (high?, after) : Option (List Char) × List Char := match after with
      | ',' :: after => let (high, after) := after.span Char.isDigit; (some high, after)
      | after => (none, after)
    match after with
    | '\x7d' :: after =>
      let isCount := if r.inRecipe then !low.isEmpty || high?.isSome else !low.isEmpty
      if !isCount then return none
      let least := Octets.valueOf 10 low
      let most? := match high? with
        | none => some least
        | some [] => none
        | some high => some (Octets.valueOf 10 high)
      if 65535 < max least (most?.getD 0) ∧ !r.inRecipe then fail .tooGreatCount
      if most?.any (· < least) then fail .badCount
      moveTo after
      return some (least, most?)
    | _ => return none
  | _ => return none

/-- Moves past spaces and comments where they stand for nothing. -/
def skipSpaces : (fuel : Nat) → OrderedReader Unit
  | 0 => return
  | fuel + 1 => do
    let r ← get
    if !r.isSpaced then return
    match r.rest with
    | '#' :: rest =>
      moveTo ((rest.dropWhile (· ≠ '\n')).drop 1)
      skipSpaces fuel
    | c :: rest =>
      if Text.isSpacing c then
        moveTo rest
        skipSpaces fuel
    | [] => return

/-- An expression with the repetitions that are written behind it. -/
def repetition (r : Ordered) : OrderedReader Ordered := do
  skipSpaces (← get).rest.length
  match ← bounds? with
  | none => return r
  | some (least, most?) =>
    match r with
    | .edge _ _ => fail .nothingToRepeat
    | _ => pure ()
    let eagerness ← if ← accept "?" then pure Eagerness.least
      else if ← accept "+" then pure Eagerness.mostOnly
      else pure Eagerness.most
    let here ← get
    if (← bounds?).isSome then
      set here
      fail .repeatedTwice
    return .times eagerness r least most?

/-! ## Groups -/

/-- The name of a group up to a sign. -/
def groupName (closing : Char) : OrderedReader (List Char) := do
  let r ← get
  match enclosed? closing r.rest with
  | none => fail .openName
  | some (name, rest) =>
    match name with
    | [] => fail .noName
    | c :: _ => if c.isDigit then fail .digitName
    if !name.all (fun c => c.isAlphanum || c = '_') then fail .openName
    moveTo rest
    return name

/-- A reading with flags turned on or off, as letters say. -/
def withFlags (on : Bool) (letters : List Char) (r : OrderedReading) : OrderedReading :=
  letters.foldl (fun r c => match c with
    | 'i' => { r with manner := { r.manner with ignoresCase := on } }
    | 'm' => { r with manner := { r.manner with manyLines := on } }
    | 's' => { r with pointMatchesAll := on }
    | 'x' => { r with isSpaced := on }
    | _ => r) r

mutual

/-- Alternatives up to the end of the text or of the group. -/
def alternatives : (fuel : Nat) → OrderedReader Ordered
  | 0 => fail .unclosedGroup
  | fuel + 1 => do
    let first ← branch fuel
    if ← accept "|" then return .choice first (← alternatives fuel) else return first

/-- A branch of alternatives. -/
def branch : (fuel : Nat) → OrderedReader Ordered
  | 0 => fail .unclosedGroup
  | fuel + 1 => do
    skipSpaces (← get).rest.length
    match (← get).rest with
    | [] | '|' :: _ | ')' :: _ => return .empty
    | _ =>
      let first ← repetition (← atom fuel)
      match ← branch fuel with
      | .empty => return first
      | more => return .sequence first more

/-- An expression without repetitions. -/
def atom : (fuel : Nat) → OrderedReader Ordered
  | 0 => fail .unclosedGroup
  | fuel + 1 => do
    let r ← get
    match r.rest with
    | [] => return .empty
    | c :: rest =>
      match c with
      | '(' =>
        moveTo rest
        group fuel
      | '[' =>
        if !r.inRecipe then
          match rest with
          | ':' :: inner =>
            match inner.span Char.isAlpha with
            | (_, ':' :: ']' :: _) => fail .loneClass
            | _ => pure ()
          | _ => pure ()
        moveTo rest
        bracket
      | '\\' =>
        moveTo rest
        match escape.run (← get) with
        | .ok (result, r) =>
          set r
          return result
        | .error (fault, _) =>
          set r
          fail fault
      | '.' =>
        moveTo rest
        return .any r.pointMatchesAll
      | '^' =>
        moveTo rest
        return .edge r.manner (if r.manner.manyLines then .lineStart else .textStart)
      | '$' =>
        moveTo rest
        return .edge r.manner (if r.manner.manyLines then .lineEnd else .lastLineEnd)
      | '*' | '+' | '?' => fail .nothingToRepeat
      | '\x7b' =>
        if (← bounds?).isSome then
          set r
          fail .nothingToRepeat
        moveTo rest
        plain c
      | c =>
        moveTo rest
        plain c

/-- The body of a group, with its end. -/
def body (start : List Char) : (fuel : Nat) → OrderedReader Ordered
  | 0 => fail .unclosedGroup
  | fuel + 1 => do
    let outer ← get
    let inner ← alternatives fuel
    if !(← accept ")") then
      if outer.inRecipe then moveTo start
      fail .unclosedGroup
    modify fun r => { r with
      manner := outer.manner, pointMatchesAll := outer.pointMatchesAll, isSpaced := outer.isSpaced }
    return inner

/-- A group that is counted, and may have a name. -/
def counted (start : List Char) (name? : Option (List Char)) : (fuel : Nat) → OrderedReader Ordered
  | 0 => fail .unclosedGroup
  | fuel + 1 => do
    let r ← get
    let number := r.groups + 1
    let names := match name? with
      | some name => (String.ofList name, number) :: r.names
      | none => r.names
    if let some name := name? then
      if (r.names.lookup (String.ofList name)).isSome then fail (.sameName (String.ofList name))
    set { r with groups := number, names }
    return .group number (← body start fuel)

/-- A group whose opening bracket has been read. -/
def group : (fuel : Nat) → OrderedReader Ordered
  | 0 => fail .unclosedGroup
  | fuel + 1 => do
    let start := '(' :: (← get).rest
    let behind (wanted : Bool) : OrderedReader Ordered := do
      let inner ← body start fuel
      let isFixed := if (← get).inRecipe then inner.width?.isSome
        else inner.alternatives.all fun r => r.width?.isSome
      if !isFixed then fail .variableBehind
      return .look true wanted inner
    if ← accept "?:" then return ← body start fuel
    if ← accept "?|" then return ← body start fuel
    if ← accept "?=" then return .look false true (← body start fuel)
    if ← accept "?!" then return .look false false (← body start fuel)
    if ← accept "?<=" then return ← behind true
    if ← accept "?<!" then return ← behind false
    if ← accept "?>" then return .once (← body start fuel)
    if ← accept "?#" then
      match enclosed? ')' (← get).rest with
      | some (_, rest) =>
        moveTo rest
        return .empty
      | none => fail .unclosedComment
    if ← accept "?P=" then
      match enclosed? ')' (← get).rest with
      | some (name, rest) =>
        moveTo rest
        return ← namedReference name
      | none => fail .openName
    if ← accept "?P<" then
      let name ← groupName '>'
      return ← counted start (some name) fuel
    if !(← get).inRecipe then
      if ← accept "?<" then
        let name ← groupName '>'
        return ← counted start (some name) fuel
      if ← accept "?'" then
        let name ← groupName '\''
        return ← counted start (some name) fuel
      if (← get).rest.head? = some '*' then
        match enclosed? ')' (← get).rest with
        | some (_, rest) =>
          moveTo rest
          return .empty
        | none => pure ()
    if ← accept "?(" then
      match enclosed? ')' (← get).rest with
      | some (name, rest) =>
        moveTo rest
        let r ← get
        let number? := match Octets.nat? name with
          | some n => some n
          | none => r.names.lookup (String.ofList name)
        match number? with
        | some number =>
          modify fun r => { r with wanted := number :: r.wanted }
          match ← body start fuel with
          | .choice yes no => return .depending number yes no
          | yes => return .depending number yes .empty
        | none => fail (.unknownGroup 0)
      | none => fail .unclosedGroup
    if ← accept "?" then
      let r ← get
      let (on, rest) := r.rest.span Char.isAlpha
      let (off, rest) := match rest with
        | '-' :: rest => rest.span Char.isAlpha
        | rest => ([], rest)
      if !(on ++ off).all "imsxuaLnJU".toList.contains then fail .unknownSign
      let changed := withFlags false off (withFlags true on r)
      match rest with
      | ')' :: rest =>
        if r.inRecipe ∧ start.length ≠ r.rest.length + 2 then fail .lateFlags
        set { changed with rest }
        return .empty
      | ':' :: rest =>
        set { changed with rest }
        let inner ← body start fuel
        modify fun after => { after with
          manner := r.manner, pointMatchesAll := r.pointMatchesAll, isSpaced := r.isSpaced }
        return inner
      | [] => fail .unclosedGroup
      | _ => fail .unknownSign
    counted start none fuel

end

/-- The whole expression. -/
def whole : OrderedReader Ordered := do
  let fuel := 4 * (← get).rest.length + 8
  let result ← alternatives fuel
  let r ← get
  if !r.rest.isEmpty then fail .unopenedGroup
  match r.wanted.find? (r.groups < ·) with
  | some number => fail (.unknownGroup number)
  | none => return result

end OrderedReader

/-- The ordered expression that a text writes, with the number of its groups and their names;
or what is wrong with the text, and where. -/
def Ordered.ofText (start : OrderedReading) (text : List Char) :
    Except (OrderedFault × Nat) (Ordered × OrderedReading) :=
  match OrderedReader.whole.run { start with rest := text } with
  | .ok (r, reading) => .ok (r, reading)
  | .error (fault, rest) => .error (fault, text.length - rest.length)

end ComponentReference.Regular
