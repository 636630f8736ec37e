import ComponentReference.Machine.Recipe.Format
import ComponentReference.Machine.Tool.Moving
import ComponentReference.Text.Blank

/-!
# Methods of the values of recipes

The methods of values: of text, of lists and dictionaries, of files and of paths.
-/

namespace ComponentReference.Recipe

/-- The arguments of a call. -/
structure Given where
  values : List Value
  named : List (String × Value) := []

namespace Given

/-- An argument by its place or name. -/
def at? (g : Given) (i : Nat) (name : String := "") : Option Value :=
  g.values[i]?.or (g.named.lookup name)

/-- An argument that may be left out. -/
def getD (g : Given) (i : Nat) (name : String) (default : Value) : Value :=
  (g.at? i name).getD default

end Given

namespace Run

/-- The octets that a path has in the system. -/
def pathOctets (v : Value) : Run Octets :=
  match v with
  | .str s | .path s => return Octets.ofString s
  | .octets s => return s
  | v => fail "TypeError" ("expected str, bytes or os.PathLike object, not " ++ v.typeName)

/-- Text without the characters at its ends that are among some, or are blank. -/
def stripped (front back : Bool) (among? : Option (List Char)) (s : List Char) : List Char :=
  let isCut (c : Char) : Bool := match among? with
    | some among => among.contains c
    | none => Text.isBlank c
  let s := if front then s.dropWhile isCut else s
  if back then (s.reverse.dropWhile isCut).reverse else s

/-- The parts between blanks, at most so many cuts being made. -/
def words : (fuel : Nat) → (most? : Option Nat) → List Char → List (List Char)
  | 0, _, _ => []
  | fuel + 1, most?, s =>
    match s.dropWhile Text.isBlank with
    | [] => []
    | s =>
      if most? = some 0 then [(s.reverse.dropWhile Text.isBlank).reverse]
      else
        let (word, rest) := s.span (!Text.isBlank ·)
        word :: words fuel (most?.map (· - 1)) rest

/-- The parts between separators, at most so many cuts being made. -/
def parts (separator : List Char) : (fuel : Nat) → (most? : Option Nat) → (sofar : List Char) →
    List Char → List (List Char)
  | 0, _, sofar, s => [sofar.reverse ++ s]
  | _, _, sofar, [] => [sofar.reverse]
  | fuel + 1, most?, sofar, c :: rest =>
    if most? ≠ some 0 ∧ separator.isPrefixOf (c :: rest) then
      sofar.reverse :: parts separator fuel (most?.map (· - 1)) [] ((c :: rest).drop separator.length)
    else parts separator fuel most? (c :: sofar) rest

/-- Text in which a part has been replaced wherever it occurs. -/
def replaced (old new : List Char) (most? : Option Nat) (s : List Char) : List Char :=
  if old.isEmpty then new ++ s.flatMap fun c => c :: new
  else new.intercalate (parts old (s.length + 1) most? [] s)

/-- Where a part first occurs. -/
def find? (wanted : List Char) (s : List Char) : Option Nat :=
  (List.range (s.length + 1)).find? fun i => wanted.isPrefixOf (s.drop i)

/-- The letters of a kind of text, in which it is the same as octets. -/
def lettersOf : Value → List Char
  | .str s | .path s => s.toList
  | .octets s => s
  | _ => []

/-- A text in capital letters. -/
def capitals (s : List Char) : List Char :=
  s.flatMap fun c => if c = 'ß' then ['S', 'S'] else [Text.capital c]

/-- What a method of text or octets gives. -/
def textMethod (self : Value) (name : String) (g : Given) : Run Value := do
  let isText := match self with
    | .str _ => true
    | _ => false
  let make (s : List Char) : Value := if isText then .str (String.ofList s) else .octets s
  let s := lettersOf self
  let among? := match g.at? 0 with
    | some (.str s) => some s.toList
    | some (.octets s) => some s
    | _ => none
  let most? := ((g.at? 1 "maxsplit").bind Value.int?).bind fun n => if n < 0 then none else some n.toNat
  let width := (((g.at? 0).bind Value.int?).map Int.toNat).getD 0
  let fill := ((g.at? 1).map lettersOf).bind List.head? |>.getD ' '
  let anyOf (test : List Char → Bool) : Value :=
    match g.at? 0 with
    | some (.tuple items) => .bool (items.any fun v => test (lettersOf v))
    | some v => .bool (test (lettersOf v))
    | none => .bool false
  match name with
  | "upper" => return make (if isText then capitals s else s.map Char.toUpper)
  | "lower" | "casefold" => return make (if isText then s.map Text.small else s.map Char.toLower)
  | "capitalize" => return make (match s with
      | c :: rest => if isText then Text.capital c :: rest.map Text.small else c.toUpper :: rest.map Char.toLower
      | [] => [])
  | "strip" => return make (stripped true true among? s)
  | "lstrip" => return make (stripped true false among? s)
  | "rstrip" => return make (stripped false true among? s)
  | "startswith" => return anyOf (·.isPrefixOf s)
  | "endswith" => return anyOf (·.isSuffixOf s)
  | "isdigit" => return .bool (!s.isEmpty && s.all Char.isDigit)
  | "isalpha" => return .bool (!s.isEmpty && s.all Char.isAlpha)
  | "removeprefix" =>
    let front := among?.getD []
    return make (if front.isPrefixOf s then s.drop front.length else s)
  | "removesuffix" =>
    let ending := among?.getD []
    return make (if ending.isSuffixOf s then s.take (s.length - ending.length) else s)
  | "ljust" => return make (aligned fill '<' width s)
  | "rjust" => return make (aligned fill '>' width s)
  | "center" => return make (aligned fill '^' width s)
  | "zfill" => return make (aligned '0' '>' width s)
  | "split" =>
    match among? with
    | none => return .list ((words (s.length + 1) most? s).map make)
    | some [] => fail "ValueError" "empty separator"
    | some separator => return .list ((parts separator (s.length + 1) most? [] s).map make)
  | "rsplit" =>
    match among?, most? with
    | some separator, some 1 =>
      match (parts separator.reverse (s.length + 1) most? [] s.reverse).map List.reverse with
      | [last, front] => return .list [make front, make last]
      | _ => return .list [self]
    | _, _ => textMethodSplit make s among?
  | "partition" =>
    match parts (among?.getD []) (s.length + 1) (some 1) [] s with
    | [front, rest] => return .tuple [make front, make (among?.getD []), make rest]
    | _ => return .tuple [self, make [], make []]
  | "splitlines" =>
    let plain := if isText then Text.unifyBreaks s else s
    return .list ((Octets.lines plain).map fun line => make (Octets.chomp line))
  | "replace" =>
    let new := ((g.at? 1).map lettersOf).getD []
    let most? := ((g.at? 2).bind Value.int?).map Int.toNat
    return make (replaced (among?.getD []) new most? s)
  | "count" =>
    let wanted := among?.getD []
    return .int ((parts wanted (s.length + 1) none [] s).length - 1)
  | "find" => return .int (((find? (among?.getD []) s).map Int.ofNat).getD (-1))
  | "index" =>
    match find? (among?.getD []) s with
    | some i => return .int i
    | none => fail "ValueError" "substring not found"
  | "join" =>
    match g.at? 0 with
    | some v =>
      let items ← itemsOf v
      match items.zipIdx.find? fun (v, _) => v.typeName ≠ self.typeName with
      | some (v, i) => fail "TypeError" ("sequence item " ++ toString i ++ ": expected " ++
          self.typeName ++ " instance, " ++ v.typeName ++ " found")
      | none => return make (s.intercalate (items.map lettersOf))
    | none => fail "TypeError" "str.join() takes exactly one argument (0 given)"
  | "encode" => return .octets (Octets.ofString self.text)
  | "decode" =>
    match Octets.toString? s with
    | some text => return .str text
    | none => return .str (String.ofList s)
  | "hex" => return .str (String.ofList (s.flatMap fun c => Text.hex 2 c.toNat))
  | "format" =>
    return make (← fieldsFilled g.values g.named (s.length + 1) 0 s)
  | _ => fail "AttributeError" ("'" ++ self.typeName ++ "' object has no attribute '" ++ name ++ "'")
where
  /-- The parts of text between separators or blanks. -/
  textMethodSplit (make : List Char → Value) (s : List Char) (among? : Option (List Char)) :
      Run Value :=
    match among? with
    | none => return .list ((words (s.length + 1) none s).map make)
    | some separator => return .list ((parts separator (s.length + 1) none [] s).map make)

/-- Items in order. -/
def ordered (items : List Value) (descending : Bool) : Run (List Value) := do
  let insertInto (sorted : List Value) (v : Value) : Run (List Value) := do
    let rec go : List Value → Run (List Value)
      | [] => return [v]
      | w :: rest => do
        let goesHere ← if descending then isLess "<" w v else isLess "<" v w
        if goesHere then return v :: w :: rest else return w :: (← go rest)
    go sorted
  items.foldlM insertInto []

/-- What a method of a list or a dictionary gives, and what has become of it. -/
def collectionMethod (self : Value) (name : String) (g : Given) : Run (Value × Value) := do
  let first := (g.at? 0).getD .none
  match self, name with
  | .list items, "append" => return (.none, .list (items ++ [first]))
  | .list items, "extend" => return (.none, .list (items ++ (← itemsOf first)))
  | .list items, "insert" =>
    let i := (first.int?.getD 0).toNat
    return (.none, .list (items.take i ++ (g.at? 1).toList ++ items.drop i))
  | .list items, "pop" =>
    let i ← position items.length ((g.at? 0).bind Value.int? |>.getD (-1)) "pop"
    return (items.getD i .none, .list (items.eraseIdx i))
  | .list items, "sort" =>
    return (.none, .list (← ordered items (g.getD 9 "reverse" .none).isTrue))
  | .list items, "reverse" => return (.none, .list items.reverse)
  | .list _, "clear" => return (.none, .list [])
  | .list items, "remove" =>
    match items.findIdx? (·.eq first) with
    | some i => return (.none, .list (items.eraseIdx i))
    | none => fail "ValueError" "list.remove(x): x not in list"
  | .list items, "copy" => return (.list items, self)
  | .list items, "index" | .tuple items, "index" =>
    match items.findIdx? (·.eq first) with
    | some i => return (.int i, self)
    | none => fail "ValueError" (first.display ++ " is not in list")
  | .list items, "count" | .tuple items, "count" => return (.int (items.countP (·.eq first)), self)
  | .dict fields, "get" =>
    let found := fields.find? fun (k, _) => k.eq first
    return ((found.map Prod.snd).getD ((g.at? 1).getD .none), self)
  | .dict fields, "keys" => return (.list (fields.map Prod.fst), self)
  | .dict fields, "values" => return (.list (fields.map Prod.snd), self)
  | .dict fields, "items" => return (.list (fields.map fun (k, v) => .tuple [k, v]), self)
  | .dict fields, "copy" => return (.dict fields, self)
  | .dict fields, "pop" =>
    match fields.find? fun (k, _) => k.eq first, g.at? 1 with
    | some (_, v), _ => return (v, .dict (fields.filter fun (k, _) => !k.eq first))
    | none, some v => return (v, self)
    | none, none => raise (.fault "KeyError" [first])
  | .dict fields, "setdefault" =>
    match fields.find? fun (k, _) => k.eq first with
    | some (_, v) => return (v, self)
    | none =>
      let v := (g.at? 1).getD .none
      return (v, .dict (fields ++ [(first, v)]))
  | .dict fields, "update" =>
    let more := match first with
      | .dict more => more
      | _ => []
    let more := more ++ g.named.map fun (k, v) => (.str k, v)
    return (.none, ← more.foldlM (fun (v : Value) (k, x) => withItem v k x) (.dict fields))
  | _, _ => fail "AttributeError" ("'" ++ self.typeName ++ "' object has no attribute '" ++ name ++ "'")

/-! ## Files -/

/-- Opens a file. -/
def openText (name : Value) (mode : String) : Run Value := do
  let path ← pathOctets name
  let has (c : Char) : Bool := mode.toList.contains c
  let isText := !has 'b'
  let rest ← if has 'w' then
      orFail path (← act (Task.writeFile .write path []))
      pure []
    else if has 'a' then
      orFail path (← act (Task.writeFile .append path []))
      pure []
    else do
      if has 'x' then
        if (← act (Task.find path)).toOption.isSome then failOf .present path
        orFail path (← act (Task.writeFile .write path []))
        pure []
      else
        if ← act (Task.isDirectory path) then failOf .isDirectory path
        orFail path (← act (Task.readFile path))
  let m ← get
  let n := m.files.length
  let file : OpenText := { name := path, isText, rest }
  set { m with files := m.files ++ [(n, file)] }
  return .file n

/-- What is given to be written, and how long it counts as. -/
def writable (isText : Bool) (v : Value) : Run (Octets × Nat) :=
  match isText, v with
  | true, .str s => return (Octets.ofString s, s.length)
  | false, .octets s => return (s, s.length)
  | true, v => fail "TypeError" ("write() argument must be str, not " ++ v.typeName)
  | false, v => fail "TypeError" ("a bytes-like object is required, not '" ++ v.typeName ++ "'")

/-- What a method of a stream gives. -/
def streamMethod (n : Nat) (isText : Bool) (name : String) (g : Given) : Run Value := do
  let content : Run Value := do
    let s ← act Task.input
    if isText then return .str (← decoded s) else return .octets s
  match name with
  | "write" =>
    let (s, count) ← writable isText ((g.at? 0).getD .none)
    put n s
    return .int count
  | "writelines" =>
    for v in ← itemsOf ((g.at? 0).getD .none) do
      put n (← writable isText v).1
    return .none
  | "flush" =>
    if n = 1 then flush
    return .none
  | "read" => content
  | "readlines" => return .list (← itemsOf (.stream n isText))
  | "readline" =>
    return ((← itemsOf (.stream n isText)).head?).getD (.str "")
  | "isatty" => return .bool false
  | "fileno" => return .int n
  | "reconfigure" | "close" => return .none
  | _ => fail "AttributeError" ("'_io.TextIOWrapper' object has no attribute '" ++ name ++ "'")

/-- What a method of an open file gives. -/
def fileMethod (n : Nat) (name : String) (g : Given) : Run Value := do
  let m ← get
  match m.files.lookup n with
  | none => return .none
  | some file =>
    match name with
    | "read" =>
      let count? := ((g.at? 0).bind Value.int?).bind fun k => if k < 0 then none else some k.toNat
      if file.isText then
        let text := (← decoded file.rest).toList
        let taken := (count?.map text.take).getD text
        let rest := Octets.ofString (String.ofList (text.drop taken.length))
        set { m with files := Keyed.put Prod.fst (n, { file with rest }) m.files }
        return .str (String.ofList taken)
      let taken := (count?.map file.rest.take).getD file.rest
      set { m with files := Keyed.put Prod.fst (n, { file with rest := file.rest.drop taken.length }) m.files }
      return .octets taken
    | "readline" =>
      match Octets.lines file.rest with
      | [] => return if file.isText then .str "" else .octets []
      | line :: _ =>
        set { m with files := Keyed.put Prod.fst (n, { file with rest := file.rest.drop line.length }) m.files }
        if file.isText then return .str (← decoded line) else return .octets line
    | "readlines" => return .list (← itemsOf (.file n))
    | "write" =>
      let (s, count) ← writable file.isText ((g.at? 0).getD .none)
      orFail file.name (← act (Task.writeFile .append file.name s))
      return .int count
    | "writelines" =>
      for v in ← itemsOf ((g.at? 0).getD .none) do
        orFail file.name (← act (Task.writeFile .append file.name (← writable file.isText v).1))
      return .none
    | "close" | "flush" => return .none
    | _ => fail "AttributeError" ("'_io.TextIOWrapper' object has no attribute '" ++ name ++ "'")

/-- The ending of a name, with its point. -/
def endingOf (name : List Char) : List Char :=
  let (reversed, before) := name.reverse.span (· ≠ '.')
  match before with
  | _ :: front => if front.all (· = '.') ∨ reversed.isEmpty then [] else '.' :: reversed.reverse
  | [] => []

/-- The name at the end of a path. -/
def nameOf (path : List Char) : List Char :=
  (path.reverse.takeWhile (· ≠ '/')).reverse

/-- What a method of a path gives. -/
def pathMethod (path : String) (name : String) (g : Given) : Run Value := do
  let octets := Octets.ofString path
  match name with
  | "read_text" => do
    return .str (← decoded (← orFail octets (← act (Task.readFile octets))))
  | "read_bytes" => return .octets (← orFail octets (← act (Task.readFile octets)))
  | "write_text" | "write_bytes" =>
    let (s, count) ← writable (name = "write_text") ((g.at? 0).getD .none)
    orFail octets (← act (Task.writeFile .write octets s))
    return .int count
  | "exists" => return .bool (← act (Task.find octets)).toOption.isSome
  | "is_dir" => return .bool (← act (Task.isDirectory octets))
  | "is_file" => return .bool (match ← act (Task.find octets) with
      | .ok (_, .file _) => true
      | _ => false)
  | "unlink" => removeFile octets
  | "mkdir" =>
    if (g.named.lookup "parents").any Value.isTrue then makeAll octets
    else
      match ← act (Tool.makeOrdinaryDirectory octets) with
      | .error .present =>
        if (g.named.lookup "exist_ok").any Value.isTrue then return .none
        else failOf .present octets
      | result =>
        orFail octets result
        return .none
  | "touch" =>
    orFail octets (← act (Task.writeFile .append octets []))
    return .none
  | "as_posix" => return .str path
  | "with_suffix" =>
    let ending := endingOf (nameOf path.toList)
    return .path (String.ofList (path.toList.take (path.length - ending.length) ++
      ((g.at? 0).map lettersOf).getD []))
  | "joinpath" =>
    return .path (String.ofList (g.values.foldl (fun p v => Tool.below p (lettersOf v)) path.toList))
  | _ => fail "AttributeError" ("'PosixPath' object has no attribute '" ++ name ++ "'")
where
  /-- Removes a file. -/
  removeFile (octets : Octets) : Run Value := do
    match ← act (Tool.findItself octets) with
    | .ok (_, .directory) => failOf .isDirectory octets
    | .ok (place, _) =>
      act (modify (·.remove place))
      return .none
    | .error errno => failOf errno octets
  /-- Makes a directory with those in which it lies. -/
  makeAll (octets : Octets) : Run Value := do
    for parent in (Tool.ancestors octets.length octets).reverse do
      let _ ← act (Tool.makeOrdinaryDirectory parent)
    match ← act (Tool.makeOrdinaryDirectory octets) with
    | .ok () | .error .present => return .none
    | .error errno => failOf errno octets

end Run

end ComponentReference.Recipe
