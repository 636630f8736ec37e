import ComponentReference.Host.Resolve
import ComponentReference.Machine.Recipe.Methods
import ComponentReference.Machine.Shell.Pattern
import ComponentReference.Machine.Tool.Copying

/-!
# Functions on files

What recipes can call on paths, and on the files and directories that they lead to.
-/

namespace ComponentReference.Recipe.Run

/-- Octets as text, or as octets if that is what a path was given as. -/
def likeGiven (given : Value) (s : Octets) : Value :=
  match given with
  | .octets _ => .octets s
  | _ => .str ((Octets.toString? s).getD (String.ofList s))

/-! ## Paths -/

/-- Paths put together: one that begins at the root leaves those in front of it out. -/
def pathsJoined (first : List Char) (others : List (List Char)) : List Char :=
  others.foldl (fun p q => if q.head? = some '/' ∨ p.isEmpty then q else Tool.below p q) first

/-- A path without what changes nothing in it. -/
def plainPath (path : List Char) : List Char :=
  let isAbsolute := path.head? = some '/'
  let names := (Text.split '/' path).foldl (fun (kept : List (List Char)) name =>
    if name.isEmpty ∨ name = ['.'] then kept
    else if name ≠ ['.', '.'] then kept ++ [name]
    else match kept.getLast? with
      | none => if isAbsolute then kept else [name]
      | some last => if last = ['.', '.'] then kept ++ [name] else kept.dropLast) []
  -- two slashes in front, but not three, may mean more than one
  let slashes := path.takeWhile (· = '/')
  let front := if slashes.length = 2 then slashes else slashes.take 1
  let whole := front ++ ['/'].intercalate names
  if whole.isEmpty then ['.'] else whole

/-- The path of the directory in which the recipe works. -/
def directory : Run Octets := do
  return Octets.ofString (Location.path (← act read).directory).text

/-- A path from the root. -/
def wholePath (path : Octets) : Run Octets := do
  return plainPath (pathsJoined (← directory) [path])

/-- The path that leads from one path to another. -/
def pathFrom (start path : Octets) : Run Octets := do
  let names (path : Octets) : List Octets := (Text.split '/' path).filter fun name => !name.isEmpty
  let start := names (← wholePath start)
  let target := names (← wholePath path)
  let common := ((start.zip target).takeWhile fun (x, y) => x = y).length
  let steps := List.replicate (start.length - common) ['.', '.'] ++ target.drop common
  return if steps.isEmpty then ['.'] else ['/'].intercalate steps

/-- The path in front of the last name, without the slashes between them. -/
def frontOf (path : Octets) : Octets :=
  let front := path.take (path.length - (nameOf path).length)
  if front.all (· = '/') then front else Tool.withoutSlashes front

/-! ## Directories -/

/-- The names in a directory. -/
def namesIn (path : Octets) : Run (List Octets) := do
  match ← act (Task.find path) with
  | .ok (place, .directory) => act (Tool.childrenOf place)
  | .ok _ => failOf .notDirectory path
  | .error errno => failOf errno path

/-- Whether a path leads to a directory. -/
def isDirectory (path : Octets) : Run Bool :=
  act (Task.isDirectory path)

/-- Whether a link is at a path. -/
def isLink (path : Octets) : Run Bool := do
  match ← act (Tool.findItself path) with
  | .ok (_, .link _) => return true
  | _ => return false

/-- A directory and those below it, each with the names in it: of directories, and of
other files. -/
def walk (shown : Octets → Value) (fromTop : Bool) : (depth : Nat) → Octets → Run (List Value)
  | 0, _ => return []
  | depth + 1, path => do
    if !(← isDirectory path) then return []
    let names ← namesIn path
    let directories ← names.filterM fun name => isDirectory (Tool.below path name)
    let others := names.filter (!directories.contains ·)
    let here := Value.tuple [shown path, .list (directories.map shown), .list (others.map shown)]
    let below ← directories.mapM fun name => do
      let inner := Tool.below path name
      if ← isLink inner then return [] else walk shown fromTop depth inner
    return if fromTop then here :: below.flatten else below.flatten ++ [here]

/-! ## Patterns of paths -/

/-- Whether a name of a pattern stands for more than itself. -/
def isPattern (name : Octets) : Bool :=
  name.any ['*', '?', '['].contains

/-- Whether a name matches a pattern. -/
def isNamed (pattern name : Octets) : Bool :=
  let marks : List Shell.Mark := pattern.map fun c => { octet := c, quoted := c = '\\' }
  Shell.Pattern.isMatch (Shell.Pattern.ofWord marks) name

/-- The directories below a path, the path itself first, but none that is hidden. -/
def allBelow : (depth : Nat) → Octets → Run (List Octets)
  | 0, path => return [path]
  | depth + 1, path => do
    if !(← isDirectory (if path.isEmpty then ['.'] else path)) then return [path]
    let names ← namesIn (if path.isEmpty then ['.'] else path)
    let inner ← (names.filter (·.head? ≠ some '.')).mapM fun name =>
      allBelow depth (if path.isEmpty then name else Tool.below path name)
    return path :: inner.flatten

/-- The paths that match a pattern, whose names are given; a pair of asterisks may stand
for any directories. -/
def matching (recursive : Bool) (front : Octets) : List Octets → Run (List Octets)
  | [] => return [front]
  | name :: rest => do
    let joined (name : Octets) : Octets :=
      if front.isEmpty then name else if rest.isEmpty ∧ name.isEmpty then front ++ ['/'] else Tool.below front name
    if recursive ∧ name = ['*', '*'] then
      let all ← allBelow 4096 front
      let all ← if rest.isEmpty then
          pure ((all.filter fun path => !path.isEmpty).map fun path =>
            if path = front ∧ front.getLast? ≠ some '/' then front ++ ['/'] else path)
        else all.filterM fun path => isDirectory (if path.isEmpty then ['.'] else path)
      return (← all.mapM fun path => matching recursive path rest).flatten
    if isPattern name then
      if !(← isDirectory (if front.isEmpty then ['.'] else front)) then return []
      let names ← namesIn (if front.isEmpty then ['.'] else front)
      let names := names.filter fun n =>
        (n.head? ≠ some '.' ∨ name.head? = some '.') && isNamed name n
      return (← names.mapM fun n => matching recursive (joined n) rest).flatten
    let path := joined name
    let isThere ← if rest.isEmpty && !name.isEmpty then
        pure (← act (Tool.findItself path)).toOption.isSome
      else isDirectory path
    if isThere then matching recursive path rest else return []

/-! ## Copying and moving -/

/-- Fails because the system refuses an operation on two paths. -/
def failOfBoth {α : Type} (errno : Errno) (source target : Octets) : Run α :=
  let shown (s : Octets) : Value := .str ((Octets.toString? s).getD (String.ofList s))
  raise (.fault (kindOf errno) [.int errno.number, .str errno.message, shown source, .none, shown target])

/-- What an operation on two paths gives, if the system does not refuse. -/
def orFailOfBoth {α : Type} (source target : Octets) (result : Except Errno α) : Run α :=
  match result with
  | .ok a => return a
  | .error errno => failOfBoth errno source target

/-- Makes a link at a path. -/
def makeLink (text path : Octets) : Run Unit := do
  match ← orFailOfBoth text path (← act (Tool.locate path { followLast := false })) with
  | ⟨_, some _⟩ => failOfBoth .present text path
  | ⟨there, none⟩ =>
    let entry := Entry.link ((Octets.toString? text).getD "")
    orFailOfBoth text path (← act (Task.attempt (Attempt.make there entry 0o777)))

/-- Moves what is at a path to another one. -/
def rename (source target : Octets) : Run Unit := do
  let (place, e) ← orFailOfBoth source target (← act (Tool.findItself source))
  let ⟨there, existing?⟩ ←
    orFailOfBoth source target (← act (Tool.locate target { followLast := false }))
  if there = place then return
  let isDirectory := e == .directory
  match existing? with
  | some .directory =>
    if !isDirectory then failOfBoth .isDirectory source target
    if !((← act get).files.children there).isEmpty then failOfBoth .notEmpty source target
  | some _ => if isDirectory then failOfBoth .notDirectory source target
  | none => pure ()
  if isDirectory && place.isPrefixOf there then failOfBoth .invalid source target
  orFailOfBoth source target (← act (Task.attempt (Attempt.move place there)))

/-- A path, or that of a name in the directory that it leads to. -/
def pathOrInside (source target : Octets) : Run Octets := do
  return if ← isDirectory target then Tool.below target (Tool.lastName source) else target

/-- Copies a file to a path, with its mode if that is wanted. -/
def copyFile (keepsMode keepsTime : Bool) (source target : Octets) : Run Unit := do
  let content ← orFail source (← act (Task.readFile source))
  if ← isDirectory target then failOf .isDirectory target
  orFail target (← act (Task.writeFile .write target content))
  if keepsMode then
    let (place, _) ← orFail source (← act (Task.find source))
    let (there, _) ← orFail target (← act (Task.find target))
    act (({ keepsMode, keepsTime } : Tool.Copying).keepAttributes place there)

/-- Removes a directory with all that is in it. -/
def removeTree (path : Octets) : Run Unit := do
  match ← orFail path (← act (Tool.findItself path)) with
  | (place, .directory) =>
    orFail path (← act (Task.attempt (Attempt.remove place)))
  | (_, .link _) => fail "OSError" "Cannot call rmtree on a symbolic link"
  | _ => failOf .notDirectory path

/-- Sets the mode of what a path leads to. -/
def setMode (path : Octets) (mode : Mode) : Run Unit := do
  let (place, _) ← orFail path (← act (Task.find path))
  act (modify fun m =>
    { m with files := m.files.markAll place { m.files.attributesAt place with mode } })

/-! ## The functions by name -/

/-- The functions on files and paths. -/
def fileFunctions : List String :=
  ["os.getcwd", "os.remove", "os.unlink", "os.mkdir", "os.makedirs", "os.rmdir", "os.listdir",
    "os.walk", "os.symlink", "os.rename", "os.replace", "os.readlink", "os.chmod", "os.access",
    "os.path.basename", "os.path.dirname", "os.path.join", "os.path.split", "os.path.splitext",
    "os.path.exists", "os.path.lexists", "os.path.isdir", "os.path.isfile", "os.path.islink",
    "os.path.isabs", "os.path.getsize", "os.path.abspath", "os.path.realpath", "os.path.normpath",
    "os.path.relpath", "glob.glob", "glob.iglob", "shutil.copy", "shutil.copy2",
    "shutil.copyfile", "shutil.copytree", "shutil.move", "shutil.rmtree"]

/-- What a function on files gives. -/
def onFiles (name : String) (g : Given) : Run Value := do
  let first := (g.at? 0).getD .none
  let path : Run Octets := pathOctets first
  let second : Run Octets := pathOctets ((g.at? 1).getD .none)
  let shown := likeGiven first
  let isSet (name : String) : Bool := (g.named.lookup name).any Value.isTrue
  match name with
  | "os.getcwd" => return .str ((Octets.toString? (← directory)).getD "")
  | "os.remove" | "os.unlink" => pathMethod first.text "unlink" { values := [] }
  | "os.mkdir" => pathMethod first.text "mkdir" { values := [] }
  | "os.makedirs" =>
    let path ← path
    if !isSet "exist_ok" then
      if (← act (Task.find path)).toOption.isSome then failOf .present path
    pathMethod.makeAll path
  | "os.rmdir" =>
    let path ← path
    orFail path (← act (Tool.removeEmpty path))
    return .none
  | "os.listdir" =>
    let path ← if g.values.isEmpty then pure ['.'] else path
    return .list ((← namesIn path).map shown)
  | "os.walk" =>
    let fromTop := (g.getD 1 "topdown" (.bool true)).isTrue
    return .list (← walk shown fromTop 4096 (← path))
  | "os.symlink" =>
    makeLink (← path) (← second)
    return .none
  | "os.rename" | "os.replace" =>
    rename (← path) (← second)
    return .none
  | "os.readlink" =>
    let path ← path
    match ← orFail path (← act (Tool.findItself path)) with
    | (_, .link text) => return .str text
    | _ => failOf .invalid path
  | "os.chmod" =>
    setMode (← path) (((g.at? 1 "mode").bind Value.int?).getD 0).toNat
    return .none
  | "os.access" => return .bool (← act (Task.find (← path))).toOption.isSome
  | "os.path.basename" => return shown (nameOf (← path))
  | "os.path.dirname" => return shown (frontOf (← path))
  | "os.path.split" =>
    let path ← path
    return .tuple [shown (frontOf path), shown (nameOf path)]
  | "os.path.join" =>
    return .str (String.ofList (pathsJoined (lettersOf first) ((g.values.drop 1).map lettersOf)))
  | "os.path.splitext" =>
    let s := lettersOf first
    let ending := endingOf (nameOf s)
    return .tuple [.str (String.ofList (s.take (s.length - ending.length))), .str (String.ofList ending)]
  | "os.path.exists" => return .bool (← act (Task.find (← path))).toOption.isSome
  | "os.path.lexists" => return .bool (← act (Tool.findItself (← path))).toOption.isSome
  | "os.path.isdir" => return .bool (← isDirectory (← path))
  | "os.path.isfile" => pathMethod first.text "is_file" { values := [] }
  | "os.path.islink" => return .bool (← isLink (← path))
  | "os.path.isabs" => return .bool ((← path).head? = some '/')
  | "os.path.getsize" =>
    let path ← path
    return .int (← orFail path (← act (Task.readFile path))).length
  | "os.path.abspath" => return shown (← wholePath (← path))
  | "os.path.realpath" =>
    let whole := (Octets.toString? (← wholePath (← path))).getD ""
    match (← act get).files.resolve (← act read).directory (Path.ofString whole) with
    | .ok path => return .str path.text
    | .error _ => return .str whole
  | "os.path.normpath" => return shown (plainPath (← path))
  | "os.path.relpath" =>
    let start ← match g.at? 1 "start" with
      | some v => pathOctets v
      | none => pure ['.']
    return shown (← pathFrom start (← path))
  | "glob.glob" | "glob.iglob" =>
    let path ← path
    let names := Text.split '/' path
    let (front, names) : Octets × List Octets := match names with
      | [] :: rest => (['/'], rest)
      | names => ([], names)
    return .list ((← matching (isSet "recursive") front names).map shown)
  | "shutil.copy" | "shutil.copy2" =>
    let source ← path
    let target ← pathOrInside source (← second)
    copyFile true (name = "shutil.copy2") source target
    return shown target
  | "shutil.copyfile" =>
    let target ← second
    copyFile false false (← path) target
    return shown target
  | "shutil.copytree" =>
    let source ← path
    let target ← second
    if !(← isDirectory source) then
      let _ ← orFail source (← act (Task.find source))
      failOf .notDirectory source
    if !isSet "dirs_exist_ok" then
      if (← act (Tool.findItself target)).toOption.isSome then failOf .present target
    let _ ← pathMethod.makeAll (Tool.directoryName target)
    let copying : Tool.Copying :=
      { recursive := true, keepsLinks := isSet "symlinks", keepsMode := true, keepsTime := true }
    let _ ← act (copying.copy 4096 true source target)
    return shown target
  | "shutil.move" =>
    let source ← path
    let target ← pathOrInside source (← second)
    rename source target
    return shown target
  | "shutil.rmtree" =>
    let path ← path
    if isSet "ignore_errors" && !(← isDirectory path) then return .none
    removeTree path
    return .none
  | _ => throw .unknown

end ComponentReference.Recipe.Run
