import ComponentReference.Host.World

/-!
# Discovering components

The component files of a project are the files below its components directory
whose names have the right ending.  Links to files count as files; links to
directories are not entered.  The files are found in the order of the walk: first those
of a directory, as the directory lists them, and then those of the directories in it.
-/

namespace ComponentReference

/-- The ending of a file's name: from its last dot on, unless there are only dots
before that one. -/
def nameEnding (name : String) : String :=
  match name.toList.reverse.span (· ≠ '.') with
  | (ending, '.' :: before) =>
    if before.all (· = '.') then "" else String.ofList ('.' :: ending.reverse)
  | _ => ""

namespace FileSystem

/-- Whether a file is where the path leads. -/
def isFile (fs : FileSystem) (path : Path) : Except Fault Bool :=
  match fs.stat? [] path.text with
  | .ok (some (.file _)) => .ok true
  | .ok _ => .ok false
  | .error fault => .error fault

/-- The place of the directory at a path, if it may be looked into. -/
def openDirectory (fs : FileSystem) (path : Path) : Except Fault Location :=
  match fs.locate [] {} path.text with
  | .error fault => .error fault
  | .ok ⟨place, some .directory⟩ =>
    if fs.mayRead place then .ok place else .error (.system .denied path.text)
  | .ok ⟨_, some _⟩ => .error (.system .notDirectory path.text)
  | .ok ⟨_, none⟩ => .error (.system .missing path.text)

/-- The greatest number of names that lead from a place to anything below it. -/
def depthBelow (fs : FileSystem) (l : Location) : Nat :=
  (fs.below l).foldl (fun depth entry => max depth entry.1.length) 0

/-- The files whose names have the ending `suffix` in the directory at a path, and then
those in the directories that it holds, down to a depth.  Both come as they are listed. -/
def filesWithin (fs : FileSystem) (suffix : String) : (depth : Nat) → Path →
    Except Fault (List Path)
  | 0, _ => .ok []
  | depth + 1, path => do
    let place ← fs.openDirectory path
    let names := fs.children place
    let isInner (name : String) : Bool := fs.isDirectoryAt (place ++ [name])
    let named := names.filter fun name => !isInner name && nameEnding name = suffix
    let own ← (named.map path.child).filterM fs.isFile
    let inner ← (names.filter isInner).mapM fun name =>
      filesWithin fs suffix depth (path.child name)
    return own ++ inner.flatten

/-- The files below the directory at a path whose names have the ending `suffix`. -/
def filesBelow (fs : FileSystem) (path : Path) (suffix : String) : Except Fault (List Path) := do
  let place ← fs.openDirectory path
  fs.filesWithin suffix (fs.depthBelow place + 1) path

end FileSystem

/-- The ending of the names of component files. -/
def componentSuffix : String := ".vue"

/-- What discovers the component files below the directory of a name. -/
abbrev Finder := String → Action (List Path)

/-- The component files below the directory that `root` names. -/
def discover (env : Environment) (suffix : String) : Finder := fun root => do
  let path ← Action.look fun fs here => env.pathOf fs here root
  match ← Action.look fun fs _ => fs.stat? [] path.text with
  | none => throw (.componentsMissing root)
  | some .directory =>
    let files ← Action.look fun fs _ => fs.filesBelow path suffix
    Action.report .debug .discovery
      ("Found " ++ toString files.length ++ " " ++ suffix ++ " files under " ++ path.text)
    return files
  | some _ => throw (.componentsNotDirectory root)

end ComponentReference
