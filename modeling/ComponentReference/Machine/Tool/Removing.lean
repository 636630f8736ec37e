import ComponentReference.Machine.Tool.Names

/-!
# Programs that remove files

They remove files and directories, and ask before they do it if that is wanted.
-/

namespace ComponentReference.Tool

/-- Complains about what was to be done with a file. -/
def complainFailed (act : String) (name : Octets) (errno : Errno) : Task Unit :=
  Task.complain (Octets.ofString act ++ ' ' :: quotedName name ++
    Octets.ofString (": " ++ errno.message))

/-- Where a path leads, and what is there. -/
def locate (path : Octets) (manner : FileSystem.Manner := {}) : Task (Except Errno Spot) := do
  let p ← read
  Task.attempt (Attempt.locate p.directory path manner)

/-- What is at the very place of a path, be it a link. -/
def findItself (path : Octets) : Task (Except Errno (Location × Entry)) :=
  Task.find path false

/-- The names in a directory, in order. -/
def childrenOf (place : Location) : Task (List Octets) := do
  let m ← get
  return ((m.files.children place).map Octets.ofString).mergeSort Octets.le

/-- The place of a name in a directory. -/
def childPlace (place : Location) (name : Octets) : Location :=
  place ++ [(Octets.toString? name).getD ""]

/-- Whether an answer to a question is yes. -/
def isAgreed (question : Octets) : Task Bool := do
  let title := (← read).title
  Task.tell (title ++ Octets.ofString ": " ++ question ++ Octets.ofString "? ")
  let p ← read
  match p.streams.lookup 0 with
  | none => return false
  | some number =>
    let upToLineEnd (s : Octets) : Nat := (s.takeWhile (· ≠ '\n')).length + 1
    let line ← Task.attempt (Attempt.read number upToLineEnd)
    return match line with
      | .ok (c :: _) => c = 'y' || c = 'Y'
      | _ => false

/-- What a kind of entry is called. -/
def kindWords (e : Entry) : String :=
  match e with
  | .directory => "directory"
  | .file [] => "regular empty file"
  | .file _ => "regular file"
  | .link _ => "symbolic link"
  | .device _ => "character special file"
  | .queue => "fifo"

/-! ## Removing -/

/-- How things are removed. -/
structure Removal where
  recursive : Bool := false
  /-- Whether directories that are empty are removed as files are. -/
  takesEmpty : Bool := false
  /-- Whether nothing is said of what is not there. -/
  forced : Bool := false
  asks : Bool := false
  tells : Bool := false

/-- What has become of something that was to be removed. -/
inductive Removed where
  | done
  | declined
  | failed
deriving DecidableEq

namespace Removal

/-- Whether something may be removed, as far as that has to be asked. -/
def isAllowed (r : Removal) (verb : String) (place : Location) (e : Entry) (name : Octets) :
    Task Bool := do
  if !r.asks then return true
  let m ← get
  let isFree := match e with
    | .link _ => true
    | _ => m.files.mayWrite place
  let kind := if verb = "descend into" then "directory" else kindWords e
  isAgreed (Octets.ofString (verb ++ " " ++ (if isFree then "" else "write-protected ") ++ kind ++ " ") ++
    quotedName name)

/-- Removes what is at a place, with nothing below it. -/
def removeOne (r : Removal) (place : Location) (isDirectory : Bool) (name : Octets) :
    Task Removed := do
  match ← Task.attempt (Attempt.remove place) with
  | .ok () =>
    if r.tells then
      Task.write (Octets.ofString (if isDirectory then "removed directory " else "removed ") ++
        quotedName name ++ ['\n'])
    return .done
  | .error errno =>
    complainFailed "cannot remove" name errno
    return .failed

/-- Removes what is at a place and all below it. -/
def removeAll (r : Removal) : (depth : Nat) → Location → Entry → Octets → Task Removed
  | 0, _, _, _ => return .failed
  | depth + 1, place, .directory, name => do
    let children ← childrenOf place
    if !children.isEmpty then
      if !(← r.isAllowed "descend into" place .directory name) then return .declined
      if !(← get).files.mayRead place then
        complainFailed "cannot remove" name .denied
        return .failed
      let outcomes ← children.mapM fun child => do
        let there := childPlace place child
        match (← get).files.get? there with
        | some e => removeAll r depth there e (below name child)
        | none => return .done
      if outcomes.contains .failed then return .failed
    if !(← r.isAllowed "remove" place .directory name) then return .declined
    if ((← get).files.children place).isEmpty then r.removeOne place true name
    else
      complainFailed "cannot remove" name .notEmpty
      return .failed
  | _, place, e, name => do
    if !(← r.isAllowed "remove" place e name) then return .declined
    r.removeOne place false name

end Removal

/-- Removes files, and directories if that is wanted. -/
def rm : Program := do
  let a ← Options.taken { letters := "dfirRvI", words :=
    [("dir", 'd'), ("force", 'f'), ("recursive", 'r'), ("verbose", 'v'), ("interactive", 'w'),
      ("one-file-system", 'x'), ("no-preserve-root", 'N'), ("preserve-root", 'P')], optional := "wP" }
  let asking : Char := match a.options.reverse.find? fun (c, _) => "fiIw".toList.contains c with
    | some ('w', value) =>
      if ["never", "no", "none"].contains (String.ofList value) then 'n'
      else if value = "once".toList then 'I' else 'i'
    | some (c, _) => c
    | none => ' '
  let r : Removal :=
    { recursive := a.has 'r' || a.has 'R', takesEmpty := a.has 'd'
      forced := a.last? "fiI" = some 'f', asks := asking == 'i', tells := a.has 'v' }
  if a.operands.isEmpty then
    if r.forced then return 0 else refuseMissing []
  if asking == 'I' && (r.recursive || decide (3 < a.operands.length)) then
    let count := a.operands.length
    let question := Octets.ofString "remove " ++ Octets.ofNat count ++
      Octets.ofString ((if count = 1 then " argument" else " arguments") ++
        if r.recursive then " recursively" else "")
    if !(← isAgreed question) then return 0
  Task.worst a.operands fun name => do
    let failed (errno : Errno) : Task Nat := do
      complainFailed "cannot remove" name errno
      return 1
    match ← findItself name with
    | .error errno =>
      if r.forced && (errno = .missing || errno = .notDirectory) then return 0
      failed errno
    | .ok ([], _) =>
      if !r.recursive then return ← failed .isDirectory
      Task.complain (Octets.ofString "it is dangerous to operate recursively on " ++ quotedName name)
      Task.complain (Octets.ofString "use --no-preserve-root to override this failsafe")
      return 1
    | .ok (place, .directory) =>
      let last := lastName name
      let isEmpty := ((← get).files.children place).isEmpty
      if !r.recursive && !(r.takesEmpty && isEmpty) then
        return ← failed (if r.takesEmpty then .notEmpty else .isDirectory)
      if last = ['.'] || last = ['.', '.'] then
        Task.complain (Octets.ofString "refusing to remove '.' or '..' directory: skipping " ++
          quotedName name)
        return 1
      match ← findItself (withoutSlashes name) with
      | .ok (_, .link _) =>
        for child in ← childrenOf place do
          modify (·.remove (childPlace place child))
        failed .notDirectory
      | _ => return if (← r.removeAll 4096 place .directory name) = .failed then 1 else 0
    | .ok (place, e) => return if (← r.removeAll 1 place e name) = .failed then 1 else 0

/-- Removes one file. -/
def unlink : Program := do
  let a ← Options.taken {}
  match a.operands with
  | [] => refuseMissing []
  | [name] =>
    let result ← match ← findItself name with
      | .ok (_, .directory) => pure (.error .isDirectory)
      | .ok (place, _) => Task.attempt (Attempt.remove place)
      | .error errno => pure (.error errno)
    match result with
    | .ok () => return 0
    | .error errno =>
      complainFailed "cannot unlink" name errno
      return 1
  | _ :: extra :: _ => refuseExtra extra

/-- Removes a directory that is empty. -/
def removeEmpty (name : Octets) : Task (Except Errno Unit) := do
  match ← findItself name with
  | .error errno => return .error errno
  | .ok (place, .directory) =>
    let last := lastName name
    match ← findItself (withoutSlashes name) with
    | .ok (_, .link _) => return .error .notDirectory
    | _ =>
      if last = ['.'] then return .error .invalid
      let m ← get
      if last = ['.', '.'] ∨ !(m.files.children place).isEmpty then return .error .notEmpty
      Task.attempt (Attempt.remove place)
  | .ok _ => return .error .notDirectory

/-- The paths of the directories in which a path lies, the nearest first. -/
def ancestors : (fuel : Nat) → Octets → List Octets
  | 0, _ => []
  | fuel + 1, path =>
    let trimmed := withoutSlashes path
    if !trimmed.contains '/' then []
    else
      let parent := withoutSlashes (trimmed.reverse.dropWhile (· ≠ '/')).reverse
      if parent.isEmpty then [] else parent :: ancestors fuel parent

/-- Removes directories that are empty. -/
def rmdir : Program := do
  let a ← Options.taken { letters := "pv", words :=
    [("parents", 'p'), ("verbose", 'v'), ("ignore-fail-on-non-empty", 'i')] }
  if a.operands.isEmpty then refuseMissing []
  let removeOne (act : String) (name : Octets) : Task Nat := do
    if a.has 'v' then
      Task.write (Octets.ofString "rmdir: removing directory, " ++ quotedName name ++ ['\n'])
    match ← removeEmpty name with
    | .ok () => return 0
    | .error errno =>
      if errno = .notEmpty && a.has 'i' then return 0
      match errno, ← Task.find name with
      | .notDirectory, .ok (_, .directory) =>
        if name.getLast? ≠ some '/' then complainFailed act name errno
        else Task.complain (Octets.ofString act ++ ' ' :: quotedName name ++
          Octets.ofString ": Symbolic link not followed")
      | _, _ => complainFailed act name errno
      return 1
  Task.worst a.operands fun name => do
    if (← removeOne "failed to remove" name) ≠ 0 then return 1
    if a.has 'p' then
      for parent in ancestors name.length name do
        if (← removeOne "failed to remove directory" parent) ≠ 0 then return 1
    return 0

end ComponentReference.Tool
