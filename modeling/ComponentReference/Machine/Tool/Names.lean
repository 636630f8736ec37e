import ComponentReference.Machine.Tool.Arguments

/-!
# Parts of paths

Programs that take paths apart without looking at the files, and what others need of that.
-/

namespace ComponentReference.Tool

/-- Octets without the slashes at their end. -/
def withoutSlashes (s : Octets) : Octets :=
  (s.reverse.dropWhile (· = '/')).reverse

/-- The last name of a path. -/
def lastName (path : Octets) : Octets :=
  let trimmed := withoutSlashes path
  if trimmed.isEmpty then path.take 1
  else (trimmed.reverse.takeWhile (· ≠ '/')).reverse

/-- A name without an ending, if that is not all of it. -/
def withoutEnding (name ending : Octets) : Octets :=
  if name ≠ ending ∧ ending.isSuffixOf name then name.take (name.length - ending.length)
  else name

/-- A path without its last name. -/
def directoryName (path : Octets) : Octets :=
  let trimmed := withoutSlashes path
  if trimmed.isEmpty then (if path.isEmpty then ['.'] else ['/'])
  else if !trimmed.contains '/' then ['.']
  else
    let before := withoutSlashes (trimmed.reverse.dropWhile (· ≠ '/')).reverse
    if before.isEmpty then ['/'] else before

/-- The path of a name in a directory. -/
def below (directory name : Octets) : Octets :=
  if directory.getLast? = some '/' then directory ++ name else directory ++ '/' :: name

/-- What a word ends with in the output: a line feed, or a NUL. -/
def lineEnd (a : Arguments) : Char :=
  if a.has 'z' then Char.ofNat 0 else '\n'

/-- Shows the last names of paths. -/
def basename : Program := do
  let a ← Options.taken { letters := "az", valued := "s", anywhere := false, words :=
    [("multiple", 'a'), ("suffix", 's'), ("zero", 'z')] }
  let show' (ending path : Octets) : Task Unit :=
    Task.write (withoutEnding (lastName path) ending ++ [lineEnd a])
  match a.operands with
  | [] => refuseMissing []
  | path :: rest =>
    if a.has 'a' || a.has 's' then a.operands.forM (show' ((a.value? 's').getD []))
    else
      match rest with
      | [] => show' [] path
      | [ending] => show' ending path
      | _ :: extra :: _ => refuseExtra extra
    return 0

/-- Shows paths without their last names. -/
def dirname : Program := do
  let a ← Options.taken { letters := "z", words := [("zero", 'z')] }
  if a.operands.isEmpty then refuseMissing []
  for path in a.operands do
    Task.write (directoryName path ++ [lineEnd a])
  return 0

end ComponentReference.Tool
