import ComponentReference.Machine.Tool.Making

/-!
# Where files go

Programs that copy, move and link files take the last operand for the target, or for the
directory that files go to.  What is there may be kept under another name.
-/

namespace ComponentReference.Tool

/-- Complains that a word of two names is true of them. -/
def complainOfBoth (before first between second after : Octets) : Task Unit :=
  Task.complain (before ++ quotedName first ++ between ++ quotedName second ++ after)

/-- The pairs of sources and targets that operands name. -/
def transfers (a : Arguments) (singleGoesHere : Bool) : Task (List (Octets × Octets)) := do
  let into (directory : Octets) (sources : List Octets) : List (Octets × Octets) :=
    sources.map fun source => (source, below directory (lastName source))
  let checked (act : String) (directory : Octets) (sources : List Octets) :
      Task (List (Octets × Octets)) := do
    match ← Task.find directory with
    | .ok (_, .directory) => return into directory sources
    | .ok _ => refused act directory .notDirectory
    | .error errno => refused act directory errno
  match a.value? 't', a.operands.getLast? with
  | _, none => refuseOperands (Octets.ofString "missing file operand")
  | some directory, some _ =>
    if a.has 'T' then
      refuseOperands (Octets.ofString
        "cannot combine --target-directory (-t) and --no-target-directory (-T)")
    checked "target directory" directory a.operands
  | none, some target =>
    match a.operands with
    | [source] =>
      if singleGoesHere && !(a.has 'T') then return [(source, below ['.'] (lastName source))]
      refuseOperands (Octets.ofString "missing destination file operand after " ++ quotedName source)
    | [source, _] =>
      if a.has 'T' then return [(source, target)]
      let isDirectory ← Task.isDirectory target
      let keepsLink := a.has 'n' && singleGoesHere && (match ← findItself target with
        | .ok (_, .link _) => true
        | _ => false)
      return if isDirectory && !keepsLink then into target [source] else [(source, target)]
    | operands =>
      if a.has 'T' then
        refuseOperands (Octets.ofString "extra operand " ++ quotedName ((operands[2]?).getD []))
      checked "target" target operands.dropLast
where
  /-- Complains about the directory that files are to go to. -/
  refused (act : String) (directory : Octets) (errno : Errno) :
      Task (List (Octets × Octets)) := do
    complainFailed act directory errno
    Task.finish 1

/-! ## Keeping what is there -/

/-- How what is in the way is kept under another name. -/
inductive Backup where
  /-- With an ending. -/
  | simple
  | numbered
  /-- With numbers where there are such names already. -/
  | existing
deriving DecidableEq

/-- Complains about the value of an option that has to be one of several, each with the
other words for it, and ends the program. -/
def refuseChoice {α : Type} (value : Octets) (about : Octets) (choices : List (List String)) :
    Task α := do
  Task.complain (Octets.ofString "invalid argument " ++ quoted value ++ Octets.ofString " for " ++
    quoted about)
  Task.tell (Octets.ofString "Valid arguments are:\n")
  for words in choices do
    Task.tell (Octets.ofString "  - " ++
      Octets.join ", ".toList (words.map fun word => quoted word.toList) ++ ['\n'])
  Task.tell (Octets.ofString "Try '" ++ (← read).title ++
    Octets.ofString " --help' for more information.\n")
  Task.finish 1

/-- The kind of backup that is wanted: the option itself, or one with the word for it. -/
def backupOf? (a : Arguments) : Task (Option Backup) := do
  match a.options.reverse.find? fun (c, _) => "b\x03".toList.contains c with
  | none => if a.has 'S' then named "existing".toList else return none
  | some ('b', _) => named (← settingOr)
  | some (_, []) => named (← settingOr)
  | some (_, value) => named value
where
  /-- The word that the environment gives. -/
  settingOr : Task Octets :=
    return (← Task.setting? "VERSION_CONTROL").getD "existing".toList
  /-- The kind that a word stands for. -/
  named (word : Octets) : Task (Option Backup) :=
    match String.ofList word with
    | "none" | "off" => return none
    | "simple" | "never" => return some .simple
    | "existing" | "nil" => return some .existing
    | "numbered" | "t" => return some .numbered
    | _ => refuseChoice word "backup type".toList
        [["none", "off"], ["simple", "never"], ["existing", "nil"], ["numbered", "t"]]

/-- The name under which a file is kept. -/
def backupName (backup : Backup) (ending target : Octets) : Task Octets := do
  let siblings ← match ← Task.find (directoryName target) with
    | .ok (place, .directory) => childrenOf place
    | _ => pure []
  let name := lastName target
  let opening := name ++ ".~".toList
  let numbers := siblings.filterMap fun sibling =>
    if opening.isPrefixOf sibling ∧ sibling.getLast? = some '~' then
      Octets.nat? ((sibling.drop opening.length).dropLast)
    else none
  let numbered := target ++ ".~".toList ++ Octets.ofNat (numbers.foldl max 0 + 1) ++ ['~']
  return match backup with
    | .simple => target ++ ending
    | .numbered => numbered
    | .existing => if numbers.isEmpty then target ++ ending else numbered

/-- The ending of the names under which files are kept. -/
def backupEnding (a : Arguments) : Task Octets := do
  let own := (← Task.setting? "SIMPLE_BACKUP_SUFFIX").getD ['~']
  return (a.value? 'S').getD own

/-- Keeps what is at a place under another name, if that is wanted; gives that name. -/
def keepAside (backup? : Option Backup) (ending : Octets) (place : Location) (target : Octets) :
    Task (Option Octets) := do
  match backup? with
  | none => return none
  | some backup =>
    let name ← backupName backup ending (withoutSlashes target)
    match Octets.toString? (lastName name) with
    | some text =>
      modify (·.move place (place.dropLast ++ [text]))
      return some name
    | none => return none

/-- The word about a name under which something is kept. -/
def keptAs : Option Octets → Octets
  | some name => Octets.ofString " (backup: " ++ quotedName name ++ [')']
  | none => []

end ComponentReference.Tool
