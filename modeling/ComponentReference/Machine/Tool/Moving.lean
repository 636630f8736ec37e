import ComponentReference.Machine.Tool.Copying

/-!
# Programs that move and link files

They give files other names, and further ones.
-/

namespace ComponentReference.Tool

/-! ## Moving -/

/-- Moves what is at a path to another one; gives the status. -/
def moveOne (c : Copying) (source target : Octets) : Task Nat := do
  match ← findItself source with
  | .error errno => Copying.failed "cannot stat" source errno
  | .ok (place, e) =>
    let bothFailed (errno : Errno) : Task Nat := do
      complainOfBoth (Octets.ofString "cannot move ") source (Octets.ofString " to ") target
        (Octets.ofString (": " ++ errno.message))
      return 1
    let isDirectory := e == .directory
    let target' := if isDirectory && withoutSlashes target ≠ [] then withoutSlashes target else target
    match ← locate target' { followLast := false } with
    | .error errno =>
      if errno = .missing then bothFailed (← Copying.missingKind e target errno)
      else Copying.failed "cannot stat" target errno
    | .ok ⟨there, existing?⟩ =>
      let m ← get
      let leadsThere := match e, ← Task.find source with
        | .link _, .ok (final, _) => final = there
        | _, _ => false
      let isSame := there = place || leadsThere || (m.files.namesOf place).contains there
      if existing?.isSome && isSame && !isDirectory && c.meeting ≠ .kept then
        complainOfBoth [] source (Octets.ofString " and ") target (Octets.ofString " are the same file")
        return 1
      if existing?.isSome && !isDirectory then
        if c.meeting = .kept then
          Task.complain (Octets.ofString "not replacing " ++ quotedName target)
          return 1
        if c.meeting = .keptUnlessOlder then
          if !(← c.isReplaced target place there) then return 0
      let last := lastName source
      if isDirectory && (last = ['.'] || last = ['.', '.']) then return ← bothFailed .inUse
      if isDirectory && place.isPrefixOf there then
        complainOfBoth (Octets.ofString "cannot move ") source
          (Octets.ofString " to a subdirectory of itself, ") target []
        return 1
      match isDirectory, existing? with
      | true, some .directory =>
        if c.backup?.isNone && !(m.files.children there).isEmpty then
          Task.complain (Octets.ofString "cannot overwrite " ++ quotedName target ++
            Octets.ofString (": " ++ Errno.notEmpty.message))
          return 1
      | true, some _ =>
        if c.backup?.isNone then
          complainOfBoth (Octets.ofString "cannot overwrite non-directory ") target
            (Octets.ofString " with directory ") source []
          return 1
      | false, some .directory =>
        Task.complain (Octets.ofString "cannot overwrite directory " ++ quotedName target ++
          Octets.ofString " with non-directory")
        return 1
      | _, _ => pure ()
      if existing?.isSome && c.meeting = .asked then
        if !(← c.isReplaced target place there) then return 1
      match ← findItself (withoutSlashes source) with
      | .ok (_, .link _) =>
        if source.getLast? = some '/' then return ← bothFailed .notDirectory
      | _ => pure ()
      let kept? ← if existing?.isSome then keepAside c.backup? c.ending there target else pure none
      match ← Task.attempt (Attempt.move place there) with
      | .error errno => bothFailed errno
      | .ok () =>
        if c.tells then
          Task.write (Octets.ofString "renamed " ++ quotedName source ++ Octets.ofString " -> " ++
            quotedName target ++ keptAs kept? ++ ['\n'])
        return 0

/-- Moves files. -/
def mv : Program := do
  let a ← Options.taken { letters := "bfinTuvZ", valued := "tS", words :=
    [("backup", '\x03'), ("context", 'Z'), ("debug", 'v'), ("force", 'f'), ("interactive", 'i'),
      ("no-clobber", 'n'), ("no-copy", 'X'), ("no-target-directory", 'T'),
      ("strip-trailing-slashes", '\x08'), ("suffix", 'S'), ("target-directory", 't'),
      ("update", 'u'), ("verbose", 'v')], optional := "u\x03" }
  let meeting ← match a.last? "nif" with
    | some 'f' => if a.has 'u' then meetingOf a else pure Meeting.replaced
    | _ => meetingOf a
  let c : Copying :=
    { tells := a.has 'v', meeting := meeting, forced := true, backup? := ← backupOf? a, ending := ← backupEnding a }
  let a := if a.has '\x08' then { a with operands := a.operands.map withoutSlashes } else a
  Task.worst (← transfers a false) fun (source, target) => moveOne c source target

/-! ## Linking -/

/-- The text that leads to a place from the directory in which another one lies. -/
def relativeText (start target : Location) : String :=
  let common := ((start.zip target).takeWhile fun (x, y) => x = y).length
  let names := List.replicate (start.length - common) ".." ++ target.drop common
  if names.isEmpty then "." else "/".intercalate names

/-- Makes a link; gives the status. -/
def linkOne (a : Arguments) (backup? : Option Backup) (ending source target : Octets) : Task Nat := do
  let symbolic := a.has 's'
  let refusedBoth (errno : Errno) : Task Nat := do
    complainOfBoth (Octets.ofString (if symbolic then "failed to create symbolic link "
      else "failed to create hard link ")) target
      (Octets.ofString (if symbolic then " -> " else " => ")) source
      (Octets.ofString (": " ++ errno.message))
    return 1
  let source? : Option (Location × Entry) ← if symbolic then pure none else
    match ← (if a.has 'L' then Task.find source else findItself source) with
    | .ok (_, .directory) =>
      Task.complain (shownName source ++ Octets.ofString ": hard link not allowed for directory")
      return 1
    | .ok (place, e) => pure (some (place, e))
    | .error errno => return ← Copying.failed "failed to access" source errno
  match ← locate target { followLast := false } with
  | .error errno =>
    if symbolic then Copying.failed "failed to create symbolic link" target errno
    else refusedBoth errno
  | .ok ⟨there, existing?⟩ =>
    let forced := a.last? "fi"
    if existing?.isSome then
      if existing? = some .directory ∧ (forced.isSome ∨ backup?.isSome) then
        Task.complain (shownName target ++ Octets.ofString ": cannot overwrite directory")
        return 1
      if let some (place, _) := source? then
        if forced.isSome && there = place then
          complainOfBoth [] source (Octets.ofString " and ") target
            (Octets.ofString " are the same file")
          return 1
      if forced = some 'i' then
        if !(← isAgreed (Octets.ofString "replace " ++ quotedName target)) then return 1
      if forced.isNone ∧ backup?.isNone then
        return ← Copying.failed (if symbolic then "failed to create symbolic link"
          else "failed to create hard link") target .present
    if source.isEmpty then return ← refusedBoth .missing
    let text : Octets ← if symbolic && a.has 'r' then
        match ← locate source {} with
        | .ok spot => pure (Octets.ofString (relativeText there.dropLast spot.location))
        | .error _ => pure source
      else pure source
    let kept? ← if existing?.isSome then keepAside backup? ending there target else pure none
    if existing?.isSome ∧ kept?.isNone then modify (·.remove there)
    let made ← Task.attempt (Attempt.make there
      (match source? with
        | some (_, e) => e
        | none => .link ((Octets.toString? text).getD "")) 0o777)
    match made with
    | .error errno =>
      if symbolic then Copying.failed "failed to create symbolic link" target errno
      else refusedBoth errno
    | .ok () =>
      if let some (place, _) := source? then
        modify fun m =>
          let files := m.files.join place there m.fresh
          { m with files, fresh := m.fresh + 1 }
      let kept := match kept? with
        | some name => quotedName name ++ Octets.ofString " ~ "
        | none => []
      if a.has 'v' then
        Task.write (kept ++ quotedName target ++
          Octets.ofString (if symbolic then " -> " else " => ") ++ quotedName text ++ ['\n'])
      return 0

/-- Makes links. -/
def ln : Program := do
  let a ← Options.taken { letters := "bdfFiLnPrsTv", valued := "tS", optional := "\x03", words :=
    [("backup", '\x03'), ("directory", 'd'), ("force", 'f'), ("interactive", 'i'), ("logical", 'L'),
      ("no-dereference", 'n'), ("physical", 'P'), ("relative", 'r'), ("suffix", 'S'),
      ("symbolic", 's'), ("target-directory", 't'), ("no-target-directory", 'T'),
      ("verbose", 'v')] }
  if a.has 'r' && !(a.has 's') then
    Task.complain (Octets.ofString "cannot do --relative without --symbolic")
    Task.finish 1
  let backup? ← backupOf? a
  let ending ← backupEnding a
  Task.worst (← transfers a true) fun (source, target) => linkOne a backup? ending source target

/-! ## Permitting -/

/-- The options, the modes and the other arguments of a call that changes modes. -/
def modeArguments : List Octets → List Octets × List Octets × List Octets
  | [] => ([], [], [])
  | ['-', '-'] :: rest => ([], [], rest)
  | argument :: rest =>
    let (options, modes, operands) := modeArguments rest
    match argument with
    | '-' :: c :: _ =>
      if "rwxXstugoa,+=01234567".toList.contains c then (options, argument :: modes, operands)
      else (argument :: options, modes, operands)
    | _ => (options, modes, argument :: operands)

/-- Says what has become of a mode, if that is wanted. -/
def tellMode (a : Arguments) (name : Octets) (before after : Mode) : Task Unit := do
  if before ≠ after ∧ (a.has 'v' ∨ a.has 'c') then
    Task.write (Octets.ofString "mode of " ++ quotedName name ++
      Octets.ofString " changed from " ++ Mode.shown before ++ Octets.ofString " to " ++
      Mode.shown after ++ ['\n'])
  else if a.has 'v' then
    Task.write (Octets.ofString "mode of " ++ quotedName name ++
      Octets.ofString " retained as " ++ Mode.shown before ++ ['\n'])

/-- A change of modes, with whether it is written among the options. -/
structure Permitting where
  change : Mode.Subject → Mode → Mode
  isOption : Bool := false

/-- Changes the mode of what is at a path, and of what is below it. -/
def changeMode (a : Arguments) (c : Permitting) : (depth : Nat) → Octets → Task Nat
  | 0, _ => return 1
  | depth + 1, name => do
    match ← Task.find name with
    | .error errno =>
      if !(a.has 'f') then
        match ← findItself name with
        | .ok _ => Task.complain (Octets.ofString "cannot operate on dangling symlink " ++ quotedName name)
        | .error _ => complainFailed "cannot access" name errno
      if a.has 'v' then
        Task.write (quotedName name ++ Octets.ofString " could not be accessed\n")
      return 1
    | .ok (place, e) =>
      let attributes := (← get).files.attributesAt place
      let before := attributes.mode
      let isDirectory := e == .directory
      let subject : Mode.Subject := { isDirectory, umask := (← read).umask }
      let after := c.change subject before
      let naive := c.change { subject with umask := 0 } before
      if !attributes.isOwn then
        if !(a.has 'f') then complainFailed "changing permissions of" name .notPermitted
        return 1
      modify fun m => { m with files := m.files.markAll place { attributes with mode := after } }
      tellMode a name before after
      let mut status := 0
      if c.isOption ∧ after &&& Mode.without naive Mode.all ≠ 0 then
        Task.complain (shownName name ++ Octets.ofString ": new permissions are " ++
          Mode.letters after ++ Octets.ofString ", not " ++ Mode.letters naive)
        status := 1
      if a.has 'R' && isDirectory then
        if !(← get).files.mayRead place then
          complainFailed "cannot read directory" name .denied
          return 1
        let below ← Task.worst (← childrenOf place) fun child => do
          match ← findItself (below name child) with
          | .ok (_, .link _) => return 0
          | _ => changeMode a c depth (below name child)
        return max status below
      return status

/-- Changes the modes of files. -/
def chmod : Program := do
  let (options, modes, operands) := modeArguments (← read).arguments
  let a ← Options.take { letters := "Rcfv", valued := "E", words :=
    [("recursive", 'R'), ("changes", 'c'), ("silent", 'f'), ("quiet", 'f'), ("verbose", 'v'),
      ("reference", 'E')] } options
  if let some name := a.value? 'E' then
    if operands.isEmpty then refuseMissing []
    match ← Task.find name with
    | .error errno =>
      complainFailed "failed to get attributes of" name errno
      return 1
    | .ok (place, _) =>
      let mode := ((← get).files.attributesAt place).mode
      return ← Task.worst operands (changeMode a { change := fun _ _ => mode } 4096)
  let isOption := !modes.isEmpty
  let (mode?, operands) : Option Octets × List Octets :=
    if isOption then (some (Octets.join [','] modes), operands)
    else (operands.head?, operands.drop 1)
  match mode? with
  | none => refuseMissing []
  | some mode =>
    if operands.isEmpty then refuseMissing [mode]
    match Mode.ofText? mode with
    | none => refuseOperands (Octets.ofString "invalid mode: " ++ quoted mode)
    | some change => Task.worst operands (changeMode a { change, isOption } 4096)

end ComponentReference.Tool
