import ComponentReference.Machine.Tool.Transferring

/-!
# Programs that copy files

They copy files, and directories with all that is in them, and may keep the modes and
the times, or set the modes.
-/

namespace ComponentReference.Tool

/-- What becomes of something that is already where a copy goes. -/
inductive Meeting where
  | replaced
  | asked
  | kept
  /-- It is kept if it is not older. -/
  | keptUnlessOlder
deriving DecidableEq

/-- How files are copied. -/
structure Copying where
  recursive : Bool := false
  /-- Whether links are copied as such. -/
  keepsLinks : Bool := false
  tells : Bool := false
  meeting : Meeting := .replaced
  /-- Whether a file that cannot be written is removed first. -/
  forced : Bool := false
  /-- Whether what is there is always removed first. -/
  removesFirst : Bool := false
  keepsMode : Bool := false
  keepsTime : Bool := false
  /-- Whether new files get no mode but the ordinary one. -/
  dropsMode : Bool := false
  /-- Whether nothing is copied but what is noted of files. -/
  leavesContent : Bool := false
  /-- Whether links are made instead of copies: hard ones or symbolic ones. -/
  links? : Option Bool := none
  backup? : Option Backup := none
  ending : Octets := ['~']
  /-- The mode that copies get. -/
  mode? : Option Mode := none

namespace Copying

/-- Says what has been copied. -/
def tell (c : Copying) (source target : Octets) (kept? : Option Octets := none) : Task Unit := do
  if c.tells then
    Task.write (quotedName source ++ Octets.ofString " -> " ++ quotedName target ++ keptAs kept? ++ ['\n'])

/-- Complains, and gives the status. -/
def failed (act : String) (name : Octets) (errno : Errno) : Task Nat := do
  complainFailed act name errno
  return 1

/-- Notes for a copy what is noted of its source. -/
def keepAttributes (c : Copying) (place there : Location) : Task Unit :=
  modify fun m =>
    let source := m.files.attributesAt place
    let a := m.files.attributesAt there
    let a := match c.mode?, c.keepsMode with
      | some mode, _ => { a with mode }
      | none, true => { a with mode := source.mode }
      | none, false => a
    let a := if c.keepsTime then { a with changed := source.changed } else a
    { m with files := m.files.markAll there a }

/-- Copies what is in a directory into another one. -/
def contents (recurse : Octets → Octets → Task Nat) (isTop : Bool) (source target : Octets)
    (names : List Octets) (place there : Location) : Task Nat := do
  let isInside := place.isPrefixOf there
  let status ← Task.worst names fun name => do
    let text := (Octets.toString? name).getD ""
    if isInside && (place ++ [text]).isPrefixOf there then return 0
    recurse (below (withoutSlashes source) name) (below target name)
  if isInside && isTop then
    complainOfBoth (Octets.ofString "cannot copy a directory, ") source
      (Octets.ofString ", into itself, ") target []
    return 1
  return status

/-- Makes a link where a copy would go. -/
def link (c : Copying) (symbolic : Bool) (source target : Octets) (place : Location) (e : Entry)
    (there : Location) : Task Nat := do
  if symbolic then
    if source.head? ≠ some '/' ∧ target.contains '/' ∧ directoryName target ≠ ['.'] then
      Task.complain (shownName target ++
        Octets.ofString ": can make relative symbolic links only in current directory")
      return 1
    c.tell source target
    let entry := Entry.link ((Octets.toString? source).getD "")
    match ← Task.attempt (Attempt.make there entry 0o777) with
    | .ok () => return 0
    | .error errno => failed "cannot create symbolic link" target errno
  else
    c.tell source target
    match ← Task.attempt (Attempt.make there e 0o777) with
    | .ok () =>
      modify fun m => { m with files := m.files.join place there m.fresh, fresh := m.fresh + 1 }
      return 0
    | .error errno => failed "cannot create hard link" target errno

/-- Copies what is at a place to one where nothing is. -/
def toFree (c : Copying) (recurse : Octets → Octets → Task Nat) (isTop : Bool)
    (source target : Octets) (kept? : Option Octets) (place : Location) (e : Entry)
    (there : Location) : Task Nat := do
  let m ← get
  let umask := (← read).umask
  let attributes := m.files.attributesAt place
  let mode := match c.mode? with
    | some mode => mode
    | none => Mode.without umask (attributes.mode &&& 0o777)
  match e, c.links? with
  | .directory, _ =>
    -- what is copied is what was there before
    let children ← childrenOf place
    c.tell source target kept?
    match ← Task.attempt (Attempt.make there .directory (mode ||| 0o700)) with
    | .error errno => failed "cannot create directory" target errno
    | .ok () =>
      let status ← if m.files.mayRead place then
          contents recurse isTop source target children place there
        else failed "cannot access" source .denied
      modify fun m =>
        { m with files := m.files.mark there { m.files.attributesAt there with mode } }
      c.keepAttributes place there
      return status
  | e, some symbolic => c.link symbolic source target place e there
  | .link text, none =>
    c.tell source target kept?
    match ← Task.attempt (Attempt.make there (.link text) 0o777) with
    | .ok () => return 0
    | .error errno => failed "cannot create symbolic link" target errno
  | .queue, none =>
    c.tell source target kept?
    match ← Task.attempt (Attempt.make there .queue mode) with
    | .ok () =>
      c.keepAttributes place there
      return 0
    | .error errno => failed "cannot create fifo" target errno
  | e, none =>
    let content := e.content
    c.tell source target kept?
    if e matches .device _ && c.recursive then
      return ← failed "cannot create special file" target .notPermitted
    if !c.leavesContent && !m.files.mayRead place then
      Task.complain (Octets.ofString "cannot open " ++ quotedName source ++
        Octets.ofString (" for reading: " ++ Errno.denied.message))
      return 1
    let mode := if c.dropsMode then Mode.without umask 0o666 else mode
    match ← Task.attempt (Attempt.make there (.file (if c.leavesContent then [] else content)) mode) with
    | .ok () =>
      c.keepAttributes place there
      return 0
    | .error errno => failed "cannot create regular file" target errno

/-- Whether what is at a place may be replaced, as far as that has to be asked. -/
def isReplaced (c : Copying) (target : Octets) (place there : Location) : Task Bool := do
  let m ← get
  match c.meeting with
  | .replaced | .kept => return true
  | .keptUnlessOlder =>
    return (m.files.attributesAt there).changed < (m.files.attributesAt place).changed
  | .asked =>
    let a := m.files.attributesAt there
    let mode := List.replicate (4 - (Mode.digits a.mode).length) '0' ++ Mode.digits a.mode
    if m.files.mayWrite there then isAgreed (Octets.ofString "overwrite " ++ quotedName target)
    else if c.forced then
      isAgreed (Octets.ofString "replace " ++ quotedName target ++
        Octets.ofString ", overriding mode " ++ mode ++ Octets.ofString " (" ++
        Mode.letters a.mode ++ [')'])
    else
      isAgreed (Octets.ofString "unwritable " ++ quotedName target ++
        Octets.ofString " (mode " ++ mode ++ Octets.ofString ", " ++ Mode.letters a.mode ++
        Octets.ofString "); try anyway")

/-- Removes what a copy replaces. -/
def clear (c : Copying) (target : Octets) (link : Location) : Task Bool := do
  match ← Task.attempt (Attempt.remove link) with
  | .ok () =>
    if c.tells then Task.write (Octets.ofString "removed " ++ quotedName target ++ ['\n'])
    return true
  | .error errno =>
    complainFailed "cannot remove" target errno
    return false

/-- Copies what is at a place to a path that leads to something. -/
def toTaken (c : Copying) (recurse : Octets → Octets → Task Nat) (isTop : Bool)
    (source target : Octets) (place : Location) (e : Entry) (link there : Location)
    (existing : Entry) : Task Nat := do
  let m ← get
  let isSame := there = place || (m.files.namesOf place).contains there
  if isSame && !(c.backup?.isSome && c.forced) && !(e == .directory) then
    if c.meeting = .kept then return 0
    if c.links? = some false then return 0
    complainOfBoth [] source (Octets.ofString " and ") target (Octets.ofString " are the same file")
    return 1
  if isSame && e == .directory then
    if c.meeting = .kept then return 0
    if there = place && link = there && isTop then
      complainOfBoth [] source (Octets.ofString " and ") target (Octets.ofString " are the same file")
      return 1
  if e ≠ .directory then
    if c.meeting = .kept then return 0
    if c.meeting ≠ .asked then
      if !(← c.isReplaced target place there) then return 0
  match e, existing with
  | .directory, .directory =>
    let status ← contents recurse isTop source target (← childrenOf place) place there
    c.keepAttributes place there
    return status
  | .directory, _ =>
    if c.meeting = .kept then return 0
    match ← aside target link with
    | some kept => c.toFree recurse isTop source target (some kept) place e link
    | none =>
      complainOfBoth (Octets.ofString "cannot overwrite non-directory ") target
        (Octets.ofString " with directory ") source []
      return 1
  | _, .directory =>
    Task.complain (Octets.ofString "cannot overwrite directory " ++ quotedName target ++
      Octets.ofString " with non-directory")
    return 1
  | .file _, .file _ | .device _, .file _ | .file _, .device _ | .device _, .device _ =>
    let content := e.content
    if c.meeting = .asked then
      if !(← c.isReplaced target place there) then return 1
    if c.links?.isSome && !c.forced && !c.removesFirst && c.backup?.isNone then
      if c.links? = some true then return ← failed "cannot create symbolic link" target .present
      Task.complain (Octets.ofString "cannot create hard link " ++ quotedName target ++
        Octets.ofString " to " ++ quotedName source ++ Octets.ofString (": " ++ Errno.present.message))
      return 1
    match ← aside target link with
    | some kept =>
      let place := if there = place then link.dropLast ++ [(Octets.toString? (lastName kept)).getD ""]
        else place
      c.toFree recurse isTop source target (some kept) place e link
    | none =>
      let isBarred := !m.files.mayWrite there
      if c.removesFirst || c.links?.isSome || (isBarred && c.forced) then
        if !c.removesFirst && c.tells then c.tell source target
        if !(← c.clear target link) then return 1
        { c with tells := c.tells && (c.removesFirst || c.links?.isSome) }.toFree recurse isTop source target none
          place e link
      else
        c.tell source target
        if isBarred then return ← failed "cannot create regular file" target .denied
        if !m.files.mayRead place then
          Task.complain (Octets.ofString "cannot open " ++ quotedName source ++
            Octets.ofString (" for reading: " ++ Errno.denied.message))
          return 1
        if existing = .device .full && !content.isEmpty then
          return ← failed "error writing" target .noSpace
        if !c.leavesContent && existing matches .file _ then
          modify fun m => { m with files := m.files.fill there content }
        c.keepAttributes place there
        return 0
  | _, _ =>
    if c.meeting = .asked then
      if !(← c.isReplaced target place there) then return 1
    let kept? ← aside target link
    if kept?.isNone then modify (·.remove link)
    c.toFree recurse isTop source target kept? place e link
where
  /-- Keeps what is at a place under another name, if that is wanted. -/
  aside (target : Octets) (link : Location) : Task (Option Octets) :=
    keepAside c.backup? c.ending link target

/-- What a target is taken for that ends in a slash and is not there. -/
def missingKind (e : Entry) (target : Octets) (errno : Errno) : Task Errno := do
  let isFile := e ≠ .directory ∧ target.getLast? = some '/'
  if !isFile then return errno
  return if ← Task.isDirectory (directoryName target) then .notDirectory else errno

/-- Copies what is at a path to another one, given how to do that with what is in a
directory; gives the status. -/
def copyWith (c : Copying) (recurse : Octets → Octets → Task Nat) (isTop : Bool)
    (source target : Octets) : Task Nat := do
  match ← Task.find source (!c.keepsLinks) with
  | .error errno => failed "cannot stat" source errno
  | .ok (place, e) =>
    if e = .directory && !c.recursive then
      Task.complain (Octets.ofString (if c.mode?.isSome then "omitting directory "
        else "-r not specified; omitting directory ") ++ quotedName source)
      return 1
    let path := if e = .directory && withoutSlashes target ≠ [] then withoutSlashes target else target
    match ← locate path { followLast := false } with
    | .error .missing =>
      let kind := match e with
        | .directory => "cannot create directory"
        | .link _ => "cannot create symbolic link"
        | _ => "cannot create regular file"
      failed kind target (← missingKind e target .missing)
    | .error errno => failed "cannot stat" target errno
    | .ok ⟨link, none⟩ => c.toFree recurse isTop source target none place e link
    | .ok ⟨link, some itself⟩ =>
      match ← Task.find path, e with
      | .ok (there, existing), e =>
        let replacesLink := itself ≠ existing && (c.removesFirst || c.mode?.isSome) && e ≠ .directory &&
          existing ≠ .directory
        if replacesLink then
          if !(← c.clear target link) then return 1
          c.toFree recurse isTop source target none place e link
        else c.toTaken recurse isTop source target place e link there existing
      | .error _, .file _ | .error _, .device _ =>
        if c.removesFirst || c.mode?.isSome then
          if !(← c.clear target link) then return 1
          return ← c.toFree recurse isTop source target none place e link
        Task.complain (Octets.ofString "not writing through dangling symlink " ++ quotedName target)
        return 1
      | .error _, e =>
        modify (·.remove link)
        c.toFree recurse isTop source target none place e link

/-- Copies what is at a path to another one; gives the status. -/
def copy (c : Copying) : (depth : Nat) → (isTop : Bool) → Octets → Octets → Task Nat
  | 0, _, _, _ => return 1
  | depth + 1, isTop, source, target => c.copyWith (copy c depth false) isTop source target

/-- Copies what the pairs name, none of them over what has just been made. -/
def copyAll (c : Copying) (pairs : List (Octets × Octets)) : Task Nat := do
  let (status, _) ← pairs.foldlM (fun (status, done) (source, target) => do
    if done.contains target ∧ c.backup? ≠ some .numbered then
      let isSame := (pairs.filter (· = (source, target))).length > 1
      if isSame then
        Task.complain (Octets.ofString "warning: source file " ++ quotedName source ++
          Octets.ofString " specified more than once")
        return (status, done)
      complainOfBoth (Octets.ofString "will not overwrite just-created ") target
        (Octets.ofString " with ") source []
      return (1, done)
    let result ← c.copy 4096 true source target
    return (max status result, target :: done)) ((0, []) : Nat × List Octets)
  return status

end Copying

/-- The parts of what is noted of files that an option's value names. -/
def attributeParts (text : Octets) : Task (List Octets) := do
  let parts := Text.split ',' text
  for part in parts do
    if !(["mode", "timestamps", "ownership", "links", "context", "xattr", "all"].any (·.toList = part)) then
      refuseChoice part "--preserve".toList
        [["mode"], ["timestamps"], ["ownership"], ["links"], ["context"], ["xattr"], ["all"]]
  return parts

/-- What an option says about files that are already there. -/
def meetingOf (a : Arguments) : Task Meeting := do
  match a.options.reverse.find? fun (c, _) => "nifu".toList.contains c with
  | some ('n', _) => return .kept
  | some ('i', _) => return .asked
  | some ('u', value) =>
    match String.ofList value with
    | "" | "older" => return .keptUnlessOlder
    | "all" => return .replaced
    | "none" => return .kept
    | _ => refuseChoice value "--update".toList [["all"], ["none"], ["older"]]
  | _ => return .replaced

/-- Makes the directories that a path lies in below another one, as the directories are
which it names; gives the status. -/
def makeParents (tells : Bool) (base path : Octets) : Task Nat := do
  Task.worst (ancestors path.length path).reverse fun parent => do
    let target := below base parent
    if ← Task.isDirectory target then return 0
    match ← Task.find parent, ← makeDirectory target 0o755 with
    | .ok (place, _), .ok () =>
      if tells then
        Task.write (parent ++ Octets.ofString " -> " ++ target ++ ['\n'])
      match ← Task.find target with
      | .ok (there, _) =>
        modify fun m =>
          let mode := (m.files.attributesAt place).mode
          { m with files := m.files.mark there { m.files.attributesAt there with mode } }
      | .error _ => pure ()
      return 0
    | .error errno, _ =>
      complainFailed "failed to get attributes of" parent errno
      return 1
    | _, .error errno =>
      complainFailed "cannot make directory" target errno
      return 1

/-- Copies files. -/
def cp : Program := do
  let a ← Options.taken { letters := "abdfHilLnPprRsTuvxZ", valued := "tS", words :=
    [("archive", 'a'), ("attributes-only", '\x04'), ("backup", '\x03'), ("copy-contents", 'C'),
      ("debug", 'v'), ("dereference", 'L'), ("force", 'f'), ("interactive", 'i'), ("link", 'l'),
      ("no-clobber", 'n'), ("no-dereference", 'P'), ("no-preserve", '\x05'),
      ("no-target-directory", 'T'), ("one-file-system", 'x'), ("parents", '\x06'), ("path", '\x06'),
      ("preserve", 'p'), ("recursive", 'r'), ("reflink", 'X'), ("remove-destination", '\x07'),
      ("sparse", 'X'), ("strip-trailing-slashes", '\x08'), ("suffix", 'S'), ("symbolic-link", 's'),
      ("target-directory", 't'), ("update", 'u'), ("verbose", 'v')], optional := "puX\x03\x05" }
  if a.has 'n' then
    Task.complain (Octets.ofString
      "warning: behavior of -n is non-portable and may change in future; use --update=none instead")
  let recursive := a.has 'r' || a.has 'R' || a.has 'a'
  let keepsLinks := match a.last? "HLPda" with
    | some 'L' | some 'H' => false
    | some _ => true
    | none => recursive && !(a.has 'l')
  let preserved ← a.options.foldlM (fun parts (c, value) => do
    match c with
    | 'a' => return ["mode".toList, "timestamps".toList, "links".toList] ++ parts
    | 'd' => return "links".toList :: parts
    | 'p' =>
      if value.isEmpty then return ["mode".toList, "timestamps".toList] ++ parts
      return (← attributeParts value) ++ parts
    | '\x05' =>
      let dropped ← attributeParts value
      return parts.filter fun part => !dropped.contains part && !dropped.contains "all".toList
    | _ => return parts) ([] : List Octets)
  let keeps (part : String) : Bool := preserved.contains part.toList || preserved.contains "all".toList
  if a.has 'l' && a.has 's' then
    refuseOperands (Octets.ofString "cannot make both hard and symbolic links")
  let c : Copying :=
    { recursive, keepsLinks, tells := a.has 'v', meeting := ← meetingOf a, forced := a.has 'f'
      removesFirst := a.has '\x07', keepsMode := keeps "mode", keepsTime := keeps "timestamps"
      dropsMode := a.has '\x05', leavesContent := a.has '\x04'
      links? := if a.has 's' then some true else if a.has 'l' then some false else none
      backup? := ← backupOf? a, ending := ← backupEnding a }
  let a := if a.has '\x08' then { a with operands := a.operands.map withoutSlashes } else a
  if a.has '\x06' then
    let (base, sources) := match a.value? 't' with
      | some base => (base, a.operands)
      | none => ((a.operands.getLast?).getD [], a.operands.dropLast)
    if sources.isEmpty then
      let _ ← transfers a false
    if !(← Task.isDirectory base) then
      refuseOperands (Octets.ofString "with --parents, the destination must be a directory")
    Task.worst sources fun source => do
      let status ← makeParents c.tells base source
      if status ≠ 0 then return status
      c.copy 4096 true source (below base (withoutSlashes source))
  else c.copyAll (← transfers a false)

/-- Copies files, with a mode of their own, or makes directories with all that they lie
in. -/
def install : Program := do
  let a ← Options.taken { letters := "bcCdDpsTvZ", valued := "gmoStU", words :=
    [("backup", '\x03'), ("compare", 'C'), ("directory", 'd'), ("group", 'g'), ("mode", 'm'),
      ("owner", 'o'), ("preserve-timestamps", 'p'), ("strip", 's'), ("suffix", 'S'),
      ("target-directory", 't'), ("no-target-directory", 'T'), ("verbose", 'v')], optional := "\x03" }
  let mode ← match a.value? 'm' with
    | none => pure 0o755
    | some text =>
      match Mode.ofText? text with
      | none => Task.refuse 1 (Octets.ofString "invalid mode " ++ quoted text)
      | some change => pure (change { isDirectory := a.has 'd' } 0)
  if a.has 'd' ∧ a.has 't' then
    Task.refuse 1 (Octets.ofString "target directory not allowed when installing a directory")
  let makeOne (mode : Mode) (name : Octets) : Task Nat := do
    match ← makeDirectory name mode with
    | .ok () =>
      if a.has 'v' then
        Task.write (Octets.ofString "install: creating directory " ++ quotedName name ++ ['\n'])
      return 0
    | .error errno =>
      Task.complain (Octets.ofString "cannot create directory " ++ quoted name ++
        Octets.ofString (": " ++ errno.message))
      return 1
  let makeAll (mode? : Option Mode) (name : Octets) : Task Nat := do
    let status ← Task.worst (ancestors name.length name).reverse fun parent => do
      if ← Task.isDirectory parent then return 0
      makeOne 0o755 parent
    match mode? with
    | none => return status
    | some mode =>
      if status ≠ 0 then return status
      match ← Task.find name with
      | .ok (place, .directory) =>
        modify fun m =>
          { m with files := m.files.mark place { m.files.attributesAt place with mode } }
        return 0
      | _ => makeOne mode name
  if a.has 'd' then
    if a.operands.isEmpty then refuseOperands (Octets.ofString "missing file operand")
    return ← Task.worst a.operands (makeAll (some mode))
  let c : Copying :=
    { tells := a.has 'v', removesFirst := true, keepsTime := a.has 'p', mode? := some mode
      backup? := ← backupOf? a, ending := ← backupEnding a }
  if a.has 'D' then
    match a.value? 't', a.operands with
    | some directory, _ :: _ => let _ ← makeAll (some 0o755) directory
    | none, [_, target] => let _ ← makeAll none target
    | _, _ => pure ()
  let pairs ← transfers a false
  let isOwn := a.has 'C' && a.operands.length = 2
  if isOwn then
    let same ← pairs.allM fun (source, target) => do
      match ← Task.find source, ← Task.find target with
      | .ok (_, .file x), .ok (there, .file y) =>
        return x = y ∧ ((← get).files.attributesAt there).mode = mode
      | _, _ => return false
    if same then return 0
  c.copyAll pairs

end ComponentReference.Tool
