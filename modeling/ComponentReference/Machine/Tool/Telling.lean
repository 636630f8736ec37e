import ComponentReference.Host.Resolve
import ComponentReference.Machine.Tool.Listing

/-!
# Programs that tell of files

They tell where links lead, and what is known of files.
-/

namespace ComponentReference.Tool

/-! ## Where links lead -/

/-- How much of a path must be there when it is followed to its end. -/
inductive Presence where
  | all
  | allButLast
  | nothing
deriving DecidableEq

/-- The place that a path leads to in the end. -/
def finalPlace (presence : Presence) (name : Octets) : Task (Except Errno Location) := do
  let p ← read
  match presence with
  | .all =>
    match ← Task.find name with
    | .ok (place, _) => return .ok place
    | .error errno => return .error errno
  | .allButLast =>
    match ← locate name {} with
    | .ok spot => return .ok spot.location
    | .error errno =>
      let trimmed := withoutSlashes name
      if errno = .missing && trimmed ≠ name && trimmed ≠ [] then
        return match ← locate trimmed {} with
          | .ok ⟨place, none⟩ => .ok place
          | _ => .error errno
      return .error errno
  | .nothing =>
    if name.isEmpty then return .error .missing
    let path := Path.ofString ((Octets.toString? name).getD "")
    let start : Location := if path.isAbsolute then [] else p.directory
    let fs := (← get).files
    return .ok (path.names.foldl (fun place piece =>
      if piece = ".." then place.dropLast
      else
        match fs.locate place {} piece with
        | .ok spot => spot.location
        | .error _ => place ++ [piece]) start)

/-- The path of a place. -/
def pathOf (place : Location) : Octets :=
  Octets.ofString (Location.path place).text

/-- Shows where links lead. -/
def readlink : Program := do
  let a ← Options.taken { letters := "femnqsvz", words :=
    [("canonicalize", 'f'), ("canonicalize-existing", 'e'), ("canonicalize-missing", 'm'),
      ("no-newline", 'n'), ("quiet", 'q'), ("silent", 's'), ("verbose", 'v'), ("zero", 'z')] }
  if a.operands.isEmpty then refuseMissing []
  let ending : Octets := if a.has 'n' && a.operands.length = 1 then [] else [lineEnd a]
  Task.worst a.operands fun name => do
    let result : Except Errno Octets ← match a.last? "fem" with
      | some c =>
        let presence := if c = 'e' then Presence.all else if c = 'm' then .nothing else .allButLast
        pure ((← finalPlace presence name).map pathOf)
      | none =>
        match ← findItself name with
        | .ok (_, .link target) => pure (.ok (Octets.ofString target))
        | .ok _ => pure (.error .invalid)
        | .error errno => pure (.error errno)
    match result with
    | .ok text =>
      Task.write (text ++ ending)
      return 0
    | .error errno =>
      if a.has 'v' then complainOf name errno
      return 1

/-- The path that leads from one place to another. -/
def relativePath (start target : Location) : Octets :=
  let common := ((start.zip target).takeWhile fun (x, y) => x = y).length
  let ups := List.replicate (start.length - common) ".."
  let names := ups ++ target.drop common
  if names.isEmpty then ['.'] else Octets.ofString ("/".intercalate names)

/-- The place that a path names, whatever links are on the way. -/
def namedPlace (name : Octets) : Task Location := do
  let p ← read
  let path := Path.ofString ((Octets.toString? name).getD "")
  let start : Location := if path.isAbsolute then [] else p.directory
  return path.names.foldl (fun place piece =>
    if piece = ".." then place.dropLast else place ++ [piece]) start

/-- Shows the places that paths lead to. -/
def realpath : Program := do
  let a ← Options.taken { letters := "eLmPqsz", valued := "RB", words :=
    [("canonicalize-existing", 'e'), ("canonicalize-missing", 'm'), ("quiet", 'q'),
      ("strip", 's'), ("no-symlinks", 's'), ("zero", 'z'), ("relative-to", 'R'),
      ("relative-base", 'B')] }
  if a.operands.isEmpty then refuseMissing []
  let presence := match a.last? "em" with
    | some 'e' => Presence.all
    | some _ => .nothing
    | none => .allButLast
  let placeOf (name : Octets) : Task (Except Errno Location) := do
    match ← finalPlace presence name, a.has 's' with
    | .ok _, true => return .ok (← namedPlace name)
    | result, _ => return result
  let given (letter : Char) : Task (Option Location) := do
    match a.value? letter with
    | none => return none
    | some name =>
      match ← placeOf name with
      | .ok place => return some place
      | .error errno =>
        complainOf name errno
        Task.finish 1
  let start? ← given 'R'
  let base? ← given 'B'
  Task.worst a.operands fun name => do
    match ← placeOf name with
    | .ok place =>
      let isBelow := base?.all (·.isPrefixOf place)
      let text := match (if isBelow then start?.or base? else none) with
        | some start => relativePath start place
        | none => pathOf place
      Task.write (text ++ [lineEnd a])
      return 0
    | .error errno =>
      if !(a.has 'q') then complainOf name errno
      return 1

/-! ## What is known of files -/

/-- What is known of the file at a place, under a name. -/
structure Known where
  name : Octets
  place : Location
  entry : Entry
  attributes : Attributes
  /-- How many names it has. -/
  links : Nat

/-- What is known of the file at a place. -/
def knownAt (name : Octets) (place : Location) (entry : Entry) : Task Known := do
  let m ← get
  return { name, place, entry, attributes := m.files.attributesAt place, links := linkCount m place entry }

namespace Known

/-- A text in a column. -/
def column (flags : Octets) (width? : Option Nat) (s : Octets) : Octets :=
  let width := width?.getD 0
  if flags.contains '-' then padRight width s
  else if flags.contains '0' then List.replicate (width - s.length) '0' ++ s
  else padLeft width s

/-- The moment of the last change, as it is shown. -/
def changeText (k : Known) : Octets :=
  Moment.shownAs "%Y-%m-%d %H:%M:%S.%N %z".toList k.attributes.changed

/-- What a directive of a format stands for. -/
def directive (k : Known) (c : Char) : Octets :=
  match c with
  | 'n' => k.name
  | 'N' =>
    match k.entry with
    | .link target => quotedName k.name ++ Octets.ofString " -> " ++ quotedName (Octets.ofString target)
    | _ => quotedName k.name
  | 's' => Octets.ofNat (sizeOf k.entry)
  | 'F' => Octets.ofString (kindWords k.entry)
  | 'A' => kindLetter k.entry :: Mode.letters k.attributes.mode
  | 'a' => Mode.digits k.attributes.mode
  | 'f' => Octets.digits 16 (k.attributes.mode + (match k.entry with
      | .directory => 0o40000
      | .file _ => 0o100000
      | .link _ => 0o120000
      | .device _ => 0o20000
      | .queue => 0o10000))
  | 'U' | 'G' => "root".toList
  | 'u' | 'g' => "0".toList
  | 'h' => Octets.ofNat k.links
  | 'b' => Octets.ofNat (2 * blocksOf k.entry)
  | 'B' => "512".toList
  | 'o' => "4096".toList
  | 'd' | 'D' | 't' | 'T' | 'r' | 'R' => "0".toList
  | 'i' => "1".toList
  | 'm' => "/".toList
  | 'w' => "-".toList
  | 'W' => "0".toList
  | 'x' | 'y' | 'z' => k.changeText
  | 'X' | 'Y' | 'Z' => Octets.ofInt (k.attributes.changed.fdiv secondSize)
  | _ => ['?']

/-- A format, filled in.  Escapes mean something in it if that is wanted. -/
def inFormat (escapes : Bool) (k : Known) : (fuel : Nat) → Octets → Octets
  | 0, _ => []
  | _, [] => []
  | fuel + 1, '%' :: '%' :: rest => '%' :: inFormat escapes k fuel rest
  | fuel + 1, '%' :: rest =>
    let (flags, after) := rest.span "-0#+ '".toList.contains
    let (width, after) := after.span Char.isDigit
    let (precision, after) := after.span fun c => c = '.' || c.isDigit
    match after with
    | c :: after =>
      let value := k.directive c
      let value := if "XYZ".toList.contains c ∧ precision.length = 2 then
          value ++ '.' :: (Moment.shownAs "%N".toList k.attributes.changed).take
            (Octets.valueOf 10 (precision.drop 1))
        else if "nNFAUG".toList.contains c ∧ !precision.isEmpty then
          value.take (Octets.valueOf 10 (precision.drop 1))
        else if !precision.isEmpty then
          List.replicate (Octets.valueOf 10 (precision.drop 1) - value.length) '0' ++ value
        else value
      let value := if flags.contains '#' ∧ (c = 'a' ∨ c = 'f') then
          (if c = 'a' then ['0'] else ['0', 'x']) ++ value else value
      column flags (Octets.nat? width) value ++ inFormat escapes k fuel after
    | [] => '%' :: rest
  | fuel + 1, '\\' :: c :: rest =>
    if escapes then
      let isOctal (c : Char) : Bool := '0' ≤ c && c ≤ '7'
      let simple := [('n', 10), ('t', 9), ('r', 13), ('a', 7), ('b', 8), ('f', 12), ('v', 11),
        ('e', 27), ('"', 34), ('\\', 92)]
      match simple.lookup c with
      | some n => Char.ofNat n :: inFormat escapes k fuel rest
      | none =>
        if isOctal c then
          let digits := ((c :: rest).take 3).takeWhile isOctal
          Char.ofNat (Octets.valueOf 8 digits % 256) ::
            inFormat escapes k fuel ((c :: rest).drop digits.length)
        else c :: inFormat escapes k fuel rest
    else '\\' :: inFormat escapes k fuel (c :: rest)
  | fuel + 1, c :: rest => c :: inFormat escapes k fuel rest

/-- All that is known, in several lines. -/
def shown (k : Known) : Octets :=
  let target := match k.entry with
    | .link target => Octets.ofString " -> " ++ shownName (Octets.ofString target)
    | _ => []
  Octets.ofString "  File: " ++ shownName k.name ++ target ++ inFormat true k 400
    ("\\n  Size: %-10s\\tBlocks: %-10b IO Block: %-6o %F\\nDevice: 0,0\\tInode: %-11i Links: %h\\n" ++
      "Access: (%04a/%10.10A)  Uid: (%5u/%8U)   Gid: (%5g/%8G)\\nAccess: %x\\nModify: %y\\nChange: %z\\n Birth: %w\\n").toList

end Known

/-- Shows what is known of files. -/
def stat : Program := do
  let a ← Options.taken { letters := "Lft", valued := "cp", words :=
    [("dereference", 'L'), ("format", 'c'), ("printf", 'p'), ("terse", 't'), ("file-system", 'f')] }
  if a.operands.isEmpty then refuseMissing []
  Task.worst a.operands fun name => do
    match ← Task.find name (a.has 'L') with
    | .error errno =>
      complainFailed "cannot statx" name errno
      return 1
    | .ok (place, e) =>
      let known ← knownAt name place e
      match a.value? 'p', a.value? 'c' with
      | some format, _ => Task.write (known.inFormat true (format.length + 1) format)
      | none, some format => Task.write (known.inFormat false (format.length + 1) format ++ ['\n'])
      | none, none => Task.write known.shown
      return 0

end ComponentReference.Tool
