import ComponentReference.Machine.Shell.Pattern
import ComponentReference.Machine.Tool.Moving
import ComponentReference.Machine.Tool.Reading
import ComponentReference.Machine.Tool.Sorting

/-!
# Listing files

Names are listed in order, in lines or in columns, and with what is known of the files.
-/

namespace ComponentReference.Tool

/-- The size that an entry is said to have. -/
def sizeOf (e : Entry) : Nat :=
  match e with
  | .directory => 4096
  | .file content => content.length
  | .link target => Utf8.size target
  | .device _ | .queue => 0

/-- The kilobytes that an entry takes up. -/
def blocksOf (e : Entry) : Nat :=
  match e with
  | .link _ => 0
  | e => (sizeOf e + 4095) / 4096 * 4

/-- The letter of a kind of entry. -/
def kindLetter (e : Entry) : Char :=
  match e with
  | .directory => 'd'
  | .file _ => '-'
  | .link _ => 'l'
  | .device _ => 'c'
  | .queue => 'p'

/-- How many names what is at a place has: a directory has one in each of those in it. -/
def linkCount (m : Machine) (place : Location) (e : Entry) : Nat :=
  match e with
  | .directory => 2 + ((m.files.children place).filter fun child =>
      m.files.isDirectoryAt (place ++ [child])).length
  | _ => (m.files.namesOf place).length

/-- A number of octets in the largest unit in which it is no less than one, rounded up. -/
def readableSize (base n : Nat) : Octets :=
  let units := ["", if base = 1024 then "K" else "k", "M", "G", "T", "P", "E"]
  let rec go : (units : List String) → (unit : Nat) → Octets
    | [], unit => Octets.ofNat (n / unit)
    | [name], unit => Octets.ofNat ((n + unit - 1) / unit) ++ name.toList
    | name :: rest, unit =>
      let tenths := (10 * n + unit - 1) / unit
      let whole := (n + unit - 1) / unit
      if unit = 1 ∧ n < base then Octets.ofNat n
      else if unit > 1 ∧ tenths < 100 then
        Octets.ofNat (tenths / 10) ++ '.' :: Octets.ofNat (tenths % 10) ++ name.toList
      else if unit > 1 ∧ whole < base then Octets.ofNat whole ++ name.toList
      else go rest (unit * base)
  go units 1

/-! ## What is listed -/

/-- A name that is listed, with what it is the name of. -/
structure Listed where
  name : Octets
  place : Location
  entry : Entry
  attributes : Attributes
  /-- How many names lead to it. -/
  links : Nat := 1
  /-- What it leads to in the end, if it is a link. -/
  target? : Option (Entry × Mode) := none

/-- What is listed under a name. -/
def listedAt (place : Location) (name : Octets) (entry : Entry) : Task Listed := do
  let m ← get
  let target? := match entry with
    | .link _ =>
      match m.files.locate [] {} (Location.path place).text with
      | .ok ⟨final, some e⟩ => some (e, (m.files.attributesAt final).mode)
      | _ => none
    | _ => none
  return { name, place, entry, attributes := m.files.attributesAt place,
           links := linkCount m place entry, target? }

namespace Listed

/-- The mark behind a name that shows its kind. -/
def markOf (a : Arguments) (e : Entry) (mode : Mode) : Octets :=
  match e with
  | .directory => if a.has 'F' || a.has 'p' || a.has '\x05' then ['/'] else []
  | .file _ => if a.has 'F' && mode.isExecutable then ['*'] else []
  | .link _ => if a.has 'F' || a.has '\x05' then ['@'] else []
  | .queue => if a.has 'F' || a.has '\x05' then ['|'] else []
  | .device _ => []

/-- A name in double quotes, with what steers a display after backslashes. -/
def inQuotes (quotes : Bool) (name : Octets) : Octets :=
  let escaped := (nameParts name).flatMap fun part =>
    if quotes && part.octets = ['"'] then ['\\', '"']
    else if part.octets = ['\\'] then ['\\', '\\']
    else if !quotes && part.octets = [' '] then ['\\', ' ']
    else if part.isShown then part.octets
    else part.octets.flatMap escape
  if quotes then '"' :: escaped ++ ['"'] else escaped

/-- The name as it is listed, without a mark. -/
def shownName (a : Arguments) (name : Octets) : Octets :=
  match a.options.reverse.find? fun (c, _) => "QbqN\x04".toList.contains c with
  | some ('Q', _) => inQuotes true name
  | some ('b', _) => inQuotes false name
  | some ('q', _) => (nameParts name).flatMap fun part => if part.isShown then part.octets else ['?']
  | some ('\x04', style) =>
    match String.ofList style with
    | "c" => inQuotes true name
    | "escape" => inQuotes false name
    | "shell" | "shell-escape" => Tool.shownName name
    | "shell-always" | "shell-escape-always" => quotedName name
    | "locale" => quoted name
    | _ => name
  | _ => name

/-- The name as it is listed. -/
def shownAs (a : Arguments) (l : Listed) : Octets :=
  shownName a l.name ++ (if a.has 'l' && l.entry matches .link _ then [] else markOf a l.entry l.attributes.mode)

/-- The kilobytes that it takes up. -/
def blocks (l : Listed) : Nat :=
  blocksOf l.entry

end Listed

/-! ## The order of names -/

/-- The name that the sorting of a list goes by. -/
def sortingOf (a : Arguments) : Char :=
  match a.options.reverse.find? fun (c, _) => "tSXUfv\x03".toList.contains c with
  | some ('\x03', word) =>
    match String.ofList word with
    | "size" => 'S'
    | "time" => 't'
    | "extension" => 'X'
    | "version" => 'v'
    | "none" => 'U'
    | _ => ' '
  | some ('f', _) => 'U'
  | some (c, _) => c
  | none => ' '

/-- The ending of a name behind its last dot. -/
def extensionOf (name : Octets) : Octets :=
  if name.contains '.' then '.' :: (name.reverse.takeWhile (· ≠ '.')).reverse else []

/-- The names in the order in which they are listed. -/
def ordered (a : Arguments) (items : List Listed) : List Listed :=
  let byName (x y : Listed) : Bool := Octets.le x.name y.name
  let versions (x y : Listed) : Ordering :=
    compareVersions (x.name.length + y.name.length + 1) x.name y.name
  let le (x y : Listed) : Bool :=
    match sortingOf a with
    | 'S' => if sizeOf x.entry = sizeOf y.entry then byName x y else sizeOf y.entry < sizeOf x.entry
    | 't' =>
      if x.attributes.changed = y.attributes.changed then byName x y
      else y.attributes.changed < x.attributes.changed
    | 'X' =>
      let s := extensionOf x.name
      let t := extensionOf y.name
      if s = t then byName x y else Octets.le s t
    | 'v' => if versions x y = .eq then byName x y else versions x y = .lt
    | _ => byName x y
  let sorted := items.mergeSort le
  let sorted := if a.has 'r' && sortingOf a ≠ 'U' then sorted.reverse else sorted
  if a.has 'Y' then
    let isDirectory (l : Listed) : Bool := l.entry == .directory
    sorted.filter isDirectory ++ sorted.filter (!isDirectory ·)
  else sorted

/-! ## Forms of lists -/

/-- The moment of a change, as a long list shows it. -/
def timeShown (a : Arguments) (present changed : Moment) : Octets :=
  let isRecent := changed ≤ present ∧ present < changed + 31556952 / 2 * secondSize
  let ordinary := if isRecent then "%b %e %H:%M" else "%b %e  %Y"
  let style := if a.has '\x06' then "full-iso".toList else (a.value? 'w').getD []
  match style with
  | '+' :: format => Moment.shownAs format changed
  | style =>
    let format := match String.ofList style with
      | "full-iso" => "%Y-%m-%d %H:%M:%S.%N %z"
      | "long-iso" => "%Y-%m-%d %H:%M"
      | "iso" => if isRecent then "%m-%d %H:%M" else "%Y-%m-%d "
      | _ => ordinary
    Moment.shownAs format.toList changed

/-- The lines of a long list, in columns as wide as other items need as well. -/
def longLines (a : Arguments) (present : Moment) (others items : List Listed) : List Octets :=
  let sizeText (n : Nat) : Octets :=
    if a.has 'h' then readableSize 1024 n else if a.has '\x07' then readableSize 1000 n
    else Octets.ofNat n
  let width (f : Listed → Octets) : Nat := ((items ++ others).map fun l => (f l).length).foldl max 0
  let linkWidth := width fun l => Octets.ofNat l.links
  let sizeWidth := width fun l => sizeText (sizeOf l.entry)
  let blockText (l : Listed) : Octets :=
    if a.has 'h' then readableSize 1024 (1024 * l.blocks) else Octets.ofNat l.blocks
  let blockWidth := width blockText
  let owner := Octets.ofString (if a.has 'n' then "0" else "root")
  items.map fun l =>
    let target := match l.entry with
      | .link target =>
        let mark := match l.target? with
          | some (e, mode) => Listed.markOf a e mode
          | none => []
        Octets.ofString " -> " ++ Listed.shownName a (Octets.ofString target) ++ mark
      | _ => []
    let columns := (if a.has 's' then [padLeft blockWidth (blockText l)] else []) ++
      [kindLetter l.entry :: Mode.letters l.attributes.mode,
        padLeft linkWidth (Octets.ofNat l.links)] ++
      (if a.has 'g' then [] else [owner]) ++ (if a.has 'o' || a.has 'G' then [] else [owner]) ++
      (if a.has 'y' then [owner] else []) ++
      [padLeft sizeWidth (sizeText (sizeOf l.entry)), timeShown a present l.attributes.changed,
        l.shownAs a]
    Octets.unwords columns ++ target

/-- The blanks from a column to another one, with tabs as far as possible. -/
def blanksTo (tab : Nat) : (fuel : Nat) → (start finish : Nat) → Octets
  | 0, _, _ => []
  | fuel + 1, start, finish =>
    if finish ≤ start then []
    else if tab ≠ 0 ∧ (start + 1) / tab < finish / tab then
      '\t' :: blanksTo tab fuel (start + tab - start % tab) finish
    else ' ' :: blanksTo tab fuel (start + 1) finish

/-- The widths of as many columns as fit in a line, given the widths of the names and
in which column each of them is. -/
def columnWidths (lineWidth : Nat) (names : List Nat) (columnOf : (columns index : Nat) → Nat) :
    (columns : Nat) → List Nat
  | 0 => [0]
  | columns + 1 =>
    let widths := (List.range (columns + 1)).map fun column =>
      (names.zipIdx.filterMap fun (width, i) =>
        if columnOf (columns + 1) i = column then some (width + if column = columns then 0 else 2)
        else none).foldl max 3
    if columns = 0 ∨ widths.sum < lineWidth then widths
    else columnWidths lineWidth names columnOf columns

/-- Names in columns: down one column after the other, or across the lines. -/
def inColumns (across : Bool) (lineWidth tab : Nat) (names : List Octets) : Octets :=
  let count := names.length
  let columnOf (columns index : Nat) : Nat :=
    if across then index % columns else index / ((count + columns - 1) / columns)
  let widthOf (name : Octets) : Nat := (nameParts name).length
  let most := min count ((lineWidth + 2) / 3)
  let widths := columnWidths lineWidth (names.map widthOf) columnOf most
  let columns := widths.length
  let rows := (count + columns - 1) / columns
  let starts := (List.range columns).map fun i => (widths.take i).sum
  (List.range rows).flatMap fun row =>
    let cells := if across then (names.drop (row * columns)).take columns
      else (List.range columns).filterMap fun column => names[column * rows + row]?
    let cells := cells.zip starts
    let line := (cells.zip ((starts.drop 1).map some ++ [none])).zipIdx.flatMap fun (((name, start), next?), i) =>
      name ++ match next? with
        | some next => if i + 1 < cells.length then blanksTo tab (next + 1) (start + widthOf name) next else []
        | none => []
    line ++ ['\n']

/-- Names behind commas, in lines of a width. -/
def withCommas (lineWidth : Nat) (names : List Octets) : Octets :=
  let (text, _) := names.foldl (fun (text, column) name =>
    let width := (nameParts name).length
    if text.isEmpty then (name, width)
    else if column + width + 2 < lineWidth then (text ++ ", ".toList ++ name, column + 2 + width)
    else (text ++ ",\n".toList ++ name, width)) (([], 0) : Octets × Nat)
  if names.isEmpty then [] else text ++ ['\n']

/-- Writes a list of names, in columns as wide as other items need as well. -/
def writeNames (a : Arguments) (items : List Listed) (others : List Listed := []) : Task Unit := do
  let items := ordered a items
  let lineEnd : Char := if a.has '\x0e' then Char.ofNat 0 else '\n'
  let format := match a.options.reverse.find? fun (c, _) => "l1mCxgno\x06\x0b".toList.contains c with
    | some ('\x0b', word) =>
      match String.ofList word with
      | "commas" => some 'm'
      | "across" | "horizontal" => some 'x'
      | "long" | "verbose" => some 'l'
      | "vertical" => some 'C'
      | _ => none
    | some ('1', _) => if a.has 'l' || a.has 'n' || a.has 'g' || a.has 'o' then some 'l' else some '1'
    | found => found.map Prod.fst
  let lineWidth := match (a.value? '\x08').bind Octets.nat? with
    | some 0 => 100000
    | some n => n
    | none => 80
  let tab := ((a.value? 'T').bind Octets.nat?).getD 8
  let width := (items.map fun l => (Octets.ofNat l.blocks).length).foldl max 0
  let names := items.map fun l =>
    (if a.has 'i' then "1 ".toList else []) ++
      (if a.has 's' then padLeft width (Octets.ofNat l.blocks) ++ [' '] else []) ++ l.shownAs a
  match format with
  | some 'm' => Task.write (withCommas lineWidth names)
  | some 'C' => if !items.isEmpty then Task.write (inColumns false lineWidth tab names)
  | some 'x' => if !items.isEmpty then Task.write (inColumns true lineWidth tab names)
  | some '1' | none => Task.write (names.flatMap (· ++ [lineEnd]))
  | some _ => Task.write ((longLines a (← get).clock others items).flatMap (· ++ [lineEnd]))

/-- Whether a name is left out of the list of a directory. -/
def isLeftOut (a : Arguments) (name : Octets) : Bool :=
  let isMatch (pattern : Octets) : Bool :=
    Shell.Pattern.isMatch (Shell.Pattern.ofWord (pattern.map fun c => { octet := c })) name
  let all := a.has 'a' || a.has 'f' || a.has 'A'
  (!all && name.head? = some '.') || (a.has 'B' && name.getLast? = some '~') ||
    a.options.any fun (c, pattern) => (c = 'I' || (c = '\x0f' && !all)) && isMatch pattern

/-- Whether the long form is asked for. -/
def isLong (a : Arguments) : Bool :=
  "lngo\x06".toList.any a.has

/-- Writes the list of a directory, and of those below it if that is wanted; gives the
status. -/
def listDirectory (a : Arguments) : (depth : Nat) → (header : Bool) → (isFirst : Bool) →
    Octets → Location → Task Nat
  | 0, _, _, _, _ => return 0
  | depth + 1, header, isFirst, name, place => do
    let m ← get
    if !m.files.mayRead place then
      complainFailed "cannot open directory" name .denied
      return 2
    if header then Task.write ((if isFirst then [] else ['\n']) ++ name ++ [':', '\n'])
    let names := (← childrenOf place).filter (!isLeftOut a ·)
    let items ← names.mapM fun child => do
      let there := childPlace place child
      let e := (m.files.get? there).getD (.file [])
      match a.has 'L', ← Task.find (below name child) with
      | true, .ok (final, e) => listedAt final child e
      | _, _ => listedAt there child e
    let own ← listedAt place ['.'] .directory
    let parent ← listedAt place.dropLast ['.', '.'] .directory
    let items := (if a.has 'a' || a.has 'f' then [own, parent] else []) ++ items
    if isLong a || a.has 's' then
      let total := (items.map Listed.blocks).sum
      let text := if a.has 'h' then readableSize 1024 (1024 * total) else Octets.ofNat total
      Task.write (Octets.ofString "total " ++ text ++ ['\n'])
    writeNames a items
    if !(a.has 'R') then return 0
    Task.worst (ordered a items) fun l => do
      if l.entry = .directory ∧ l.name ≠ ['.'] ∧ l.name ≠ ['.', '.'] then
        listDirectory a depth true false (below name l.name) (childPlace place l.name)
      else return 0

/-- The options of a list. -/
def listOptions : Options where
  letters := "aAbBcCdfFgGhHiklLmnNopqQrRsStuUvxXZ1"
  valued := "ITw"
  optional := "zF\x04\x03\x0b\x0f\x10\x11\x13\x14"
  refusal := 2
  words :=
    [("all", 'a'), ("almost-all", 'A'), ("author", 'y'), ("escape", 'b'), ("block-size", '\x10'),
      ("ignore-backups", 'B'), ("color", 'z'), ("directory", 'd'), ("dired", 'D'),
      ("classify", 'F'), ("file-type", '\x05'), ("format", '\x0b'), ("full-time", '\x06'),
      ("no-group", 'G'), ("human-readable", 'h'), ("si", '\x07'), ("dereference-command-line", 'H'),
      ("hide", '\x0f'), ("hyperlink", 'z'), ("indicator-style", '\x11'), ("inode", 'i'),
      ("ignore", 'I'), ("kibibytes", 'k'), ("dereference", 'L'), ("numeric-uid-gid", 'n'),
      ("literal", 'N'), ("hide-control-chars", 'q'), ("show-control-chars", '\x12'),
      ("quote-name", 'Q'), ("quoting-style", '\x04'), ("reverse", 'r'), ("recursive", 'R'),
      ("size", 's'), ("sort", '\x03'), ("time", '\x13'), ("time-style", '\x14'), ("tabsize", 'T'),
      ("width", 'w'), ("context", 'Z'), ("zero", '\x0e'), ("group-directories-first", 'Y')]

/-- Lists files, and what is in directories. -/
def ls : Program := do
  let a ← listOptions.taken
  let given := a.options.map fun (c, value) =>
    if c = 'w' then ('\x08', value) else if c = '\x14' then ('w', value)
    else if c = '\x11' then
      (if value = "slash".toList then ('p', []) else if value = "classify".toList then ('F', [])
        else if value = "file-type".toList then ('\x05', []) else (c, value))
    else (c, value)
  let a := { a with options := given }
  let names := if a.operands.isEmpty then [['.']] else a.operands
  let (status, files, directories) ← names.foldlM (fun (status, files, directories) name => do
    let itself ← findItself name
    let followed ← Task.find name
    let follows := !(isLong a || a.has 'd' || a.has 'F') || a.has 'L' || a.has 'H'
    let found : Except Errno (Location × Entry) := match follows, followed, itself with
      | true, .ok found, _ => .ok found
      | true, followed, itself => if a.has 'L' || a.has 'H' then followed else itself
      | _, _, itself => itself
    match found with
    | .error errno =>
      complainFailed "cannot access" name errno
      return (2, files, directories)
    | .ok (place, .directory) =>
      if a.has 'd' then
        return (status, files ++ [← listedAt place name .directory], directories)
      return (status, files, directories ++ [← listedAt place name .directory])
    | .ok (place, e) => return (status, files ++ [← listedAt place name e], directories))
    ((0, [], []) : Nat × List Listed × List Listed)
  if !files.isEmpty then writeNames a files directories
  let header := a.has 'R' || 1 < names.length
  let (status, _) ← (ordered a directories).foldlM (fun (status, isFirst) l => do
    let listed ← listDirectory a 4096 header isFirst l.name l.place
    return (max status listed, false)) (status, files.isEmpty)
  return status

end ComponentReference.Tool
