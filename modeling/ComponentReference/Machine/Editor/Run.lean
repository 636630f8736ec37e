import ComponentReference.Machine.Editor.Reader

/-!
# Running the stream editor

The commands are gone through for every line of the input.  What is then in the line is
written, unless that is done by commands alone, and after it what commands have left for
the end of the line.
-/

namespace ComponentReference.Editor

/-- How the editor has been called. -/
structure Setting where
  commands : Array Command
  /-- Whether lines are written by commands alone. -/
  isQuiet : Bool := false
  /-- Whether each file has lines of its own. -/
  isSeparate : Bool := false
  /-- What is put behind the name of a file that is changed, if files are. -/
  backup? : Option Octets := none
  inPlace : Bool := false
  /-- Whether a file is changed that a link leads to, and not the link. -/
  followsLinks : Bool := false
  ending : Char := '\n'

/-- A line of the input. -/
structure Line where
  text : Octets
  /-- Whether its end is marked. -/
  ended : Bool := true

/-- Where the output goes, and what has been written to files. -/
structure Outputs where
  /-- What has been written, the latest first. -/
  main : List Octets := []
  /-- Whether the last line that was written lacks its end. -/
  lacksEnd : Bool := false
  files : List (Octets × List Octets × Bool) := []

/-- The state of the editor. -/
structure EditorState where
  /-- The lines of the file that is read. -/
  lines : List Line := []
  /-- The files that are still to be read. -/
  names : List Octets := []
  name : Octets := ['-']
  lineNumber : Nat := 0
  space : Octets := []
  held : Octets := []
  /-- Whether the last line of input had its end marked. -/
  ended : Bool := true
  /-- The line with which the range of a command ends that is open, by the command. -/
  open? : List (Nat × Option Nat) := []
  replaced : Bool := false
  last? : Option Expression := none
  /-- What is left for the end of a line. -/
  late : List Octets := []
  outputs : Outputs := {}
  /-- What has been read of files line by line. -/
  readers : List (Octets × List Line) := []
  status : Nat := 0

/-- What runs in the editor. -/
abbrev Ed := StateT EditorState Task

namespace Ed

/-- The lines of octets. -/
def linesOf (ending : Char) (s : Octets) : List Line :=
  match (Text.split ending s).reverse with
  | [] => []
  | last :: others =>
    others.reverse.map ({ text := · }) ++ if last.isEmpty then [] else [{ text := last, ended := false }]

/-- Writes to the main output. -/
def emit (s : Setting) (text : Octets) (ended : Bool) : Ed Unit :=
  modify fun st =>
    let missing : Octets := if st.outputs.lacksEnd then [s.ending] else []
    let text := missing ++ text ++ if ended then [s.ending] else []
    { st with outputs := { st.outputs with main := text :: st.outputs.main, lacksEnd := !ended } }

/-- Writes octets as they are to the main output, behind the end of its last line. -/
def emitRaw (s : Setting) (text : Octets) : Ed Unit :=
  modify fun st =>
    let missing : Octets := if st.outputs.lacksEnd then [s.ending] else []
    { st with outputs := { st.outputs with
        main := (missing ++ text) :: st.outputs.main, lacksEnd := false } }

/-- Lets the main output out. -/
def flush : Ed Unit := do
  let st ← get
  set { st with outputs := { st.outputs with main := [] } }
  let text := st.outputs.main.foldl (fun after s => s ++ after) []
  liftM (Task.write text : Task Unit)

/-- Writes a line to a file. -/
def emitTo (s : Setting) (name text : Octets) (ended : Bool) : Ed Unit := do
  if name = "/dev/stdout".toList then emit s text ended
  else if name = "/dev/stderr".toList then liftM (Task.tell (text ++ [s.ending]) : Task Unit)
  else
    modify fun st =>
      let (texts, lacks) := (st.outputs.files.lookup name).getD ([], false)
      let text := (if lacks then [s.ending] else []) ++ text ++ if ended then [s.ending] else []
      { st with outputs := { st.outputs with
          files := Keyed.put Prod.fst (name, text :: texts, !ended) st.outputs.files } }

/-! ## Input -/

/-- Opens the next file that can be read; gives whether there is one. -/
def openNext (s : Setting) : (fuel : Nat) → Ed Bool
  | 0 => return false
  | fuel + 1 => do
    let st ← get
    match st.names with
    | [] => return false
    | name :: names =>
      set { st with names }
      match ← (liftM (Task.readOperand name : Task _) : Ed (Except Errno Octets)) with
      | .ok content =>
        modify fun st =>
          { st with
            lines := linesOf s.ending content, name
            lineNumber := if s.isSeparate then 0 else st.lineNumber }
        if content.isEmpty then openNext s fuel else return true
      | .error errno =>
        if errno = .isDirectory then
          liftM (Task.complain (Octets.ofString "read error on " ++ name ++
            Octets.ofString (": " ++ errno.message)) : Task Unit)
          modify fun st => { st with status := 4 }
        else
          liftM (Task.complain (Octets.ofString "can't read " ++ name ++
            Octets.ofString (": " ++ errno.message)) : Task Unit)
          modify fun st => { st with status := 2 }
        openNext s fuel

/-- Whether there is another line. -/
def hasNext (s : Setting) : Ed Bool := do
  let st ← get
  if !st.lines.isEmpty then return true
  if s.isSeparate then return false
  openNext s (st.names.length + 1)

/-- Reads the next line into the space, behind what is in it if `appends`. -/
def readLine (s : Setting) (appends : Bool) : Ed Bool := do
  if !(← hasNext s) then return false
  let st ← get
  match st.lines with
  | [] => return false
  | line :: lines =>
    set { st with
      lines
      lineNumber := st.lineNumber + 1
      replaced := false
      ended := line.ended
      space := if appends then st.space ++ s.ending :: line.text else line.text }
    return true

/-! ## Selecting lines -/

/-- Whether an expression matches the space; without one, the last one counts. -/
def isMatch (e? : Option Expression) : Ed Bool := do
  let st ← get
  match e?.or st.last? with
  | none =>
    (liftM (Task.refuse 1 (Octets.ofString
      "-e expression #1, char 0: no previous regular expression") : Task Bool) : Ed Bool)
  | some e =>
    set { st with last? := some e }
    return Regular.occursIn e.manner e.regular (Tool.charactersOf st.space)

/-- Whether the line is one that an address means. -/
def isMeant (s : Setting) : Address → Ed Bool
  | .line n => return (← get).lineNumber = n
  | .last => return !(← hasNext s)
  | .step first step => do
    let n := (← get).lineNumber
    return if step = 0 then n = first else first ≤ n && (n - first) % step = 0
  | .matching e? => isMatch e?

/-- Marks a range as open up to a line, or up to what matches. -/
def openRange (index : Nat) (last? : Option Nat) : Ed Unit :=
  modify fun st => { st with open? := Keyed.put Prod.fst (index, last?) st.open? }

/-- Marks a range as closed. -/
def closeRange (index : Nat) : Ed Unit :=
  modify fun st => { st with open? := st.open?.filter (·.1 ≠ index) }

/-- Whether the line is one that a selector means. -/
def isSelected (s : Setting) (index : Nat) (selector : Selector) : Ed Bool := do
  let st ← get
  let n := st.lineNumber
  match selector.first?, selector.finish? with
  | none, _ => return true
  | some first, none => isMeant s first
  | some first, some finish =>
    match st.open?.lookup index with
    | some (some last) =>
      if n ≥ last then closeRange index
      -- a range that should have ended before holds this line only if it begins here
      if last < n then isMeant s first else return true
    | some none =>
      match finish with
      | .at a =>
        if ← isMeant s a then closeRange index
        return true
      | _ => return true
    | none =>
      let begins ← match first with
        | .line 0 => pure (n == 1)
        | first => isMeant s first
      if !begins then return false
      match first, finish with
      | .line 0, .at a =>
        if !(← isMeant s a) then openRange index none
        return true
      | _, .at (.line last) =>
        if n < last then openRange index (some last)
        return true
      | _, .at _ =>
        openRange index none
        return true
      | _, .count k =>
        if 0 < k then openRange index (some (n + k))
        return true
      | _, .multiple k =>
        if 0 < k ∧ n % k ≠ 0 then openRange index (some (n + k - n % k))
        return true

/-! ## Changing -/

/-- Octets in which letters are changed as pieces say; `next` is for one letter only. -/
def cased (mode next : CaseChange) : List Char → List Char
  | [] => []
  | c :: rest =>
    let byMode (c : Char) : Char := match mode with
      | .upper => Text.capital c
      | .lower => Text.small c
      | _ => c
    let first := match next with
      | .upperNext => Text.capital c
      | .lowerNext => Text.small c
      | _ => byMode c
    first :: rest.map byMode

/-- What replaces a part that has been found. -/
def replacement (text : List Char) (found : Regular.Found) (pieces : List Piece) : List Char :=
  let (shown, _, _) := pieces.foldl (fun (shown, mode, next) piece =>
    match piece with
    | .change .upper => (shown, .upper, .none)
    | .change .lower => (shown, .lower, .none)
    | .change .none => (shown, .none, .none)
    | .change c => (shown, mode, c)
    | .char c => (cased mode next [c] :: shown, mode, .none)
    | .group n =>
      let part := if n = 0 then (text.drop found.start).take (found.finish - found.start)
        else (found.groups.lookup n).getD []
      if part.isEmpty then (shown, mode, next) else (cased mode next part :: shown, mode, .none))
    (([], .none, .none) : List (List Char) × CaseChange × CaseChange)
  shown.reverse.flatten

/-- Replaces parts of the space; gives whether one has been replaced. -/
def substitute (sub : Substitution) : Ed Bool := do
  let st ← get
  match sub.expression?.or st.last? with
  | none =>
    (liftM (Task.refuse 1 (Octets.ofString
      "-e expression #1, char 0: no previous regular expression") : Task Bool) : Ed Bool)
  | some e =>
    let text := Tool.charactersOf st.space
    let all := Regular.all e.manner e.regular text
    let chosen := all.drop (sub.number - 1)
    let chosen := if sub.replacesAll then chosen else chosen.take 1
    let (shown, offset) := chosen.foldl (fun (shown, offset) found =>
      (replacement text found sub.pieces :: (text.drop offset).take (found.start - offset) :: shown,
        found.finish)) (([], 0) : List (List Char) × Nat)
    let changed := shown.reverse.flatten ++ text.drop offset
    set { st with
      last? := some e
      space := if chosen.isEmpty then st.space else Tool.octetsLike st.space changed }
    return !chosen.isEmpty

/-- Octets as they are shown without doubt, in lines of a width. -/
def listed (width : Nat) (s : Octets) : Octets :=
  let shown (c : Char) : Octets :=
    let letters := [(7, 'a'), (8, 'b'), (12, 'f'), (10, 'n'), (13, 'r'), (9, 't'), (11, 'v')]
    match letters.lookup c.toNat with
    | some letter => ['\\', letter]
    | none =>
      if c = '\\' then ['\\', '\\']
      else if ' ' ≤ c ∧ c ≤ '~' then [c]
      else '\\' :: [c.toNat / 64, c.toNat / 8 % 8, c.toNat % 8].map fun d => Char.ofNat ('0'.toNat + d)
  let (lines, current) := s.foldl (fun (lines, current) c =>
    let piece := shown c
    if 1 < width ∧ width - 1 < current.length + piece.length then
      (lines ++ current ++ ['\\', '\n'], piece)
    else (lines, current ++ piece)) (([], []) : Octets × Octets)
  lines ++ current ++ ['$']

/-- The next line of a file that is read line by line. -/
def nextOf (s : Setting) (name : Octets) : Ed (Option Line) := do
  let st ← get
  let lines ← match st.readers.lookup name with
    | some lines => pure lines
    | none => do
      match ← (liftM (Task.readOperand name : Task _) : Ed (Except Errno Octets)) with
      | .ok content => pure (linesOf s.ending content)
      | .error _ => pure []
  modify fun st => { st with readers := Keyed.put Prod.fst (name, lines.drop 1) st.readers }
  return lines.head?

/-! ## Running -/

/-- What follows a command. -/
inductive Flow where
  /-- The command at an index. -/
  | goOn (index : Nat)
  /-- The end of the cycle, in which the line is written. -/
  | cycleEnd
  /-- Another cycle, without the line being written; it may keep what is in the space. -/
  | restart (keeps : Bool)
  | quit (silently : Bool) (status : Nat)

/-- Where a label leads. -/
def target (s : Setting) (name : Octets) : Flow :=
  let index? := s.commands.findIdx? fun c => match c.action with
    | .label other => other = name
    | _ => false
  match index? with
  | some index => if name.isEmpty then .cycleEnd else .goOn index
  | none => .cycleEnd

/-- Does what a command says, at an index, whose lines have been selected. -/
def perform (s : Setting) (index : Nat) (command : Command) : Ed Flow := do
  let goOn : Ed Flow := return .goOn (index + 1)
  let st ← get
  let write : Ed Unit := emit s st.space st.ended
  match command.action with
  | .block _ | .blockEnd | .label _ | .nothing => goOn
  | .appendText text =>
    set { st with late := st.late ++ [text] }
    goOn
  | .insertText text =>
    emitRaw s text
    goOn
  | .changeText text =>
    let isOpen := (st.open?.lookup index).isSome && !command.selector.inverted
    if !isOpen then emitRaw s text
    return .restart false
  | .jump condition? name =>
    match condition? with
    | none => return target s name
    | some wanted =>
      set { st with replaced := false }
      if st.replaced = wanted then return target s name else goOn
  | .delete => return .restart false
  | .deleteFirst =>
    match st.space.span (· ≠ s.ending) with
    | (_, []) => return .restart false
    | (_, _ :: rest) =>
      set { st with space := rest }
      return .restart true
  | .number =>
    emit { s with ending := '\n' } (Octets.ofNat st.lineNumber) true
    goOn
  | .fileName =>
    emit s st.name true
    goOn
  | .hold appends =>
    set { st with held := if appends then st.held ++ s.ending :: st.space else st.space }
    goOn
  | .get appends =>
    set { st with space := if appends then st.space ++ s.ending :: st.held else st.held }
    goOn
  | .exchange =>
    set { st with space := st.held, held := st.space }
    goOn
  | .list width? =>
    emit s (listed (width?.getD 70) st.space) true
    goOn
  | .next =>
    if !(← hasNext s) then return .cycleEnd
    if !s.isQuiet then write
    late s
    let _ ← readLine s false
    goOn
  | .nextAppend =>
    late s
    if ← readLine s true then goOn else return .cycleEnd
  | .print =>
    write
    goOn
  | .printFirst =>
    emit s (st.space.takeWhile (· ≠ s.ending)) true
    goOn
  | .quit silently status => return .quit silently status
  | .readFile name =>
    match ← (liftM (Task.readOperand name : Task _) : Ed (Except Errno Octets)) with
    | .ok content => modify fun st => { st with late := st.late ++ [content] }
    | .error _ => modify fun st => { st with late := st.late ++ [[]] }
    goOn
  | .readLine name =>
    match ← nextOf s name with
    | some line =>
      let text := line.text ++ if line.ended then [s.ending] else []
      modify fun st => { st with late := st.late ++ [text] }
    | none => pure ()
    goOn
  | .writeFile name first =>
    let text := if first then st.space.takeWhile (· ≠ s.ending) else st.space
    emitTo s name text (first || st.ended)
    goOn
  | .substitute sub =>
    if ← substitute sub then
      modify fun st => { st with replaced := true }
      let st ← get
      if sub.prints then emit s st.space st.ended
      match sub.file? with
      | some name => emitTo s name st.space st.ended
      | none => pure ()
    goOn
  | .replaceEach table =>
    let text := (Tool.charactersOf st.space).map fun c => (table.lookup c).getD c
    set { st with space := Tool.octetsLike st.space text }
    goOn
  | .clear =>
    set { st with space := [] }
    goOn
where
  /-- Writes what has been left for the end of the line. -/
  late (s : Setting) : Ed Unit := do
    let st ← get
    set { st with late := [] }
    for text in st.late do
      emitRaw s text

/-- Goes through the commands from an index on. -/
def goThrough (s : Setting) : (fuel : Nat) → (index : Nat) → Ed Flow
  | 0, _ => return .cycleEnd
  | fuel + 1, index => do
    match s.commands[index]? with
    | none => return .cycleEnd
    | some command =>
      let selected ← isSelected s index command.selector
      if selected = command.selector.inverted then
        match command.action with
        | .block size => goThrough s fuel (index + 1 + size)
        | _ => goThrough s fuel (index + 1)
      else
        match ← perform s index command with
        | .goOn next => goThrough s fuel next
        | flow => return flow

/-- Runs cycles as long as there are lines; gives the status of a command that ends all. -/
def cycles (s : Setting) : (fuel : Nat) → (reads : Bool) → Ed (Option Nat)
  | 0, _ => return none
  | fuel + 1, reads => do
    if reads then
      if !(← readLine s false) then return none
    let flow ← goThrough s (10 ^ 9) 0
    let st ← get
    let ends : Bool := match flow with
      | .restart _ | .quit true _ => false
      | _ => true
    if ends ∧ !s.isQuiet then emit s st.space st.ended
    match flow with
    | .quit true _ => pure ()
    | _ => perform.late s
    match flow with
    | .quit _ status => return some status
    | .restart keeps => cycles s fuel (!keeps)
    | _ => cycles s fuel true

/-- Writes the files that commands have written to. -/
def storeFiles : Ed Unit := do
  let st ← get
  for (name, texts, _) in st.outputs.files do
    let content := texts.foldl (fun after s => s ++ after) []
    let _ ← (liftM (Task.writeFile .write name content : Task _) : Ed (Except Errno Unit))

/-- Changes files, each by its own run of the commands. -/
def changeFiles (s : Setting) : List Octets → Ed Nat
  | [] => return 0
  | name :: names => do
    match ← (liftM (Task.find name : Task _) : Ed (Except Errno (Location × Entry))) with
    | .error errno =>
      liftM (Task.complain (Octets.ofString "can't read " ++ name ++
        Octets.ofString (": " ++ errno.message)) : Task Unit)
      return max 2 (← changeFiles s names)
    | .ok (final, .file content) =>
      modify fun st =>
        { st with lines := linesOf s.ending (Octets.ofBytes content), name, lineNumber := 0, outputs :=
            { st.outputs with main := [], lacksEnd := false } }
      let result ← cycles s (10 ^ 9) true
      let st ← get
      -- what has not been read of a file stays in it
      let rest : Octets := st.lines.flatMap fun line =>
        line.text ++ if line.ended then [s.ending] else []
      let written := st.outputs.main.foldl (fun after s => s ++ after) [] ++ rest
      -- the file is another one then, of the same name and mode
      let place := match ← (liftM (Task.find name false : Task _) : Ed (Except Errno (Location × Entry))) with
        | .ok (place, _) => if s.followsLinks then final else place
        | .error _ => final
      let replace (m : Machine) : Machine :=
        let a := { m.files.attributesAt final with number? := none }
        let m := match s.backup? with
          | some ending =>
            m.move place (place.dropLast ++ [place.getLast?.getD "" ++ String.ofList ending])
          | none => m.remove place
        let files := m.files.put place (.file (Octets.toBytes written))
        { m with files := files.mark place { a with changed := m.clock } }
      (liftM (modify replace : Task Unit) : Ed Unit)
      match result with
      | some status => return status
      | none => changeFiles s names
    | .ok _ =>
      liftM (Task.complain (Octets.ofString "couldn't edit " ++ name ++
        Octets.ofString ": not a regular file") : Task Unit)
      return max 4 (← changeFiles s names)

end Ed

/-- How the editor is to be called. -/
def usage : String :=
  "Usage: sed [OPTION]... \x7bscript-only-if-no-other-script\x7d [input-file]...\n\n" ++
  "  -n, --quiet, --silent\n" ++
  "                 suppress automatic printing of pattern space\n" ++
  "      --debug\n" ++
  "                 annotate program execution\n" ++
  "  -e script, --expression=script\n" ++
  "                 add the script to the commands to be executed\n" ++
  "  -f script-file, --file=script-file\n" ++
  "                 add the contents of script-file to the commands to be executed\n" ++
  "  --follow-symlinks\n" ++
  "                 follow symlinks when processing in place\n" ++
  "  -i[SUFFIX], --in-place[=SUFFIX]\n" ++
  "                 edit files in place (makes backup if SUFFIX supplied)\n" ++
  "  -l N, --line-length=N\n" ++
  "                 specify the desired line-wrap length for the \x60l' command\n" ++
  "  --posix\n" ++
  "                 disable all GNU extensions.\n" ++
  "  -E, -r, --regexp-extended\n" ++
  "                 use extended regular expressions in the script\n" ++
  "                 (for portability use POSIX -E).\n" ++
  "  -s, --separate\n" ++
  "                 consider files as separate rather than as a single,\n" ++
  "                 continuous long stream.\n" ++
  "      --sandbox\n" ++
  "                 operate in sandbox mode (disable e/r/w commands).\n" ++
  "  -u, --unbuffered\n" ++
  "                 load minimal amounts of data from the input files and flush\n" ++
  "                 the output buffers more often\n" ++
  "  -z, --null-data\n" ++
  "                 separate lines by NUL characters\n" ++
  "      --help     display this help and exit\n" ++
  "      --version  output version information and exit\n\n" ++
  "If no -e, --expression, -f, or --file option is given, then the first\n" ++
  "non-option argument is taken as the sed script to interpret.  All\n" ++
  "remaining arguments are names of input files; if no input files are\n" ++
  "specified, then the standard input is read.\n\n"

/-- The options of the editor. -/
def editorOptions : Tool.Options where
  letters := "nErsuz"
  valued := "efl"
  words := [("quiet", 'n'), ("silent", 'n'), ("expression", 'e'), ("file", 'f'),
    ("regexp-extended", 'E'), ("in-place", 'i'), ("separate", 's'), ("unbuffered", 'u'),
    ("null-data", 'z'), ("posix", 'p'), ("debug", 'd'), ("line-length", 'l'), ("sandbox", 'S')]
  optional := "i"

/-- Arguments in which the letter for changing files has become a word. -/
def withPlaceOption : List Octets → List Octets
  | [] => []
  | ['-', '-'] :: rest => ['-', '-'] :: rest
  | argument :: rest =>
    match argument with
    | '-' :: c :: letters =>
      if c = '-' then argument :: withPlaceOption rest
      else
        let (front, behind) := (c :: letters).span fun d => "nErsuz".toList.contains d
        match behind with
        | 'i' :: ending =>
          (if front.isEmpty then [] else ['-' :: front]) ++
            ("--in-place".toList ++ if ending.isEmpty then [] else '=' :: ending) ::
              withPlaceOption rest
        | d :: more =>
          if (d = 'e' ∨ d = 'f' ∨ d = 'l') ∧ more.isEmpty then
            match rest with
            | value :: rest => argument :: value :: withPlaceOption rest
            | [] => [argument]
          else argument :: withPlaceOption rest
        | [] => argument :: withPlaceOption rest
    | argument => argument :: withPlaceOption rest

/-- Runs the stream editor. -/
def sed : Program := do
  let p ← read
  let refuseUsage : Task Nat := do
    Task.tell (Octets.ofString usage)
    return 1
  let arguments := withPlaceOption p.arguments
  let fuel := (arguments.map List.length).sum + arguments.length + 1
  match editorOptions.parse fuel arguments with
  | .error fault =>
    Task.complain fault.message
    refuseUsage
  | .ok a =>
    let given := a.options.filter fun (c, _) => c = 'e' ∨ c = 'f'
    let (scripts, names) ← if given.isEmpty then
        match a.operands with
        | script :: names => pure ([('e', script)], names)
        | [] =>
          let _ ← refuseUsage
          Task.finish 1
      else pure (given, a.operands)
    let style : Regular.Style := { extended := a.has 'E' || a.has 'r' }
    let (commands, _) ← scripts.foldlM (fun (commands, n) (kind, script) => do
      let text ← if kind = 'e' then pure script else
        match ← Task.readOperand script with
        | .ok text => pure (Octets.chomp text)
        | .error errno => Task.refuse 4 (Octets.ofString "couldn't open file " ++ script ++
            Octets.ofString (": " ++ errno.message))
      match commandsOf style text with
      | .ok more => return (commands ++ more, if kind = 'e' then n + 1 else n)
      | .error (count, fault) =>
        let place := if kind = 'e' then
            Octets.ofString "-e expression #" ++ Octets.ofNat n ++ Octets.ofString ", char " ++
              Octets.ofNat count
          else Octets.ofString "file " ++ script ++ Octets.ofString " line " ++
            Octets.ofNat ((text.take count).count '\n' + 1)
        Task.refuse 1 (place ++ Octets.ofString (": " ++ fault.message)))
      (([], 1) : List Command × Nat)
    let labels := commands.filterMap fun c => match c.action with
      | .label name => some name
      | _ => none
    for c in commands do
      if let .jump _ name := c.action then
        if !name.isEmpty ∧ !labels.contains name then
          Task.refuse 4 (Octets.ofString "can't find label for jump to \x60" ++ name ++ ['\''])
    let firstText := (scripts.head?.map Prod.snd).getD []
    let quietScript := firstText = "#n".toList ∨ "#n\n".toList.isPrefixOf firstText
    let s : Setting :=
      { commands := commands.toArray
        isQuiet := a.has 'n' || quietScript
        isSeparate := a.has 's' || a.has 'i'
        inPlace := a.has 'i'
        followsLinks := a.has 'F'
        backup? := (a.value? 'i').filter (!·.isEmpty)
        ending := if a.has 'z' then Char.ofNat 0 else '\n' }
    let files := commands.filterMap fun c => match c.action with
      | .writeFile name _ => some name
      | .substitute sub => sub.file?
      | _ => none
    let outputs : Outputs := { files := (files.eraseDups.filter fun name =>
      !(["/dev/stdout".toList, "/dev/stderr".toList].contains name)).map (·, [], false) }
    if s.inPlace then
      let (status, _) ← (do
        let status ← Ed.changeFiles s names
        Ed.storeFiles
        return status : Ed Nat).run { outputs }
      return status
    let names := Tool.namesOr names
    let run : Ed Nat := do
      let status? ← if s.isSeparate then separately s (names.length + 1)
        else Ed.cycles s (10 ^ 9) true
      Ed.flush
      Ed.storeFiles
      return status?.getD (← get).status
    let (status, _) ← run.run { names, outputs }
    return status
where
  /-- Runs cycles on the lines of one file after the other. -/
  separately (s : Setting) : (fuel : Nat) → Ed (Option Nat)
    | 0 => return none
    | fuel + 1 => do
      if !(← Ed.openNext s ((← get).names.length + 1)) then return none
      match ← Ed.cycles s (10 ^ 9) true with
      | some status => return some status
      | none => separately s fuel

end ComponentReference.Editor
