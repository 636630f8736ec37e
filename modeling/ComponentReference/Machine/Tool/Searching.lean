import ComponentReference.Machine.Regular.OrderedReader
import ComponentReference.Machine.Regular.Reader
import ComponentReference.Machine.Shell.Pattern
import ComponentReference.Machine.Tool.Moving
import ComponentReference.Machine.Tool.Reading

/-!
# Searching files

Lines are searched for what patterns match, and shown, counted, or taken as a reason to
name the file.
-/

namespace ComponentReference.Tool

/-- The characters of octets: those of the text that they are, or else the octets. -/
def charactersOf (s : Octets) : List Char :=
  match Octets.toString? s with
  | some text => text.toList
  | none => s

/-- The octets of characters that were those of `source`. -/
def octetsLike (source : Octets) (text : List Char) : Octets :=
  match Octets.toString? source with
  | some _ => Octets.ofString (String.ofList text)
  | none => text

/-- What is searched for, and what is done with what is found. -/
structure Search where
  /-- Whether a text holds what is searched for. -/
  occurs : List Char → Bool
  /-- Where the parts of a text begin and end that are searched for. -/
  parts : List Char → List (Nat × Nat)
  inverted : Bool := false
  most? : Option Nat := none
  before : Nat := 0
  after : Nat := 0
  /-- Whether lines around others have been asked for. -/
  showsAround : Bool := false
  counts : Bool := false
  /-- Whether files are named in which something is found, or nothing. -/
  names? : Option Bool := none
  onlyParts : Bool := false
  silent : Bool := false
  hidesFaults : Bool := false
  asText : Bool := false
  skipsBinary : Bool := false
  numbered : Bool := false
  offsets : Bool := false
  named : Bool := false
  ending : Char := '\n'

/-- A line with its number and the offset at which it begins. -/
structure NumberedLine where
  number : Nat
  offset : Nat
  text : Octets

/-- The lines of octets, without what ends them. -/
def numberedLines (ending : Char) (s : Octets) : List NumberedLine :=
  let parts := if ending = '\n' then (Octets.lines s).map Octets.chomp
    else
      let parts := Text.split ending s
      if parts.getLast? = some [] then parts.dropLast else parts
  let (lines, _) := parts.foldl (fun (lines, number, offset) text =>
    ({ number, offset, text } :: lines, number + 1, offset + text.length + 1))
    (([], 1, 0) : List NumberedLine × Nat × Nat)
  lines.reverse

namespace Search

/-- Whether a line is one that is searched for. -/
def selects (s : Search) (line : NumberedLine) : Bool :=
  s.occurs (charactersOf line.text) != s.inverted

/-- The lines that are searched for, as many as are wanted. -/
def selected (s : Search) : (most? : Option Nat) → List NumberedLine → List NumberedLine
  | _, [] => []
  | most?, line :: rest =>
    if most? = some 0 then []
    else if s.selects line then line :: selected s (most?.map (· - 1)) rest
    else selected s most? rest

/-- What stands in front of a line that is shown. -/
def heading (s : Search) (name : Octets) (sign : Char) (number offset : Nat) : Octets :=
  (if s.named then name ++ [sign] else []) ++
    (if s.numbered then Octets.ofNat number ++ [sign] else []) ++
    (if s.offsets then Octets.ofNat offset ++ [sign] else [])

/-- A line as it is shown. -/
def shownLine (s : Search) (name : Octets) (isSelected : Bool) (line : NumberedLine) : Octets :=
  if s.onlyParts then
    if !isSelected || s.inverted then []
    else
      let text := charactersOf line.text
      (s.parts text).flatMap fun (start, finish) =>
        if start = finish then []
        else
          let offset := line.offset + (octetsLike line.text (text.take start)).length
          let part := (text.drop start).take (finish - start)
          s.heading name ':' line.number offset ++ octetsLike line.text part ++ [s.ending]
  else
    s.heading name (if isSelected then ':' else '-') line.number line.offset ++ line.text ++ [s.ending]

/-- Shows the selected lines with those around them; `used` says whether lines have been
shown before. -/
def showContexts (s : Search) (name : Octets) (used : Bool) (lines found : List NumberedLine) :
    Octets × Bool :=
  let wanted := if s.showsAround then lines.filter fun line =>
      found.any fun f => f.number ≤ line.number + s.before && line.number ≤ f.number + s.after
    else found
  let isFound (line : NumberedLine) : Bool := found.any (·.number = line.number)
  let (shown, _, used) := wanted.foldl (fun (shown, last?, used) line =>
    let gap := s.showsAround && used && last? != some (line.number - 1)
    let separator : Octets := if gap && !s.onlyParts then ['-', '-', '\n'] else []
    ((separator ++ s.shownLine name (!s.showsAround || isFound line) line) :: shown,
      some line.number, true)) (([], none, used) : List Octets × Option Nat × Bool)
  (shown.reverse.flatten, used)

/-- Searches a file; gives whether something was found, and whether lines have been shown
so far. -/
def inContent (s : Search) (name : Octets) (used : Bool) (content : Octets) :
    Task (Bool × Bool) := do
  let isBinary := !s.asText &&
    ((content.contains (Char.ofNat 0) && s.ending = '\n') || (Octets.toString? content).isNone)
  if isBinary && s.skipsBinary then return (false, used)
  let lines := numberedLines s.ending content
  let enough := s.silent || s.names?.isSome || (isBinary && !s.counts)
  let found := s.selected (if enough then some (min 1 (s.most?.getD 1)) else s.most?) lines
  let any := !found.isEmpty
  if s.silent then return (any, used)
  if s.counts ∧ s.names?.isNone then
    Task.write ((if s.named then name ++ [':'] else []) ++ Octets.ofNat found.length ++ ['\n'])
    return (any, used)
  match s.names? with
  | some wanted =>
    if any = wanted then Task.write (name ++ ['\n'])
    return (any = wanted, used)
  | none =>
    if isBinary then
      if any then
        Task.write ((← read).title ++ Octets.ofString ": " ++ name ++
          Octets.ofString ": binary file matches\n")
      return (any, used)
    let (shown, used) := s.showContexts name used lines found
    Task.write shown
    return (any, used)

end Search

/-- The files at and below a path, in order. -/
def filesBelow (keep : Octets → Bool) : (depth : Nat) → Octets → Task (List Octets)
  | 0, _ => return []
  | depth + 1, path => do
    match ← Task.find (if path.isEmpty then ['.'] else path) with
    | .ok (place, .directory) =>
      let children ← childrenOf place
      let lists ← children.mapM fun child => do
        let there := if path.isEmpty then child else below path child
        match ← findItself there with
        | .ok (_, .directory) => filesBelow keep depth there
        | .ok (_, .file _) => return if keep child then [there] else []
        | _ => return []
      return lists.flatten
    | _ => return [path]

/-- What is searched for, from the patterns and the options about them. -/
def expressionOf (a : Arguments) (style? : Option Regular.Style) (patterns : List Octets) :
    Except Regular.FormFault Regular := do
  let expressions ← patterns.mapM fun pattern => do
    let text := charactersOf pattern
    let r ← match style? with
      | none => pure (Regular.literal text)
      | some style => Regular.ofText style text
    if a.has 'x' then
      return .sequence (.edge .textStart) (.sequence r (.edge .textEnd))
    if a.has 'w' then
      return .sequence (.edge .behindNoWord) (.sequence r (.edge .beforeNoWord))
    return r
  match expressions.reverse with
  | [] => return .oneOf false []
  | last :: others => return others.foldl (fun r first => .choice first r) last

/-- The ordered expression that is searched for, from the pattern and the options about it. -/
def orderedOf (a : Arguments) (pattern : Octets) :
    Except Regular.OrderedFault Regular.Ordered := do
  let manner : Regular.Manner := { ignoresCase := a.has 'i' || a.has 'y', plainClasses := true }
  match Regular.Ordered.ofText { rest := [], manner } (charactersOf pattern) with
  | .error (fault, _) => throw fault
  | .ok (r, _) =>
    if a.has 'x' then
      return .sequence (.edge manner .textStart) (.sequence r (.edge manner .textEnd))
    if a.has 'w' then
      return .sequence (.edge manner .behindNoWord) (.sequence r (.edge manner .beforeNoWord))
    return r

/-- The number that an option gives, or a complaint. -/
def countOption (a : Arguments) (letter : Char) : Task (Option Nat) := do
  match a.value? letter with
  | none => return none
  | some value =>
    match Octets.nat? value with
    | some n => return some n
    | none =>
      if letter = 'm' then Task.refuse 2 (Octets.ofString "invalid max count")
      Task.refuse 2 (value ++ Octets.ofString ": invalid context length argument")

/-- The options of searching. -/
def searchOptions : Options where
  letters := "EFGPabcHhIiLlnoqRrsTUvwxyzZ"
  valued := "ABCdDefm+=~"
  words := [("extended-regexp", 'E'), ("fixed-strings", 'F'), ("basic-regexp", 'G'),
    ("perl-regexp", 'P'), ("regexp", 'e'), ("file", 'f'), ("ignore-case", 'i'),
    ("invert-match", 'v'), ("word-regexp", 'w'), ("line-regexp", 'x'), ("count", 'c'),
    ("color", '#'), ("colour", '#'), ("files-without-match", 'L'), ("files-with-matches", 'l'),
    ("max-count", 'm'), ("only-matching", 'o'), ("quiet", 'q'), ("silent", 'q'),
    ("no-messages", 's'), ("byte-offset", 'b'), ("with-filename", 'H'), ("no-filename", 'h'),
    ("line-number", 'n'), ("after-context", 'A'), ("before-context", 'B'), ("context", 'C'),
    ("text", 'a'), ("recursive", 'r'), ("dereference-recursive", 'R'), ("null-data", 'z'),
    ("include", '+'), ("exclude", '='), ("exclude-dir", '~'), ("line-buffered", '!'),
    ("binary-files", 'd')]
  optional := "#"
  refusal := 2

/-- Searches files, in the given style unless options say otherwise. -/
def grep (style : Char) : Program := do
  let p ← read
  let arguments := p.arguments.map fun argument =>
    match argument with
    | '-' :: digits => if !digits.isEmpty && digits.all Char.isDigit then "-C".toList ++ digits else argument
    | argument => argument
  let usage : Task Unit := do
    Task.tell (Octets.ofString "Usage: grep [OPTION]... PATTERNS [FILE]...\n" ++
      Octets.ofString "Try 'grep --help' for more information.\n")
    Task.finish 2
  let fuel := (arguments.map List.length).sum + arguments.length + 1
  let a ← match searchOptions.parse fuel arguments with
    | .ok a => pure a
    | .error fault => do
      Task.complain fault.message
      usage
      return 2
  let given ← a.options.foldlM (fun (patterns : List Octets) (letter, value) => do
    if letter = 'e' then return patterns ++ Text.split '\n' value
    if letter = 'f' then
      match ← Task.readOperand value with
      | .ok content => return patterns ++ (Octets.lines content).map Octets.chomp
      | .error errno =>
        Task.complain (value ++ Octets.ofString (": " ++ errno.message))
        Task.finish 2
    return patterns) []
  let (patterns, names) ← if a.has 'e' || a.has 'f' then pure (given, a.operands) else
    match a.operands with
    | pattern :: names => pure (Text.split '\n' pattern, names)
    | [] => do
      usage
      return 2
  let kind := (a.last? "EFGP").getD style
  let (occurs, parts) ← if kind = 'P' then
      match patterns with
      | [pattern] =>
        match orderedOf a pattern with
        | .ok r =>
          let parts (text : List Char) : List (Nat × Nat) :=
            (r.filled (text.length + 2) { rest := text }).map fun part => (part.start, part.finish)
          pure (fun text => (r.find text).isSome, parts)
        | .error fault => Task.refuse 2 (Octets.ofString fault.message)
      | _ => Task.refuse 2 (Octets.ofString "the -P option only supports a single pattern")
    else
      let style? : Option Regular.Style := match kind with
        | 'F' => none
        | 'G' => some {}
        | _ => some { extended := true }
      let manner : Regular.Manner := { ignoresCase := a.has 'i' || a.has 'y' }
      match expressionOf a style? patterns with
      | .ok r =>
        let parts (text : List Char) : List (Nat × Nat) :=
          (Regular.all manner r text).map fun found => (found.start, found.finish)
        pure (Regular.occursIn manner r, parts)
      | .error fault => Task.refuse 2 (Octets.ofString fault.message)
  let most? ← countOption a 'm'
  let around? ← countOption a 'C'
  let before? ← countOption a 'B'
  let after? ← countOption a 'A'
  let recursive := a.has 'r' || a.has 'R'
  let isNamed (letter : Char) (name : Octets) : Bool := a.options.any fun (c, value) =>
    c = letter && Shell.Pattern.isMatch (Shell.Pattern.ofWord (value.map fun c => { octet := c })) name
  let keep (name : Octets) : Bool :=
    (!(a.has '+') || isNamed '+' name) && !isNamed '=' name
  let s : Search :=
    { occurs, parts, most?
      inverted := a.has 'v'
      before := (before?.or around?).getD 0
      after := (after?.or around?).getD 0
      showsAround := before?.isSome || after?.isSome || around?.isSome
      counts := a.has 'c'
      names? := (a.last? "lL").map (· = 'l')
      onlyParts := a.has 'o'
      silent := a.has 'q'
      hidesFaults := a.has 's'
      asText := a.has 'a'
      skipsBinary := a.has 'I'
      numbered := a.has 'n'
      offsets := a.has 'b'
      named := match a.last? "hH" with
        | some c => c = 'H'
        | none => 1 < names.length || recursive
      ending := if a.has 'z' then Char.ofNat 0 else '\n' }
  let roots := if names.isEmpty then [if recursive then [] else ['-']] else names
  let files ← if recursive then do
      let lists ← roots.mapM fun root => if root = ['-'] then pure [root] else
        filesBelow keep 4096 root
      pure lists.flatten
    else pure roots
  let (found, failed, _) ← files.foldlM (fun (found, failed, used) name => do
    if s.silent && found then return (found, failed, used)
    if !s.silent && s.names?.isNone && !s.counts && (← isOutput name) then
      Task.complain (name ++ Octets.ofString ": input file is also the output")
      return (found, true, used)
    match ← Task.readOperand name with
    | .error errno =>
      if !s.hidesFaults then Task.complain (name ++ Octets.ofString (": " ++ errno.message))
      return (found, true, used)
    | .ok content =>
      let shownName := if name = ['-'] then Octets.ofString "(standard input)" else name
      let (any, used) ← s.inContent shownName used content
      return (found || any, failed, used)) ((false, false, false) : Bool × Bool × Bool)
  if failed && !(s.silent && found) then return 2
  return if found then 0 else 1

end ComponentReference.Tool
