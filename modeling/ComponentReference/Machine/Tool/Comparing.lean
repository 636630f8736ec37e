import ComponentReference.Machine.Tool.Moving
import ComponentReference.Machine.Tool.Reading

/-!
# Programs that compare files

They tell whether and where files differ: octet by octet, or line by line.
-/

namespace ComponentReference.Tool

/-! ## Octets -/

/-- Compares two files octet by octet. -/
def cmp : Program := do
  let a ← Options.taken { letters := "bls", valued := "in", refusal := 2, namesAdvice := true, words :=
    [("print-bytes", 'b'), ("ignore-initial", 'i'), ("verbose", 'l'), ("bytes", 'n'),
      ("quiet", 's'), ("silent", 's')] }
  let title := (← read).title
  let (first, second) ← match a.operands with
    | [] =>
      Task.complain (Octets.ofString "missing operand after '" ++ title ++ ['\''])
      Task.complain (Octets.ofString "Try '" ++ title ++ Octets.ofString " --help' for more information.")
      Task.finish 2
    | [first] => pure (first, ['-'])
    | first :: second :: _ => pure (first, second)
  let content (name : Octets) : Task Octets := do
    match ← Task.readOperand name with
    | .ok content => return content
    | .error errno =>
      if !(a.has 's') then Task.complain (name ++ Octets.ofString (": " ++ errno.message))
      Task.finish 2
  let s ← content first
  let t ← content second
  let (s, t) := match (a.value? 'n').bind Octets.nat? with
    | some n => (s.take n, t.take n)
    | none => (s, t)
  if s = t then return 0
  if a.has 's' then return 1
  let same := ((s.zip t).takeWhile fun (x, y) => x = y).length
  let line := (s.take same).count '\n' + 1
  let shorter := if s.length < t.length then (first, s) else (second, t)
  let ended (more : Octets) : Octets :=
    if shorter.2.isEmpty then Octets.ofString "EOF on " ++ shorter.1 ++ Octets.ofString " which is empty"
    else Octets.ofString "EOF on " ++ shorter.1 ++ Octets.ofString " after byte " ++
      Octets.ofNat shorter.2.length ++ more
  if a.has 'l' then
    let width := (Octets.ofNat (max s.length t.length)).length
    let octal (c : Char) : Octets := padLeft 3 (Octets.digits 8 c.toNat)
    Task.write ((((s.zip t).zipIdx 1).filter fun ((x, y), _) => x ≠ y).flatMap fun ((x, y), n) =>
      padLeft width (Octets.ofNat n) ++ ' ' :: octal x ++ ' ' :: octal y ++ ['\n'])
    if s.length ≠ t.length then Task.complain (ended [])
    return 1
  if same = min s.length t.length then
    let whole := shorter.2.getLast? = some '\n'
    Task.complain (ended (Octets.ofString (if whole then ", line " else ", in line ") ++
      Octets.ofNat (if whole then line - 1 else line)))
  else
    Task.write (first ++ ' ' :: second ++ Octets.ofString " differ: byte " ++ Octets.ofNat (same + 1) ++
      Octets.ofString ", line " ++ Octets.ofNat line ++ ['\n'])
  return 1

/-! ## Lines -/

/-- What becomes of a line. -/
inductive Edit where
  | keep (line : Octets)
  | drop (line : Octets)
  | add (line : Octets)
deriving DecidableEq

/-- How long the longest common part is of what follows each place of the second list, for
one more line of the first. -/
def commonRow (same : Octets → Octets → Bool) (line : Octets) (second : List Octets)
    (below : List Nat) : List Nat :=
  -- the row below has one entry more than the second list has lines
  let rec go : List Octets → List Nat → List Nat
    | other :: rest, here :: diagonal :: further =>
      let row := go rest (diagonal :: further)
      (if same line other then diagonal + 1 else max here (row.head?.getD 0)) :: row
    | _, _ => [0]
  go second below

/-- The rows for all beginnings of what is left of the first list. -/
def commonTable (same : Octets → Octets → Bool) (first second : List Octets) : List (List Nat) :=
  first.foldr (fun line rows => match rows with
    | below :: _ => commonRow same line second below :: rows
    | [] => []) [List.replicate (second.length + 1) 0]

/-- The edits that make the second list of the first. -/
def editsBetween (same : Octets → Octets → Bool) : (fuel : Nat) → List Octets → List Octets →
    List (List Nat) → List Edit
  | 0, _, _, _ => []
  | _, [], second, _ => second.map .add
  | _, first, [], _ => first.map .drop
  | fuel + 1, a :: first, b :: second, rows =>
    let shifted (rows : List (List Nat)) : List (List Nat) := rows.map (·.drop 1)
    if same a b then .keep a :: editsBetween same fuel first second (shifted (rows.drop 1))
    else
      let without := (((rows[1]?).getD []).head?).getD 0
      let withMore := (((rows[0]?).getD [])[1]?).getD 0
      if withMore ≤ without then .drop a :: editsBetween same fuel first (b :: second) (rows.drop 1)
      else .add b :: editsBetween same fuel (a :: first) second (shifted rows)

/-- Lines that are dropped and added in one place. -/
structure Hunk where
  /-- How many lines are in front of it in each file. -/
  first : Nat
  second : Nat
  dropped : List Octets
  added : List Octets

/-- The places at which edits change something. -/
def hunksOf (edits : List Edit) : List Hunk :=
  let close (open? : Option Hunk) (hunks : List Hunk) : List Hunk :=
    match open? with
    | some h => h :: hunks
    | none => hunks
  let (hunks, open?, _, _) := edits.foldl (fun (hunks, open?, i, j) edit =>
    let current : Hunk := open?.getD ⟨i, j, [], []⟩
    match edit with
    | .keep _ => (close open? hunks, none, i + 1, j + 1)
    | .drop line => (hunks, some { current with dropped := current.dropped ++ [line] }, i + 1, j)
    | .add line => (hunks, some { current with added := current.added ++ [line] }, i, j + 1))
    (([], none, 0, 0) : List Hunk × Option Hunk × Nat × Nat)
  (close open? hunks).reverse

/-- A line behind a sign, and a remark if nothing ends it. -/
def signed (sign : String) (line : Octets) : Octets :=
  Octets.ofString sign ++ Octets.chomp line ++ ['\n'] ++
    if line.getLast? = some '\n' then [] else Octets.ofString "\\ No newline at end of file\n"

/-- A range of lines: where it begins and ends, or the line in front of it if it is empty. -/
def rangeText (before count : Nat) : Octets :=
  if count ≤ 1 then Octets.ofNat (before + count)
  else Octets.ofNat (before + 1) ++ ',' :: Octets.ofNat (before + count)

/-- A hunk as it is shown on its own. -/
def Hunk.shown (h : Hunk) : Octets :=
  let letter := if h.dropped.isEmpty then 'a' else if h.added.isEmpty then 'd' else 'c'
  rangeText h.first h.dropped.length ++ letter :: rangeText h.second h.added.length ++ ['\n'] ++
    h.dropped.flatMap (signed "< ") ++
    (if letter = 'c' then Octets.ofString "---\n" else []) ++ h.added.flatMap (signed "> ")

/-- A range of lines in front of a group of hunks. -/
def unifiedRange (before count : Nat) : Octets :=
  if count = 1 then Octets.ofNat (before + 1)
  else Octets.ofNat (if count = 0 then before else before + 1) ++ ',' :: Octets.ofNat count

/-- Edits with those around them, as long as no more lines are kept than twice as many as
are to be shown around changes. -/
def unified (around : Nat) (edits : List Edit) : Octets :=
  let marked := edits.zipIdx
  let isChange : Edit → Bool
    | .keep _ => false
    | _ => true
  let changes := (marked.filter fun (e, _) => isChange e).map Prod.snd
  let groups := changes.foldl (fun (groups : List (Nat × Nat)) i =>
    match groups with
    | (start, finish) :: others =>
      if i ≤ finish + 2 * around + 1 then (start, i) :: others else (i, i) :: groups
    | [] => [(i, i)]) []
  groups.reverse.flatMap fun (start, finish) =>
    let low := start - around
    let part := (edits.take (finish + around + 1)).drop low
    let count (keep : Edit → Bool) (es : List Edit) : Nat := (es.filter keep).length
    let inFirst : Edit → Bool
      | .add _ => false
      | _ => true
    let inSecond : Edit → Bool
      | .drop _ => false
      | _ => true
    let before := edits.take low
    Octets.ofString "@@ -" ++ unifiedRange (count inFirst before) (count inFirst part) ++
      Octets.ofString " +" ++ unifiedRange (count inSecond before) (count inSecond part) ++
      Octets.ofString " @@\n" ++ part.flatMap fun e =>
        match e with
        | .keep line => signed " " line
        | .drop line => signed "-" line
        | .add line => signed "+" line

/-- Compares two files line by line. -/
def diffFiles (a : Arguments) (first second : Octets) : Task Nat := do
  let content (name : Octets) : Task (Option Octets) := do
    match ← Task.readOperand name with
    | .ok content => return some content
    | .error errno =>
      Task.complain (name ++ Octets.ofString (": " ++ errno.message))
      return none
  match ← content first, ← content second with
  | some s, some t =>
    let isBlank (c : Char) : Bool := c = ' ' ∨ c = '\t' ∨ c = '\n'
    let key (line : Octets) : Octets :=
      let line := if a.has 'i' then line.map Char.toLower else line
      if a.has 'w' then line.filter fun c => !isBlank c
      else if a.has 'b' then
        Octets.unwords ((Text.split ' ' (line.map fun c => if isBlank c then ' ' else c)).filter (!·.isEmpty))
      else line
    let same (x y : Octets) : Bool := key x = key y
    let lines := Octets.lines s
    let others := Octets.lines t
    let isSame := lines.length = others.length && (lines.zip others).all fun (x, y) => same x y
    if isSame then
      if a.has 's' then
        Task.write (Octets.ofString "Files " ++ first ++ Octets.ofString " and " ++ second ++
          Octets.ofString " are identical\n")
      return 0
    if a.has 'q' then
      Task.write (Octets.ofString "Files " ++ first ++ Octets.ofString " and " ++ second ++
        Octets.ofString " differ\n")
      return 1
    if s.contains (Char.ofNat 0) || t.contains (Char.ofNat 0) then
      Task.write (Octets.ofString "Binary files " ++ first ++ Octets.ofString " and " ++ second ++
        Octets.ofString " differ\n")
      return 1
    -- equal lines at both ends need no table
    let front := ((lines.zip others).takeWhile fun (x, y) => same x y).length
    let (lines', others') := (lines.drop front, others.drop front)
    let back := ((lines'.reverse.zip others'.reverse).takeWhile fun (x, y) => same x y).length
    let (middle, middle') := (lines'.take (lines'.length - back), others'.take (others'.length - back))
    let table := commonTable same middle middle'
    let edits := (lines.take front).map .keep ++
      editsBetween same (middle.length + middle'.length + 1) middle middle' table ++
      (lines.drop (lines.length - back)).map .keep
    let around? : Option Nat := if a.has 'U' then some (((a.value? 'U').bind Octets.nat?).getD 3)
      else if a.has 'u' then some 3 else none
    match around? with
    | some around =>
      let label (name : Octets) : Octets := name ++ Octets.ofString "\t2000-01-01 00:00:00.000000000 +0000\n"
      Task.write (Octets.ofString "--- " ++ label first ++ Octets.ofString "+++ " ++ label second ++
        unified around edits)
    | none => Task.write ((hunksOf edits).flatMap Hunk.shown)
    return 1
  | _, _ => return 2

/-- Compares two files, or those of the same names in two directories. -/
def diff : Program := do
  let a ← Options.taken { letters := "abBcdeilNpqrstuvwy", valued := "CUILW", refusal := 2, namesAdvice := true, words :=
    [("brief", 'q'), ("report-identical-files", 's'), ("unified", 'u'), ("context", 'c'),
      ("ignore-case", 'i'), ("ignore-all-space", 'w'), ("ignore-space-change", 'b'),
      ("recursive", 'r'), ("new-file", 'N'), ("label", 'L'), ("text", 'a')], optional := "uc" }
  let title := (← read).title
  let usage (message : Octets) : Task (Octets × Octets) := do
    Task.complain message
    Task.complain (Octets.ofString "Try '" ++ title ++ Octets.ofString " --help' for more information.")
    Task.finish 2
  let (first, second) ← match a.operands with
    | [first, second] => pure (first, second)
    | _ :: _ :: extra :: _ => usage (Octets.ofString "extra operand '" ++ extra ++ ['\''])
    | operands => usage (Octets.ofString "missing operand after '" ++
        (operands.getLast?).getD title ++ ['\''])
  let missing ← [first, second].filterMapM fun name => do
    if name = ['-'] then return none
    match ← Task.find name with
    | .error errno => return some (name, errno)
    | .ok _ => return none
  if !missing.isEmpty then
    for (name, errno) in missing do
      Task.complain (name ++ Octets.ofString (": " ++ errno.message))
    return 2
  let firstIs ← Task.isDirectory first
  let secondIs ← Task.isDirectory second
  match firstIs, secondIs with
  | true, false => diffFiles a (below first (lastName second)) second
  | false, true => diffFiles a first (below second (lastName first))
  | false, false => diffFiles a first second
  | true, true => directories a 4096 first second
where
  /-- Compares what is in two directories. -/
  directories (a : Arguments) : (depth : Nat) → Octets → Octets → Task Nat
    | 0, _, _ => return 2
    | depth + 1, first, second => do
      match ← Task.find first, ← Task.find second with
      | .ok (place, _), .ok (place', _) =>
        let names ← childrenOf place
        let names' ← childrenOf place'
        let all := (names ++ names'.filter fun n => !names.contains n).mergeSort Octets.le
        Task.worst all fun name => do
          let only (directory : Octets) : Task Nat := do
            Task.write (Octets.ofString "Only in " ++ directory ++ Octets.ofString ": " ++ name ++ ['\n'])
            return 1
          if !names'.contains name then only first
          else if !names.contains name then only second
          else
            let x := below first name
            let y := below second name
            match ← Task.isDirectory x, ← Task.isDirectory y with
            | true, true =>
              if a.has 'r' then directories a depth x y
              else
                Task.write (Octets.ofString "Common subdirectories: " ++ x ++ Octets.ofString " and " ++
                  y ++ ['\n'])
                return 0
            | false, false =>
              if !(a.has 'q') then
                let option := if a.has 'r' then Octets.ofString "diff -r " else Octets.ofString "diff "
                let (s, t) := (← Task.readFile x, ← Task.readFile y)
                if s.toOption ≠ t.toOption then Task.write (option ++ x ++ ' ' :: y ++ ['\n'])
              diffFiles a x y
            | isFirst, _ =>
              let kind (isDirectory : Bool) : Octets :=
                Octets.ofString (if isDirectory then "a directory" else "a regular file")
              Task.write (Octets.ofString "File " ++ x ++ Octets.ofString " is " ++ kind isFirst ++
                Octets.ofString " while file " ++ y ++ Octets.ofString " is " ++ kind (!isFirst) ++ ['\n'])
              return 1
      | _, _ => return 2

end ComponentReference.Tool
