import ComponentReference.Proofs.CommandLine.Verbosity
import ComponentReference.Proofs.Text.Lines

/-!
# Command lines in any order

A command line of words that stand by themselves, which are settings with their values
attached, the flag for verbosity and one path, can be read in any order.  What it asks for is
told by the words: the path is the one that is there, it is verbose if one of them says so,
and of the settings with the same flag the last one counts.  Where no flag comes twice, the
order does not matter at all, neither to what is asked for nor to the run.

## Strategy

Every word is taken for what it is, whatever its value looks like (`Word.ofString_text`),
and the options are taken from the words one after the other (`takeArguments_words`).  The
one word that could be misplaced is the path.  It is taken at once if flags are to come, and
together with all that follows otherwise; but then nothing follows.  What a sequence of words
leaves in each of the options is seen by adding a last word to it.
-/

namespace ComponentReference.CommandLine

/-! ## Words -/

/-- A word of a command line that stands by itself. -/
inductive Word where
  /-- A flag with its value attached to it. -/
  | setting (flag : Flag) (value : String) (hflag : flag.takesValue = true)
      (hvalue : value ≠ Argument.separatorText)
  | verbose (byLetter : Bool)
  | path (text : String) (htext : text.toList.head? ≠ some '-')
deriving DecidableEq

namespace Word

/-- The word as it is written. -/
def text : Word → String
  | setting flag value _ _ => flag.long ++ "=" ++ value
  | verbose true => "-v"
  | verbose false => Flag.verbose.long
  | path text _ => text

/-- The argument that the word is. -/
def argument : Word → Argument
  | setting flag value _ _ => .flag flag false (some value)
  | verbose byLetter => .flag .verbose byLetter none
  | path text _ => .plain text

def path? : Word → Option String
  | path text _ => some text
  | setting .. | verbose _ => none

def isVerbose : Word → Bool
  | verbose _ => true
  | setting .. | path .. => false

/-- The value that the word has for a flag. -/
def value? (flag : Flag) : Word → Option String
  | setting flag' value _ _ => if flag' = flag then some value else none
  | verbose _ | path .. => none

@[simp] theorem value?_setting (flag flag' : Flag) (value : String) (hflag hvalue) :
    (setting flag' value hflag hvalue).value? flag = if flag' = flag then some value else none :=
  rfl

end Word

/-- The last value that the words have for a flag. -/
def lastValue? (flag : Flag) (words : List Word) : Option String :=
  (words.filterMap (Word.value? flag)).getLast?

theorem lastValue?_concat (flag : Flag) (words : List Word) (word : Word) :
    lastValue? flag (words ++ [word]) = (word.value? flag).or (lastValue? flag words) := by
  rw [lastValue?, List.filterMap_append, List.getLast?_append, lastValue?]
  cases hvalue : word.value? flag <;> simp [hvalue]

/-! ## What a word is taken for -/

theorem Flag.not_mem_long (flag : Flag) : '=' ∉ flag.long.toList := by
  cases flag <;> decide +kernel

theorem Flag.exists_long (flag : Flag) : ∃ rest, flag.long.toList = '-' :: '-' :: rest := by
  cases flag <;> exact ⟨_, rfl⟩

/-- A value may have anything in it, since the flag before it has no equality sign. -/
theorem Argument.ofLong_setting (flag : Flag) (value : String) :
    Argument.ofLong (flag.long ++ "=" ++ value) = .ok (.flag flag false (some value)) := by
  have hcut : Text.cutAt? '=' (flag.long ++ "=" ++ value) = some (flag.long, value) :=
    Text.cutAt?_append flag.not_mem_long value
  have hwhole : Flag.ofLong? (flag.long ++ "=" ++ value) = none := by
    rw [Flag.ofLong?, List.find?_eq_none]
    intro flag' _ heq
    have heq := of_decide_eq_true heq
    refine flag'.not_mem_long ?_
    rw [heq]
    simp [String.toList_append]
  rw [Argument.ofLong, hcut, hwhole]
  dsimp only
  rw [Flag.ofLong?_long]

namespace Word

theorem ofString_text (word : Word) : Argument.ofString word.text = .ok word.argument := by
  match word with
  | setting flag value _ _ =>
      obtain ⟨rest, hlong⟩ := flag.exists_long
      rw [text, Argument.ofString, String.toList_append, String.toList_append, hlong]
      exact Argument.ofLong_setting flag value
  | verbose true => rfl
  | verbose false => rfl
  | path text htext =>
      rw [Word.text, Argument.ofString]
      cases hlist : text.toList with
      | nil => rfl
      | cons c rest =>
          rw [hlist, List.head?_cons, ne_eq, Option.some_inj] at htext
          split <;> simp_all [argument]

theorem isFlagLike_argument (word : Word) : word.argument.isFlagLike = word.path?.isNone := by
  cases word <;> rfl

/-- What is neither a flag nor a path is no word. -/
theorem eq_nil_of_no_flag {words : List Word} (hpath : words.filterMap path? = [])
    (hflags : ¬(words.map argument).any Argument.isFlagLike) : words = [] := by
  cases words with
  | nil => rfl
  | cons word rest =>
      have hword : word.path? = none :=
        List.filterMap_eq_nil_iff.mp hpath word List.mem_cons_self
      refine absurd ?_ hflags
      rw [List.map_cons, List.any_cons, word.isFlagLike_argument, hword]
      rfl

theorem text_ne_separator (word : Word) : word.text ≠ Argument.separatorText := by
  match word with
  | setting flag value _ _ =>
      intro heq
      have hmem : '=' ∈ Argument.separatorText.toList := by
        rw [← heq, text]
        simp [String.toList_append]
      exact absurd hmem (by decide)
  | verbose true => decide
  | verbose false => decide
  | path text htext =>
      rintro rfl
      exact htext rfl

end Word

/-- Every word is taken for what it is. -/
theorem Argument.ofStrings_words (words : List Word) :
    Argument.ofStrings (words.map Word.text) = .ok (words.map Word.argument) := by
  induction words with
  | nil => rfl
  | cons word rest ih =>
      rw [List.map_cons, Argument.ofStrings, if_neg word.text_ne_separator,
        word.ofString_text, ih]
      rfl

/-! ## What words ask for -/

/-- The options with one word more. -/
def Options.take (o : Options) : Word → Options
  | .setting flag value _ _ => o.set flag value
  | .verbose _ => { o with verbose := true }
  | .path path _ => { o with path }

/-- The words are taken one after the other, unless a path comes where there is one already. -/
theorem Progress.takeArguments_words {words : List Word} {p : Progress}
    (h : (words.filterMap Word.path?).length ≤ if p.hasPath then 0 else 1) :
    ∃ hasPath, takeArguments (words.map Word.argument) p =
      .ok { p with options := words.foldl Options.take p.options, hasPath } := by
  induction words generalizing p with
  | nil => exact ⟨p.hasPath, rfl⟩
  | cons word rest ih =>
      cases word with
      | setting flag value hflag hvalue =>
          have hhelp : flag ≠ .help := by
            rintro rfl
            cases hflag
          obtain ⟨hasPath, hrest⟩ := @ih { p with options := p.options.set flag value } h
          refine ⟨hasPath, ?_⟩
          rw [List.map_cons, Word.argument, takeArguments, Request.ofFlag, if_pos hflag]
          simpa [takeRequests, hhelp, Request.awaitsValue, Options.take] using hrest
      | verbose byLetter =>
          obtain ⟨hasPath, hrest⟩ := @ih { p with options := { p.options with verbose := true } } h
          exact ⟨hasPath, hrest⟩
      | path text htext =>
          have hfirst : p.hasPath = false := by
            by_contra hpath
            rw [if_pos (by simpa using hpath)] at h
            cases h
          have hnone : rest.filterMap Word.path? = [] := by
            rw [hfirst] at h
            exact List.length_eq_zero_iff.mp (Nat.le_zero.mp (Nat.le_of_succ_le_succ h))
          rw [List.map_cons, Word.argument, takeArguments]
          by_cases hflags : (rest.map Word.argument).any Argument.isFlagLike
          · obtain ⟨hasPath, hrest⟩ := @ih (p.takePath text) (hnone ▸ Nat.zero_le _)
            rw [if_pos hflags, hfirst]
            exact ⟨hasPath, hrest⟩
          · -- without a flag behind it the path is the last word
            refine ⟨true, ?_⟩
            rw [if_neg hflags, Word.eq_nil_of_no_flag hnone hflags]
            simp [takeTail, hfirst, takePath, leave, Options.take]

/-- The last value that the words have for the flag of a key is this one. -/
def Sets (words : List Word) (key : String) (value : Json) : Prop :=
  ∃ flag text, flag.key? = some key ∧ lastValue? flag words = some text ∧ value = .str text

/-- The options are what the words ask for. -/
structure Options.Reads (o : Options) (words : List Word) : Prop where
  path : o.path = (words.filterMap Word.path?).getLast?.getD "."
  verbose : o.verbose = words.any Word.isVerbose
  logFile : o.logFile = (lastValue? .logFile words).map fun value => .file (Path.ofString value)
  /-- No key comes twice. -/
  nodup : (o.overrides.map Prod.fst).Nodup
  overrides : ∀ key value, o.overrides.get? key = some value ↔ Sets words key value

theorem Flag.eq_of_key? {flag flag' : Flag} {key : String} (h : flag.key? = some key)
    (h' : flag'.key? = some key) : flag = flag' := by
  have hkeys : flag.key? = flag'.key? := h.trans h'.symm
  have hsome : flag.key? ≠ none := h ▸ Option.some_ne_none key
  clear h h'
  cases flag <;> cases flag' <;> simp_all [key?]

/-- Only the log file is no setting of the configuration. -/
theorem Flag.eq_logFile {flag : Flag} (hvalue : flag.takesValue = true)
    (hkey : flag.key? = none) : flag = .logFile := by
  cases flag <;> simp_all [takesValue, key?]

section Sets

variable {words : List Word} {flag : Flag} {key text : String} {value : Json}
  (hflag : flag.takesValue = true) (htext : text ≠ Argument.separatorText)
include hflag htext

theorem sets_concat_self (hkey : flag.key? = some key) :
    Sets (words ++ [.setting flag text hflag htext]) key value ↔ value = .str text := by
  have hlast : lastValue? flag (words ++ [.setting flag text hflag htext]) = some text := by
    rw [lastValue?_concat, Word.value?_setting, if_pos rfl, Option.some_or]
  constructor
  · rintro ⟨flag', text', hkey', hlast', rfl⟩
    obtain rfl := Flag.eq_of_key? hkey hkey'
    rw [Option.some_inj.mp (hlast.symm.trans hlast')]
  · exact fun hvalue => ⟨flag, text, hkey, hlast, hvalue⟩

theorem sets_concat_of_ne (hkey : flag.key? ≠ some key) :
    Sets (words ++ [.setting flag text hflag htext]) key value ↔ Sets words key value := by
  refine exists_congr fun flag' => exists_congr fun text' => and_congr_right fun hkey' => ?_
  have hne : flag ≠ flag' := by
    rintro rfl
    exact hkey hkey'
  rw [lastValue?_concat, Word.value?_setting, if_neg hne, Option.none_or]

end Sets

theorem Options.reads_nil : ({} : Options).Reads [] where
  path := rfl
  verbose := rfl
  logFile := rfl
  nodup := List.nodup_nil
  overrides key value := by simp [Json.Fields.get?, Sets, lastValue?]

namespace Options.Reads

variable {o : Options} {words : List Word} (h : o.Reads words)
include h

theorem concat_path (text : String) (htext : text.toList.head? ≠ some '-') :
    (o.take (.path text htext)).Reads (words ++ [.path text htext]) where
  path := by simp [take, Word.path?]
  verbose := by simp [take, Word.isVerbose, h.verbose]
  logFile := by simp [take, lastValue?_concat, Word.value?, h.logFile]
  nodup := h.nodup
  overrides key value := by
    simpa [take, Sets, lastValue?_concat, Word.value?] using h.overrides key value

theorem concat_verbose (byLetter : Bool) :
    (o.take (.verbose byLetter)).Reads (words ++ [.verbose byLetter]) where
  path := by simp [take, Word.path?, h.path]
  verbose := by simp [take, Word.isVerbose]
  logFile := by simp [take, lastValue?_concat, Word.value?, h.logFile]
  nodup := h.nodup
  overrides key value := by
    simpa [take, Sets, lastValue?_concat, Word.value?] using h.overrides key value

theorem concat_logFile {value : String} (hflag : Flag.logFile.takesValue = true)
    (hvalue : value ≠ Argument.separatorText) :
    (o.take (.setting .logFile value hflag hvalue)).Reads
      (words ++ [.setting .logFile value hflag hvalue]) where
  path := by simp [take, set, Flag.key?, Word.path?, h.path]
  verbose := by simp [take, set, Flag.key?, Word.isVerbose, h.verbose]
  logFile := by simp [take, set, Flag.key?, logTarget, hvalue, lastValue?_concat, Word.value?]
  nodup := h.nodup
  overrides key text :=
    (h.overrides key text).trans (sets_concat_of_ne hflag hvalue (by simp [Flag.key?])).symm

theorem concat_setting {flag : Flag} {value : String} (hflag : flag.takesValue = true)
    (hvalue : value ≠ Argument.separatorText) {key : String} (hkey : flag.key? = some key) :
    (o.take (.setting flag value hflag hvalue)).Reads
      (words ++ [.setting flag value hflag hvalue]) := by
  have htake : o.take (.setting flag value hflag hvalue) =
      { o with overrides := Keyed.put Prod.fst (key, .str value) o.overrides } := by
    rw [take]
    unfold set
    rw [hkey, setting, if_neg hvalue]
  have hlog : flag ≠ .logFile := by
    rintro rfl
    cases hkey
  rw [htake]
  refine ⟨?_, ?_, ?_, Keyed.nodup_put _ _ h.nodup, fun key' text => ?_⟩
  · simp [Word.path?, h.path]
  · simp [Word.isVerbose, h.verbose]
  · simp [lastValue?_concat, Word.value?, hlog, h.logFile]
  · rw [Json.Fields.get?, Keyed.lookup_put]
    by_cases hsame : key' = key
    · rw [if_pos hsame, sets_concat_self hflag hvalue (hsame ▸ hkey), Option.some_inj]
      exact eq_comm
    · have hother : flag.key? ≠ some key' := fun heq =>
        hsame (Option.some_inj.mp (heq.symm.trans hkey))
      rw [if_neg hsame, sets_concat_of_ne hflag hvalue hother]
      exact h.overrides key' text

/-- One word more is read as it should be. -/
theorem concat (word : Word) : (o.take word).Reads (words ++ [word]) := by
  match word with
  | .path text htext => exact h.concat_path text htext
  | .verbose byLetter => exact h.concat_verbose byLetter
  | .setting flag value hflag hvalue =>
      cases hkey : flag.key? with
      | some key => exact h.concat_setting hflag hvalue hkey
      | none =>
          obtain rfl := Flag.eq_logFile hflag hkey
          exact h.concat_logFile hflag hvalue

end Options.Reads

theorem Options.reads_foldl (words : List Word) : (words.foldl Options.take {}).Reads words := by
  induction words using List.reverseRecOn with
  | nil => exact reads_nil
  | append_singleton words word ih =>
      rw [List.foldl_append]
      exact ih.concat word

theorem ofArguments_eq_foldl {words : List Word} (h : (words.filterMap Word.path?).length ≤ 1) :
    Options.ofArguments (words.map Word.text) = .ok (words.foldl Options.take {}) := by
  obtain ⟨hasPath, hwords⟩ := @Progress.takeArguments_words words {} h
  rw [Options.ofArguments, Argument.ofStrings_words]
  dsimp only
  rw [hwords]
  rfl

/-! ## The order of the words -/

theorem eq_of_perm_of_length_le_one {α : Type} {l l' : List α} (h : l'.Perm l)
    (hone : l.length ≤ 1) : l' = l := by
  match l, hone, h with
  | [], _, h => exact List.perm_nil.mp h
  | [x], _, h => exact List.perm_singleton.mp h

/-- If no flag has more than one value, options for the same words in another order are the
same. -/
theorem Options.Reads.eq_of_perm {words words' : List Word} (h : words'.Perm words)
    {o o' : Options} (ho : o.Reads words) (ho' : o'.Reads words')
    (hpath : (words.filterMap Word.path?).length ≤ 1)
    (hone : ∀ flag, (words.filterMap (Word.value? flag)).length ≤ 1) :
    o'.path = o.path ∧ o'.verbose = o.verbose ∧ o'.logFile = o.logFile ∧
      o'.overrides.Agrees o.overrides := by
  have hlast : ∀ flag, lastValue? flag words' = lastValue? flag words := fun flag =>
    congrArg List.getLast? (eq_of_perm_of_length_le_one (h.filterMap _) (hone flag))
  refine ⟨?_, ?_, ?_, fun key => Option.ext fun value => ?_⟩
  · rw [ho'.path, ho.path, eq_of_perm_of_length_le_one (h.filterMap _) hpath]
  · rw [ho'.verbose, ho.verbose, h.any_eq]
  · rw [ho'.logFile, ho.logFile, hlast]
  · rw [ho'.overrides, ho.overrides]
    simp only [Sets, hlast]

/-- The same options lead to the same run. -/
theorem Options.run_congr {o o' : Options} (hpath : o'.path = o.path)
    (hverbose : o'.verbose = o.verbose) (hlog : o'.logFile = o.logFile)
    (hoverrides : o'.overrides.Agrees o.overrides) (env : Environment)
    (source : Config → Path → ReportSource) (time : String) (w : World) :
    o'.run env source time w = o.run env source time w := by
  have hthreshold : o'.threshold = o.threshold := by
    rw [threshold, hverbose, threshold]
  have hgenerate := generate_congr hoverrides env source o.path
  unfold generate at hgenerate
  unfold run runWith Options.openLog
  rw [hlog, hpath, hthreshold, hgenerate]

/-- A command line of settings, the flag for verbosity and at most one path can be read, whatever
its order: it asks for what its words ask for.  With the same words in another order, and no
flag with several values, it asks for the same and leads to the same run. -/
theorem ofArguments_words (words : List Word) (h : (words.filterMap Word.path?).length ≤ 1) :
    ∃ o, Options.ofArguments (words.map Word.text) = .ok o ∧ o.Reads words ∧
      ∀ words' : List Word, words'.Perm words →
        (∀ flag, (words.filterMap (Word.value? flag)).length ≤ 1) →
        ∃ o', Options.ofArguments (words'.map Word.text) = .ok o' ∧ o'.path = o.path ∧
          o'.verbose = o.verbose ∧ o'.logFile = o.logFile ∧ o'.overrides.Agrees o.overrides ∧
          ∀ env source time files directory,
            run env source time (words'.map Word.text) files directory =
              run env source time (words.map Word.text) files directory := by
  have hread := Options.reads_foldl words
  refine ⟨_, ofArguments_eq_foldl h, hread, fun words' hperm hone => ?_⟩
  have hpath' : (words'.filterMap Word.path?).length ≤ 1 :=
    (hperm.filterMap Word.path?).length_eq ▸ h
  obtain ⟨hpath, hverbose, hlog, hoverrides⟩ :=
    Options.Reads.eq_of_perm hperm hread (Options.reads_foldl words') h hone
  refine ⟨_, ofArguments_eq_foldl hpath', hpath, hverbose, hlog, hoverrides,
    fun env source time files directory => ?_⟩
  unfold run runWith
  rw [ofArguments_eq_foldl h, ofArguments_eq_foldl hpath']
  exact Options.run_congr hpath hverbose hlog hoverrides env source time _

/-- Words with values that look like other words. -/
def mixedWords : List Word :=
  [.setting .docName "-v" rfl (by decide), .path "p=q" (by decide), .verbose true,
    .setting .outDir "" rfl (by decide), .setting .logFile "--node=n" rfl (by decide)]

theorem ofArguments_words_mixed :
    ∃ o, Options.ofArguments ["--title=-v", "p=q", "-v", "--out-dir=", "--log-file=--node=n"] =
        .ok o ∧
      o.path = "p=q" ∧ o.verbose = true ∧
      o.logFile = some (.file (Path.ofString "--node=n")) ∧
      o.overrides.get? "docName" = some (.str "-v") ∧ o.overrides.get? "outDir" = some (.str "") ∧
      ∃ o', Options.ofArguments
          ["--log-file=--node=n", "--out-dir=", "-v", "p=q", "--title=-v"] = .ok o' ∧
        o'.path = o.path ∧ o'.overrides.Agrees o.overrides := by
  obtain ⟨o, hread, ho, hreordered⟩ := ofArguments_words mixedWords (by decide +kernel)
  have hone : ∀ flag, (mixedWords.filterMap (Word.value? flag)).length ≤ 1 := by
    intro flag
    cases flag <;> decide +kernel
  obtain ⟨o', hread', hpath, -, -, hoverrides, -⟩ :=
    hreordered mixedWords.reverse (List.reverse_perm _) hone
  exact ⟨o, hread, ho.path, ho.verbose, ho.logFile,
    (ho.overrides _ _).mpr ⟨.docName, "-v", rfl, rfl, rfl⟩,
    (ho.overrides _ _).mpr ⟨.outDir, "", rfl, rfl, rfl⟩, o', hread', hpath, hoverrides⟩

end ComponentReference.CommandLine
