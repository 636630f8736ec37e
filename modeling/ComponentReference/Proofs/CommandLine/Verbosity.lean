import ComponentReference.Proofs.CommandLine.Exits

/-!
# What the verbose flag changes

Asked to be verbose, the program does the same, and tells more about it.  Of two command
lines that ask for the same but for this flag, and for no log file, the runs end in the same
way and leave the same world; on the console the one shows what the other shows, without the
records that only a verbose run shows.

## Strategy

The overrides of two command lines may come in another order.  A run looks them up one by
one, so that it cannot tell layers apart that agree in every value (`generate_congr`), and
neither run can the other's threshold: without a log file it is not used before the run has
ended (`Options.run_of_unlogged`).  What is shown then is that of the records that reach the
threshold, and a last line that does not depend on them (`outcome_console`).
-/

namespace ComponentReference

/-! ## A run cannot tell agreeing layers apart -/

/-- The layers have the same value, or none, under every key. -/
def Json.Fields.Agrees (layer layer' : Json.Fields) : Prop :=
  ∀ key, layer.get? key = layer'.get? key

section Agreeing

variable {layer layer' : Json.Fields} (h : layer.Agrees layer')
include h

theorem Json.Fields.Agrees.get (key : String) : layer.get key = layer'.get key := by
  unfold Json.Fields.get
  rw [h key]

theorem Config.merge_congr (c : Config) : c.merge layer = c.merge layer' := by
  unfold merge docTypeOr stringOr nodeOr
  simp only [h "docType", h.get]

theorem Config.mergeRecords_congr : mergeRecords layer = mergeRecords layer' := by
  unfold mergeRecords
  rw [h "docType"]

theorem Config.load_congr (root : Path) : load root layer = load root layer' := by
  unfold load
  simp only [merge_congr h, mergeRecords_congr h]

theorem Run.plan_congr (env : Environment) (path : String) :
    plan env path layer = plan env path layer' := by
  unfold plan
  simp only [Config.load_congr h]

theorem generate_congr (env : Environment) (source : Config → Path → ReportSource)
    (path : String) : generate env source path layer = generate env source path layer' := by
  unfold generate generateWith Run.start
  rw [Run.plan_congr h]

end Agreeing

namespace CommandLine

variable {env : Environment} {source : Config → Path → ReportSource} {time time' : String}
  {o o' : Options} {w w' : World}

/-! ## What is shown of a run -/

/-- The records of a run that are shown on the console. -/
def Options.shown (o : Options) (w : World) : List Record :=
  w.records.filter (·.reaches o.threshold)

/-- Verbose or not, the same is shown but for the records of the lowest level. -/
theorem Options.shown_of_verbose (hverbose : o.verbose = false) (hverbose' : o'.verbose = true)
    (w : World) : o.shown w = (o'.shown w).filter (·.level ≠ .debug) := by
  have hinfo : ∀ r : Record, r.reaches .info = (decide (r.level ≠ .debug) && r.reaches .debug) := by
    rintro ⟨level, reporter, message⟩
    cases level <;> rfl
  unfold Options.shown Options.threshold
  rw [hverbose, hverbose', List.filter_filter]
  exact List.filter_congr fun r _ => hinfo r

/-- What follows the records on the console: a line that names the fault where the program
ends with the status 1, and nothing otherwise. -/
inductive LastLine : Exit → String → Prop
  | none (exit : Exit) (hexit : exit ≠ .status 1) : LastLine exit ""
  | failure (fault : Fault) : LastLine (.status 1) (failureLine fault)

/-- How a run ends does not depend on the records that are shown of it. -/
theorem outcome_console (w : World) (r : Except Fault Run) :
    ∃ exit output ending, LastLine exit ending ∧
      ∀ console, outcome w console r = { exit, output, errors := console ++ ending } := by
  rcases r with fault | run
  · cases hfiles : fault.ofFiles
    · refine ⟨.fault fault, "", "", .none _ (by simp), fun console => ?_⟩
      simp [outcome, hfiles]
    · refine ⟨.status 1, "", failureLine fault, .failure fault, fun console => ?_⟩
      simp [outcome, hfiles, append_failureLine]
  · cases hsummary : summary w run with
    | error fault =>
        refine ⟨.fault fault, "", "", .none _ (by simp), fun console => ?_⟩
        simp [outcome, hsummary]
    | ok text =>
        refine ⟨.normal, text, "", .none _ (by simp), fun console => ?_⟩
        simp [outcome, hsummary]

/-- Without a log file there is nothing to do before the run. -/
theorem Options.run_of_unlogged (hlog : o.logFile = none) {r : Except Fault Run}
    (hrun : (generate env source o.path o.overrides).exec w = (r, w')) :
    o.run env source time w = (outcome w' (consoleText o.threshold w'.records) r, w') := by
  have hopen : (o.openLog time).exec w = (.ok (), w) := by
    unfold Options.openLog
    rw [hlog]
    rfl
  exact Options.run_eq_of_opened hopen hrun

/-! ## Two command lines -/

variable {arguments arguments' : List String} {files : FileSystem} {directory : Location}

/-- Of two command lines that ask for the same, and for no log file, one is verbose.  Both end
in the same way, write the same to the standard output and leave the same world.  Without the
flag the same records are shown as with it, except for those of the lowest level; what follows
them on the console is the same. -/
theorem run_verbose (hread : Options.ofArguments arguments = .ok o)
    (hread' : Options.ofArguments arguments' = .ok o') (hlog : o.logFile = none)
    (hlog' : o'.logFile = none) (hpath : o.path = o'.path)
    (hoverrides : o.overrides.Agrees o'.overrides) (hverbose : o.verbose = false)
    (hverbose' : o'.verbose = true) :
    let plain := run env source time arguments files directory
    let verbose := run env source time' arguments' files directory
    plain.1.exit = verbose.1.exit ∧ plain.1.output = verbose.1.output ∧ plain.2 = verbose.2 ∧
    o.shown plain.2 = (o'.shown verbose.2).filter (·.level ≠ .debug) ∧
    ∃ ending, LastLine plain.1.exit ending ∧
      plain.1.errors = String.join ((o.shown plain.2).map Record.consoleLine) ++ ending ∧
      verbose.1.errors = String.join ((o'.shown verbose.2).map Record.consoleLine) ++ ending := by
  intro plain verbose
  rcases hrun : (generate env source o.path o.overrides).exec { files, directory } with ⟨r, w⟩
  have hrun' : (generate env source o'.path o'.overrides).exec { files, directory } = (r, w) := by
    rw [← hpath, ← generate_congr hoverrides]
    exact hrun
  obtain ⟨exit, output, ending, hending, houtcome⟩ := outcome_console w r
  have hplain : plain = (outcome w (consoleText o.threshold w.records) r, w) := by
    unfold plain run runWith
    rw [hread]
    exact Options.run_of_unlogged hlog hrun
  have hverboseRun : verbose = (outcome w (consoleText o'.threshold w.records) r, w) := by
    unfold verbose run runWith
    rw [hread']
    exact Options.run_of_unlogged hlog' hrun'
  rw [hplain, hverboseRun, houtcome, houtcome]
  exact ⟨rfl, rfl, rfl, Options.shown_of_verbose hverbose hverbose' w, ending, hending, rfl, rfl⟩

end CommandLine

/-! ## A project with one component -/

namespace Sample

/-- A project with one component. -/
def single : World :=
  world (directories ++ [(["w", "c", "A.vue"], file "")]) []

/-- A source with the same report on every component. -/
def naming : Config → Path → ReportSource := fun _ _ => .fixed fun _ => report "A" ""

end Sample

/-- A verbose run of the project shows more, but the outcome is the same. -/
theorem CommandLine.run_verbose_single :
    let plain := run Sample.env Sample.naming ""
      ["--components-dir", "c", "--out-dir", "o", "-f", "md"] Sample.single.files ["w"]
    let verbose := run Sample.env Sample.naming ""
      ["-v", "--out-dir", "o", "--components-dir", "c", "-f", "md"] Sample.single.files ["w"]
    plain.1.exit = verbose.1.exit ∧ plain.1.output = verbose.1.output ∧
      plain.2 = verbose.2 ∧ plain.1.errors ≠ verbose.1.errors := by
  have hread : Options.ofArguments ["--components-dir", "c", "--out-dir", "o", "-f", "md"] =
      .ok { overrides := [("componentsDir", .str "c"), ("outDir", .str "o"),
              ("docType", .str "md")] } := by rfl
  have hread' : Options.ofArguments ["-v", "--out-dir", "o", "--components-dir", "c", "-f", "md"] =
      .ok { verbose := true
            overrides := [("outDir", .str "o"), ("componentsDir", .str "c"),
              ("docType", .str "md")] } := by rfl
  have hoverrides : Json.Fields.Agrees
      [("componentsDir", .str "c"), ("outDir", .str "o"), ("docType", .str "md")]
      [("outDir", .str "o"), ("componentsDir", .str "c"), ("docType", .str "md")] := by
    intro key
    by_cases hdir : key = "componentsDir"
    · rw [hdir]
      rfl
    · simp only [Json.Fields.get?, List.lookup_cons, beq_eq_false_iff_ne.mpr hdir]
  have hruns := @run_verbose Sample.env Sample.naming "" "" _ _ _ _ Sample.single.files ["w"]
    hread hread' rfl rfl rfl hoverrides rfl rfl
  exact ⟨hruns.1, hruns.2.1, hruns.2.2.1, by decide +kernel⟩

end ComponentReference
