import ComponentReference.CommandLine.Run
import ComponentReference.Proofs.Site.Stopping

/-!
# How a command line ends

A command line that can be read ends with the status 1, and with a line that names the fault,
exactly if its run stops at a fault of the file system.  Two operations are no part of the
run, and no other fault of the file system is left over from the command line: the log file
is opened before it, and when it has ended well, it is told what was done from the working
directory, which may be gone then.

## Strategy

Where the run can stop is known (`exec_generateWith_error_iff`).  What remains is to tell
apart how the log file was opened and how the run ended (`Options.cases_of_run`).
-/

namespace ComponentReference

namespace CommandLine

variable {env : Environment} {source : Config → Path → ReportSource} {time : String}
  {o : Options} {w w₁ w₂ : World} {fault : Fault}

/-! ## What is shown -/

/-- Whatever follows the text begins a line. -/
def EndsLine (s : String) : Prop :=
  s = "" ∨ ∃ before, s = before ++ "\n"

theorem endsLine_consoleText (threshold : Level) (records : List Record) :
    EndsLine (consoleText threshold records) := by
  unfold consoleText
  rcases List.eq_nil_or_concat (records.filter (·.reaches threshold)) with h | ⟨before, r, h⟩
  · exact .inl (by rw [h]; rfl)
  · refine .inr ⟨String.join (before.map Record.consoleLine) ++
      ("[compdoc] " ++ r.level.label ++ " " ++ r.message), ?_⟩
    rw [h]
    simp [Record.consoleLine, String.append_assoc]

/-- The line that names a fault. -/
def failureLine (fault : Fault) : String :=
  "compdoc failed: " ++ fault.message ++ "\n"

theorem append_failureLine (console : String) (fault : Fault) :
    console ++ programName ++ " failed: " ++ fault.message ++ "\n" =
      console ++ failureLine fault := by
  have hname : "compdoc failed: " = programName ++ " failed: " := by rfl
  unfold failureLine
  rw [hname]
  simp only [String.append_assoc]

/-! ## How the run of the options ends -/

namespace Options

theorem run_of_unopened (hopen : (o.openLog time).exec w = (.error fault, w₁)) :
    (o.run env source time w).1 = { exit := .fault fault } := by
  unfold Options.run runWith
  rw [Action.exec] at hopen
  rw [hopen]

theorem run_eq_of_opened {r : Except Fault Run} (hopen : (o.openLog time).exec w = (.ok (), w₁))
    (hrun : (generate env source o.path o.overrides).exec w₁ = (r, w₂)) :
    o.run env source time w = (outcome w₂ (consoleText o.threshold w₂.records) r, w₂) := by
  unfold Options.run runWith
  rw [Action.exec, generate] at hrun
  rw [Action.exec] at hopen
  rw [hopen]
  dsimp only
  rw [hrun]

theorem run_of_opened {r : Except Fault Run} (hopen : (o.openLog time).exec w = (.ok (), w₁))
    (hrun : (generate env source o.path o.overrides).exec w₁ = (r, w₂)) :
    (o.run env source time w).1 = outcome w₂ (consoleText o.threshold w₂.records) r := by
  rw [run_eq_of_opened hopen hrun]

/-- The log file is opened, and the run stops at the fault. -/
def Stops (o : Options) (env : Environment) (source : Config → Path → ReportSource)
    (time : String) (w : World) (fault : Fault) : Prop :=
  ∃ w₁, (o.openLog time).exec w = (.ok (), w₁) ∧
    Run.Stops env (discover env componentSuffix) source o.path o.overrides w₁ fault

/-- The run ends well with an index page, but the working directory is gone. -/
def EndsNowhere (o : Options) (env : Environment) (source : Config → Path → ReportSource)
    (time : String) (w : World) : Prop :=
  ∃ w₁ run w₂, (o.openLog time).exec w = (.ok (), w₁) ∧
    (generate env source o.path o.overrides).exec w₁ = (.ok run, w₂) ∧
    run.indexPath.isSome ∧ w₂.files.isDirectoryAt w₂.directory = false

/-- Where the run stops at a fault of the file system, that is told in a line of its own. -/
theorem run_of_stops (h : o.Stops env source time w fault) :
    ∃ console, EndsLine console ∧ (o.run env source time w).1 =
      if fault.ofFiles then { exit := .status 1, errors := console ++ failureLine fault }
      else { exit := .fault fault, errors := console } := by
  obtain ⟨w₁, hopen, hstops⟩ := h
  obtain ⟨w₂, hrun⟩ : ∃ w₂, (generate env source o.path o.overrides).exec w₁ =
      (.error fault, w₂) := ⟨_, Action.exec_eq_of_fst (exec_generateWith_error_iff.mpr hstops)⟩
  refine ⟨consoleText o.threshold w₂.records, endsLine_consoleText _ _, ?_⟩
  rw [run_of_opened hopen hrun, outcome, append_failureLine]

/-- Where the run ends well, the exit only depends on whether the working directory is left. -/
theorem exit_of_ok {run : Run} (hopen : (o.openLog time).exec w = (.ok (), w₁))
    (hrun : (generate env source o.path o.overrides).exec w₁ = (.ok run, w₂)) :
    (o.run env source time w).1.exit =
      if run.indexPath.isSome ∧ w₂.files.isDirectoryAt w₂.directory = false then
        .fault (.pathless .missing)
      else .normal := by
  rw [run_of_opened hopen hrun, outcome, summary]
  cases run.indexPath with
  | none => simp
  | some index => cases hgone : w₂.files.isDirectoryAt w₂.directory <;> simp

/-- The log file is not opened, or the run stops, or it ends well. -/
theorem cases_of_run (o : Options) (env : Environment) (source : Config → Path → ReportSource)
    (time : String) (w : World) :
    (∃ fault, ((o.openLog time).exec w).1 = .error fault) ∨
    (∃ fault, o.Stops env source time w fault) ∨
    ∃ w₁ run w₂, (o.openLog time).exec w = (.ok (), w₁) ∧
      (generate env source o.path o.overrides).exec w₁ = (.ok run, w₂) := by
  rcases hopen : (o.openLog time).exec w with ⟨fault | ⟨⟨⟩⟩, w₁⟩
  · exact .inl ⟨fault, rfl⟩
  rcases hrun : (generate env source o.path o.overrides).exec w₁ with ⟨fault | run, w₂⟩
  · refine .inr (.inl ⟨fault, w₁, hopen, exec_generateWith_error_iff.mp ?_⟩)
    rw [← generate, hrun]
  · exact .inr (.inr ⟨w₁, run, w₂, rfl, hrun⟩)

theorem exit_eq_status_one_iff : (o.run env source time w).1.exit = .status 1 ↔
    ∃ fault, o.Stops env source time w fault ∧ fault.ofFiles = true := by
  constructor
  · intro hexit
    obtain ⟨fault, hopen⟩ | ⟨fault, hstops⟩ | ⟨w₁, run, w₂, hopen, hrun⟩ :=
      cases_of_run o env source time w
    · rw [run_of_unopened (Action.exec_eq_of_fst hopen)] at hexit
      cases hexit
    · refine ⟨fault, hstops, ?_⟩
      obtain ⟨console, -, hrun⟩ := run_of_stops hstops
      rw [hrun] at hexit
      by_contra hother
      rw [if_neg hother] at hexit
      cases hexit
    · rw [exit_of_ok hopen hrun] at hexit
      split at hexit <;> cases hexit
  · rintro ⟨fault, hstops, hfiles⟩
    obtain ⟨console, -, hrun⟩ := run_of_stops hstops
    rw [hrun, if_pos hfiles]

theorem exit_eq_fault_iff (hfiles : fault.ofFiles = true) :
    (o.run env source time w).1.exit = .fault fault ↔
      ((o.openLog time).exec w).1 = .error fault ∨
        fault = .pathless .missing ∧ o.EndsNowhere env source time w := by
  constructor
  · intro hexit
    obtain ⟨fault', hopen⟩ | ⟨fault', hstops⟩ | ⟨w₁, run, w₂, hopen, hrun⟩ :=
      cases_of_run o env source time w
    · rw [run_of_unopened (Action.exec_eq_of_fst hopen)] at hexit
      obtain rfl := Exit.fault.inj hexit
      exact .inl hopen
    · obtain ⟨console, -, hrun⟩ := run_of_stops hstops
      rw [hrun] at hexit
      split at hexit
      · cases hexit
      · next hother =>
          obtain rfl := Exit.fault.inj hexit
          exact absurd hfiles hother
    · rw [exit_of_ok hopen hrun] at hexit
      split at hexit
      · next hgone => exact .inr ⟨(Exit.fault.inj hexit).symm, w₁, run, w₂, hopen, hrun, hgone⟩
      · cases hexit
  · rintro (hopen | ⟨rfl, w₁, run, w₂, hopen, hrun, hgone⟩)
    · rw [run_of_unopened (Action.exec_eq_of_fst hopen)]
    · rw [exit_of_ok hopen hrun, if_pos hgone]

end Options

/-! ## How a command line ends -/

variable {arguments : List String} {files : FileSystem} {directory : Location}

/-- A command line that can be read ends with the status 1 exactly if its run stops at a fault
of the file system, and then its last line names the fault.  No such fault is left over, but
for one at which the log file is not opened, and where the working directory is gone in the
end. -/
theorem run_exits (hread : Options.ofArguments arguments = .ok o) :
    let out := (run env source time arguments files directory).1
    (out.exit = .status 1 ↔
      ∃ fault, o.Stops env source time { files, directory } fault ∧ fault.ofFiles = true) ∧
    (∀ fault, o.Stops env source time { files, directory } fault → fault.ofFiles = true →
      out.exit = .status 1 ∧ out.output = "" ∧
        ∃ console, EndsLine console ∧ out.errors = console ++ failureLine fault) ∧
    ∀ fault, fault.ofFiles = true → (out.exit = .fault fault ↔
      ((o.openLog time).exec { files, directory }).1 = .error fault ∨
        fault = .pathless .missing ∧ o.EndsNowhere env source time { files, directory }) := by
  intro out
  have hout : out = (o.run env source time { files, directory }).1 := by
    unfold out run runWith
    rw [hread]
    rfl
  rw [hout]
  refine ⟨Options.exit_eq_status_one_iff, fun fault hstops hfiles => ?_,
    fun fault hfiles => Options.exit_eq_fault_iff hfiles⟩
  obtain ⟨console, hconsole, hrun⟩ := Options.run_of_stops hstops
  rw [hrun, if_pos hfiles]
  exact ⟨rfl, rfl, console, hconsole, rfl⟩

end CommandLine

/-! ## A run that stops, and two that leave a fault over -/

namespace Sample

/-- A source without a report. -/
def silent : Config → Path → ReportSource := fun _ _ => .fixed fun _ => .error .reportNotAnObject

/-- A source that removes the working directory before it gives its report. -/
def removing : Config → Path → ReportSource := fun _ _ w _ => (report "A" "", w.without ["w"])

/-- A project with one component, and a directory beside it. -/
def beside : World :=
  world (directories ++ [(["w", "c", "A.vue"], file ""), (["o"], .directory)]) []

end Sample

namespace CommandLine

/-- Without a components directory the command ends with the status 1. -/
theorem run_exits_without_components :
    (run Sample.env Sample.silent "" ["--components-dir", "x"]
      (Sample.world Sample.directories []).files ["w"]).1.exit = .status 1 := by
  have hread : Options.ofArguments ["--components-dir", "x"] =
      .ok { overrides := [("componentsDir", .str "x")] } := by rfl
  obtain ⟨hstatus, -, -⟩ := @run_exits Sample.env Sample.silent "" _ ["--components-dir", "x"]
    (Sample.world Sample.directories []).files ["w"] hread
  refine hstatus.mpr ⟨.componentsMissing "/w/x", ⟨Sample.world Sample.directories [], rfl, ?_⟩, rfl⟩
  exact exec_generateWith_error_iff.mp (by decide +kernel)

/-- A fault is left over where the log file cannot be opened, and where the working directory
is removed during a run that ends well. -/
theorem run_leaves_faults :
    (run Sample.env Sample.silent "" ["--log-file", "n/x.log"]
      (Sample.world Sample.directories []).files ["w"]).1 =
        { exit := .fault (.system .missing "/w/n/x.log") } ∧
    (run Sample.env Sample.removing "" ["--components-dir", "c", "--out-dir", "../o", "-f", "md"]
      Sample.beside.files ["w"]).1.exit = .fault (.pathless .missing) := by
  exact ⟨by rfl, by decide +kernel⟩

end CommandLine

end ComponentReference
