import ComponentReference.Machine.Shell.Launch
import ComponentReference.Proofs.Site.Extracting
import ComponentReference.Proofs.Site.Phases

/-!
# What a run tells of its files

Among all the records that are left in its course, a run has an account of its own.  Between
the number of files that have been found and the index page, the account has one record for
each file, in the order of discovery: where the page of the component has been written, or that
the file is skipped.  So the account agrees with what the run has done, whatever the reports
on the components are.  Nothing is written once the account has come to the index page.

## Strategy

Extraction, the writing of pages and the reading of custom content leave records too, but none
in the account (`Action.Silent`).  What is left is what the run says itself, which is one record
for each file (`documentFile_told`), and by induction one after the other for all of them
(`documentFiles_told`).  A record that `Tells` of a file and the report on it shows by its level
which of the two has become of the file, so that the pages and the skipped files can be read off
the account.
-/

namespace ComponentReference

variable {α β : Type}

/-! ## The account of a run -/

/-- The records of the run itself. -/
def World.account (w : World) : List Record :=
  w.records.filter fun r => r.reporter.name = Reporter.run.name

theorem World.account_report_run (w : World) (level : Level) (message : String) :
    (w.report ⟨level, .run, message⟩).account = w.account ++ [⟨level, .run, message⟩] := by
  rw [account, World.report, List.filter_append]
  rfl

theorem World.account_report_of_ne (w : World) {r : Record}
    (h : r.reporter.name ≠ Reporter.run.name) : (w.report r).account = w.account := by
  have hnone : [r].filter (fun r => r.reporter.name = Reporter.run.name) = [] := by
    simpa using h
  rw [account, World.report, List.filter_append, hnone, List.append_nil, account]

/-- The source leaves the account of a run to the run. -/
def ReportSource.Discreet (source : ReportSource) : Prop :=
  ∀ w file, (source w file).2.account = w.account

theorem ReportSource.discreet_fixed (report : Path → Except Fault Json) :
    (fixed report).Discreet :=
  fun _ _ => rfl

/-- A program that is called leaves no records. -/
theorem Shell.records_call (env : Environment) (w : World) (command : Command) :
    (call env w command).2.records = w.records := by
  unfold call
  dsimp only
  split
  · rfl
  split
  · rfl
  · split
    split <;> rfl

/-- The program's own source leaves the account to the run. -/
theorem discreet_configuredReports (env : Environment) (config : Config) (root : Path) :
    (configuredReports (Shell.call env) config root).Discreet := by
  intro w file
  have hsource : (configuredReports (Shell.call env) config root w file).2 =
      (Shell.call env w
        ⟨config.nodeExecutable, ["-e", parserScript, file.text], some root.text⟩).2 := rfl
  rw [hsource, World.account, Shell.records_call, World.account]

namespace Action

/-- The action leaves nothing in the account of a run. -/
def Silent (a : Action α) : Prop :=
  ∀ w : World, (exec a w).2.account = w.account

theorem silent_pure (a : α) : Silent (pure a : Action α) := fun _ => rfl

theorem silent_get : Silent (get : Action World) := fun _ => rfl

theorem silent_look (f : FileSystem → Location → Except Fault α) : Silent (look f) := by
  intro w
  rw [exec_look]

theorem silent_changePartly (f : FileSystem → Location → Except Fault Unit × FileSystem) :
    Silent (changePartly f) := by
  intro w
  rw [exec_changePartly]
  rfl

theorem silent_report {level : Level} {reporter : Reporter} {message : String}
    (h : reporter.name ≠ Reporter.run.name) : Silent (report level reporter message) := by
  intro w
  rw [exec_report]
  exact w.account_report_of_ne h

theorem Silent.bind {a : Action α} {f : α → Action β} (ha : Silent a) (hf : ∀ x, Silent (f x)) :
    Silent (a >>= f) := by
  intro w
  rw [exec_bind]
  have hfirst := ha w
  rcases hstep : exec a w with ⟨_ | x, w₁⟩ <;> rw [hstep] at hfirst
  · exact hfirst
  · exact (hf x w₁).trans hfirst

theorem Silent.account_eq {a : Action α} (ha : Silent a) {w w' : World} {r : Except Fault α}
    (h : exec a w = (r, w')) : w'.account = w.account := by
  have := ha w
  rwa [h] at this

end Action

theorem silent_writePage (env : Environment) (outDir : Path) (page : Page) :
    (writePage env outDir page).Silent := by
  unfold writePage writeText
  exact (Action.silent_changePartly _).bind fun _ =>
    (Action.silent_report (by decide)).bind fun _ => Action.silent_pure _

theorem silent_readCustomContent (env : Environment) (config : Config) (root : Path) :
    (readCustomContent env config root).Silent := by
  unfold readCustomContent
  split
  · exact Action.silent_pure _
  refine (Action.silent_look _).bind fun path => (Action.silent_look _).bind fun e? => ?_
  split
  · exact (Action.silent_report (by decide)).bind fun _ => Action.silent_pure _
  · refine Action.silent_get.bind fun world => ?_
    split
    · exact Action.silent_pure _
    · exact (Action.silent_report (by decide)).bind fun _ => Action.silent_pure _

theorem silent_extract {source : ReportSource} (hsource : source.Discreet) (file : Path) :
    (extract source file).Silent := by
  intro w
  have hreporter : Reporter.extraction.name ≠ Reporter.run.name := by decide
  rw [exec_extract]
  split
  · exact (World.account_report_of_ne _ hreporter).trans (hsource w file)
  · split
    · exact (World.account_report_of_ne _ hreporter).trans (hsource w file)
    · exact hsource w file

/-! ## What is told of one file -/

/-- The record that a page has been written at the path. -/
def Record.written (path : Path) : Record :=
  ⟨.info, .run, "Generated component doc: " ++ path.text⟩

/-- The record warns that the file is skipped. -/
structure Record.Skips (r : Record) (file : Path) : Prop where
  level : r.level = .warning
  beginning : Text.beginsWith "Skipping" r.message = true
  file : file.text.toList <:+: r.message.toList

/-- What is said of a file without a document for its component. -/
def Record.invalidFile (file : Path) : Record :=
  ⟨.warning, .run, "Skipping invalid component file: " ++ file.text⟩

/-- What is said of a file with a component that has no page for its name. -/
def Record.unsafeName (file : Path) (name : String) : Record :=
  ⟨.warning, .run, "Skipping component " ++ file.text ++ ": display name " ++ Text.quoted name ++
    " is not a valid file name"⟩

theorem Record.skips_invalidFile (file : Path) : (invalidFile file).Skips file where
  level := rfl
  beginning := by simp [invalidFile, Text.beginsWith, String.toList_append]
  file := by
    rw [invalidFile, String.toList_append]
    exact (List.suffix_append _ _).isInfix

theorem Record.skips_unsafeName (file : Path) (name : String) :
    (unsafeName file name).Skips file where
  level := rfl
  beginning := by simp [unsafeName, Text.beginsWith, String.toList_append]
  file := by
    simp only [unsafeName, String.toList_append, List.append_assoc]
    exact List.infix_append' _ _ _

/-- The record tells what has become of a file with a report on it, in a run with that
configuration and output directory. -/
inductive Outcome.Tells (config : Config) (outDir : Path) : Outcome → Record → Prop
  | page {file : Path} {report : Except Fault Json} {d : Document}
      (h : documented? report = some d) :
      Tells config outDir (file, report) (.written (outDir.child (config.pageFile d.name)))
  | skipped {file : Path} {report : Except Fault Json} {r : Record}
      (h : documented? report = none) (hr : r.Skips file) : Tells config outDir (file, report) r

namespace Run

variable {source : ReportSource} {run run' result : Run} {file : Path} {w w' : World}

theorem extract_eq_none (h : (extract source file).exec w = (.ok none, w')) :
    documented? (source w file).1 = none := by
  rw [exec_extract] at h
  unfold documented?
  split at h
  · next fault hd => rw [hd]
  · next d hd =>
      split at h
      · next hname =>
          have hunsafe : Page.isSafeName d.name = false := by
            rw [Document.name, Option.isNone_iff_eq_none.mp hname]
            rfl
          simp [hd, hunsafe]
      · cases h

theorem extract_eq_some {d : Document}
    (h : (extract source file).exec w = (.ok (some d), w')) :
    documented? (source w file).1 = if Page.isSafeName d.name then some d else none := by
  rw [exec_extract] at h
  unfold documented?
  split at h
  · cases h
  · next d' hd =>
      split at h
      · cases h
      · rw [hd, ← Option.some_inj.mp (Except.ok.inj (Prod.mk.inj h).1)]

theorem writePage_ok {outDir path : Path} {page : Page} (hproper : Path.Proper page.filename)
    (h : (writePage env outDir page).exec w = (.ok path, w')) : path = outDir.child page.filename := by
  obtain ⟨r, hexec⟩ := exec_writePage env outDir hproper w
  rw [hexec] at h
  split at h
  · exact (Except.ok.inj (Prod.mk.inj h).1).symm
  · cases h

/-- One record is left for a file, which tells what has become of it. -/
theorem documentFile_told (hsource : source.Discreet)
    (h : (documentFile env source run file).exec w = (.ok run', w')) :
    ∃ r, w'.account = w.account ++ [r] ∧
      Outcome.Tells run.config run.outDir (file, (source w file).1) r ∧
      run'.config = run.config ∧ run'.outDir = run.outDir ∧
      ∀ rest, run'.after rest = run.after ((file, (source w file).1) :: rest) := by
  obtain ⟨d?, w₁, hextract, hrest⟩ := Action.exec_bind_ok h
  have haccount := (silent_extract hsource file).account_eq hextract
  cases d? with
  | none =>
      have hnone := extract_eq_none hextract
      dsimp only at hrest
      rw [Action.exec_report_bind, Action.exec_pure] at hrest
      obtain ⟨hrun, rfl⟩ := Prod.mk.inj hrest
      obtain rfl := Except.ok.inj hrun
      refine ⟨.invalidFile file, ?_, .skipped hnone (Record.skips_invalidFile file), rfl, rfl,
        after_skip hnone file⟩
      rw [World.account_report_run, haccount]
      rfl
  | some d =>
      have hd := extract_eq_some hextract
      dsimp only at hrest
      split at hrest
      · next hsafe =>
          rw [Document.name, if_pos hsafe] at hd
          obtain ⟨page, w₂, hpage, hend⟩ := Action.exec_bind_ok hrest
          have hproper : Path.Proper (Page.ofDocument d run.config).filename :=
            run.config.proper_documentFile hd
          obtain rfl := writePage_ok hproper hpage
          rw [Action.exec_report_bind, Action.exec_pure] at hend
          obtain ⟨hrun, rfl⟩ := Prod.mk.inj hend
          obtain rfl := Except.ok.inj hrun
          refine ⟨_, ?_, .page hd, rfl, rfl, after_withPage hd file⟩
          rw [World.account_report_run, (silent_writePage _ _ _).account_eq hpage, haccount]
          rfl
      · next hsafe =>
          rw [Document.name, if_neg hsafe] at hd
          rw [Action.exec_report_bind, Action.exec_pure] at hrest
          obtain ⟨hrun, rfl⟩ := Prod.mk.inj hrest
          obtain rfl := Except.ok.inj hrun
          refine ⟨.unsafeName file (d.displayName.getD ""), ?_,
            .skipped hd (Record.skips_unsafeName file _), rfl, rfl, after_skip hd file⟩
          rw [World.account_report_run, haccount]
          rfl

/-- The loop over the files leaves one record for each of them, in their order. -/
theorem documentFiles_told (hsource : source.Discreet) (files : List Path) :
    ∀ {run : Run} {w : World}, (documentFiles env source run files).exec w = (.ok result, w') →
      (reports env source run files w).length = files.length ∧
      result = run.after (files.zip (reports env source run files w)) ∧
      ∃ told, w'.account = w.account ++ told ∧
        List.Forall₂ (Outcome.Tells run.config run.outDir)
          (files.zip (reports env source run files w)) told := by
  induction files with
  | nil =>
      intro run w h
      obtain ⟨hrun, rfl⟩ := Prod.mk.inj h
      refine ⟨rfl, ?_, [], (List.append_nil _).symm, .nil⟩
      rw [← Except.ok.inj hrun]
      simp [after, Outcome.skipped, Outcome.documents]
  | cons file rest ih =>
      intro run w h
      obtain ⟨run₁, w₁, hfirst, hrest⟩ := Action.exec_bind_ok h
      obtain ⟨r, haccount, htells, hconfig, houtDir, hafter⟩ := documentFile_told hsource hfirst
      obtain ⟨hlength, hresult, told, hrestAccount, hrestTells⟩ := ih hrest
      have hreports : reports env source run (file :: rest) w =
          (source w file).1 :: reports env source run₁ rest w₁ := by
        rw [reports, hfirst]
      rw [hreports, List.zip_cons_cons]
      refine ⟨?_, hresult.trans (hafter _), r :: told, ?_, .cons htells ?_⟩
      · rw [List.length_cons, List.length_cons, hlength]
      · rw [hrestAccount, haccount, List.append_assoc, List.singleton_append]
      · rwa [hconfig, houtDir] at hrestTells

end Run

/-! ## Reading the account -/

namespace Outcome

variable {config : Config} {outDir : Path} {outcomes : List Outcome} {told : List Record}

/-- The pages that have been written are those in the records that are no warnings. -/
theorem filter_info_told (h : List.Forall₂ (Tells config outDir) outcomes told) :
    told.filter (·.level = .info) =
      (documents outcomes).map fun d => .written (outDir.child (config.pageFile d.name)) := by
  induction h with
  | nil => rfl
  | cons htells _ ih =>
      cases htells with
      | page hd => simp_all [documents, Record.written]
      | skipped hd hr => simp_all [documents, hr.level]

/-- The warnings are about the files that have been skipped. -/
theorem filter_warning_told (h : List.Forall₂ (Tells config outDir) outcomes told) :
    List.Forall₂ (fun file r => r.Skips file) (skipped outcomes)
      (told.filter (·.level = .warning)) := by
  induction h with
  | nil => exact .nil
  | cons htells _ ih =>
      cases htells with
      | page hd => simp_all [skipped, Record.written]
      | skipped hd hr => simp_all [skipped, hr.level]

theorem length_documents_add_length_skipped (outcomes : List Outcome) :
    (documents outcomes).length + (skipped outcomes).length = outcomes.length := by
  induction outcomes with
  | nil => rfl
  | cons outcome rest ih =>
      unfold documents skipped at ih ⊢
      cases h : documented? outcome.2 <;> simp_all <;> omega

end Outcome

/-! ## The whole run -/

/-- The last records of a run that has written its index page. -/
def Record.endings (index : Path) : List Record :=
  [⟨.info, .run, "Generated index: " ++ index.text⟩,
    ⟨.info, .run, "Documentation generation complete"⟩]

/-- A run that has found component files and ends well gives an account of them: between the
number of files and the index page there is one record for each file, in order, which tells
whether the page of its component has been written or the file is skipped.  The written pages
and the skipped files are those of the run.  The index page is the last that is written; after
it only the two last records are left. -/
theorem generateWith_account {env : Environment} {find : Finder}
    {source : Config → Path → ReportSource} {path : String} {overrides : Json.Fields}
    {w w₀ w' : World} {root : Path} {run result : Run} {files : List Path}
    (hstart : (Run.start env find path overrides).exec w = (.ok (root, run, files), w₀))
    (h : (generateWith env find source path overrides).exec w = (.ok result, w'))
    (hfiles : files ≠ []) (hsource : (source run.config root).Discreet) :
    ∃ (reports : List (Except Fault Json)) (told : List Record) (index : Path),
      reports = Run.reports env (source run.config root) run files (w₀.report (Run.foundRecord files)) ∧
      reports.length = files.length ∧
      w'.account = w₀.account ++ Run.foundRecord files :: told ++ Record.endings index ∧
      List.Forall₂ (Outcome.Tells run.config run.outDir) (files.zip reports) told ∧
      told.filter (·.level = .info) = result.written.map Record.written ∧
      List.Forall₂ (fun file r => r.Skips file) result.skipped
        (told.filter (·.level = .warning)) ∧
      result.written.length + result.skipped.length = files.length ∧
      result.indexPath = some index ∧
      ∃ documented w₁ custom w₂ w₃,
        (Run.documentFiles env (source run.config root) run files).exec
            (w₀.report (Run.foundRecord files)) = (.ok documented, w₁) ∧
        (readCustomContent env documented.config root).exec w₁ = (.ok custom, w₂) ∧
        (writePage env documented.outDir (Page.index documented.config documented.entries custom)).exec
            w₂ = (.ok index, w₃) ∧
        w' = (Record.endings index).foldl World.report w₃ := by
  have hrun := Run.eq_of_start hstart
  have hgenerate : (generateWith env find source path overrides).exec w =
      (Run.document env (source run.config root) root run files).exec w₀ :=
    Action.exec_bind_of_ok hstart _
  rw [hgenerate] at h
  obtain ⟨hnil, -⟩ | ⟨-, documented, w₁, hloop, hindex⟩ := Run.document_phases h
  · exact absurd hnil hfiles
  obtain ⟨custom, w₂, hcustom, hwrite⟩ := Action.exec_bind_ok hindex
  obtain ⟨index, w₃, hpage, hend⟩ := Action.exec_bind_ok hwrite
  rw [Action.exec_report_bind, Action.exec_report_bind, Action.exec_pure] at hend
  obtain ⟨hresult, rfl⟩ := Prod.mk.inj hend
  obtain rfl := Except.ok.inj hresult
  obtain ⟨hlength, hafter, told, haccount, htells⟩ := Run.documentFiles_told hsource files hloop
  generalize Run.reports env (source run.config root) run files
    (w₀.report (Run.foundRecord files)) = reports at hlength hafter htells ⊢
  have hwritten : documented.written = (Outcome.documents (files.zip reports)).map fun d =>
      run.outDir.child (run.config.pageFile d.name) := by
    rw [hafter, hrun]
    exact List.nil_append _
  have hskipped : documented.skipped = Outcome.skipped (files.zip reports) := by
    rw [hafter, hrun]
    exact List.nil_append _
  refine ⟨reports, told, index, rfl, hlength, ?_, htells, ?_, ?_, ?_, rfl, documented, w₁, custom,
    w₂, w₃, hloop, hcustom, hpage, rfl⟩
  · rw [World.account_report_run, World.account_report_run,
      (silent_writePage _ _ _).account_eq hpage,
      (silent_readCustomContent _ _ _).account_eq hcustom, haccount, Run.foundRecord,
      World.account_report_run]
    simp [Record.endings]
  · rw [Outcome.filter_info_told htells, hwritten, List.map_map]
    rfl
  · rw [hskipped]
    exact Outcome.filter_warning_told htells
  · rw [hwritten, hskipped, List.length_map, Outcome.length_documents_add_length_skipped,
      List.length_zip, hlength, Nat.min_self]

/-- Two components with the same name, and a file without a report between them. -/
theorem generateWith_account_same_name :
    ∃ (result : Run) (w' : World) (told : List Record),
      (generateWith Sample.env (fun _ => pure (Sample.files ["A.vue", "B.vue", "C.vue"]))
        (fun _ _ => .fixed (Sample.reports
          [("A.vue", Sample.report "A" ""), ("C.vue", Sample.report "A" "again")])) "."
        Sample.overrides).exec (Sample.world Sample.directories []) = (.ok result, w') ∧
      w'.account = (Sample.found (Sample.files ["A.vue", "B.vue", "C.vue"])).account ++
        ⟨.info, .run, "Found 3 component files"⟩ :: told ++
          Record.endings ⟨.slash, ["w", "o", "index.md"]⟩ ∧
      told.filter (·.level = .info) =
        [.written ⟨.slash, ["w", "o", "A.md"]⟩, .written ⟨.slash, ["w", "o", "A.md"]⟩] ∧
      List.Forall₂ (fun file r => r.Skips file) (Sample.files ["B.vue"])
        (told.filter (·.level = .warning)) := by
  have hstart := @Sample.exec_start (Sample.files ["A.vue", "B.vue", "C.vue"]) (by decide +kernel)
  have hok : ((generateWith Sample.env (fun _ => pure (Sample.files ["A.vue", "B.vue", "C.vue"]))
      (fun _ _ => .fixed (Sample.reports
        [("A.vue", Sample.report "A" ""), ("C.vue", Sample.report "A" "again")])) "."
      Sample.overrides).exec (Sample.world Sample.directories [])).1 =
        .ok { Sample.run with
          written := [⟨.slash, ["w", "o", "A.md"]⟩, ⟨.slash, ["w", "o", "A.md"]⟩]
          skipped := Sample.files ["B.vue"]
          entries := [⟨"A", ""⟩, ⟨"A", "again"⟩]
          indexPath := some ⟨.slash, ["w", "o", "index.md"]⟩ } := by
    decide +kernel
  have hexec := Action.exec_eq_of_fst hok
  obtain ⟨-, told, index, -, -, haccount, -, hinfo, hwarning, -, hindex, -⟩ :=
    generateWith_account hstart hexec (List.cons_ne_nil _ _) (ReportSource.discreet_fixed _)
  obtain rfl := Option.some_inj.mp hindex
  exact ⟨_, _, told, hexec, haccount, hinfo, hwarning⟩

end ComponentReference
