import ComponentReference.Proofs.Config.Failing
import ComponentReference.Proofs.Site.Accounting
import ComponentReference.Proofs.Site.Steps

/-!
# Where a run can stop

A run can stop at a fault in ten operations, and in no other: it resolves three paths, reads
the configuration file, makes the output directory, discovers the component files, writes
pages, resolves and looks up the path of the custom content, and writes the index page.  A page
cannot be written if the system refuses its file, and if it cannot be encoded.
`Run.Stops` says of each of them how far the run has come then, and
`exec_discover_error_iff` takes discovery apart further.  Everything else that goes wrong is
reported, and the run goes on.

## Strategy

An action in two parts stops in its first part, or after it in the second
(`Action.exec_bind_error_iff`), so that each phase of a run is taken apart along its
definition.  For the loop over the files it is an induction on them: it stops at one of the
files, up to which it has gone well.
-/

namespace ComponentReference

variable {env : Environment} {find : Finder} {path : String} {overrides : Json.Fields}
  {source : ReportSource} {root : Path} {run : Run} {files : List Path} {w : World}
  {fault : Fault}

/-! ## Planning -/

/-- What is said when the configuration has been loaded. -/
def Config.record (config : Config) : Record :=
  ⟨.info, .run, "Using configuration: " ++ config.toJson.print⟩

/-- Where planning stops. -/
inductive Run.PlanStops (env : Environment) (path : String) (overrides : Json.Fields) (w : World)
    (fault : Fault) : Prop
  /-- The directory of the project cannot be resolved. -/
  | project (h : env.pathOf w.files w.directory path = .error fault)
  /-- The configuration file is not rejected, but stops the loading. -/
  | config (root : Path) (hroot : env.pathOf w.files w.directory path = .ok root)
      (h : Config.Layer.read? w.files w.directory (root ++ Path.ofString Config.filename).text =
        .error fault)
  /-- The output directory cannot be resolved. -/
  | outDir (root : Path) (config : Config) (w₁ : World)
      (hroot : env.pathOf w.files w.directory path = .ok root)
      (hconfig : (Config.load root overrides).exec w = (.ok config, w₁))
      (h : env.resolvePath (w₁.report config.record).files w₁.directory root config.outDir =
        .error fault)

theorem Run.exec_plan_error_iff : ((plan env path overrides).exec w).1 = .error fault ↔
    PlanStops env path overrides w fault := by
  unfold plan
  rw [Action.exec_look_bind_error_iff]
  simp only [Action.exec_bind_error_iff, Config.exec_load_error_iff, Action.exec_report_bind,
    Action.exec_look, Action.exec_pure, reduceCtorEq, and_false, exists_false, or_false]
  constructor
  · rintro (h | ⟨root, hroot, h | ⟨config, w₁, hconfig, h⟩⟩)
    · exact .project h
    · exact .config root hroot h
    · exact .outDir root config w₁ hroot hconfig h
  · intro h
    cases h with
    | project h => exact .inl h
    | config root hroot h => exact .inr ⟨root, hroot, .inl h⟩
    | outDir root config w₁ hroot hconfig h =>
        exact .inr ⟨root, hroot, .inr ⟨config, w₁, hconfig, h⟩⟩

/-! ## Starting -/

/-- What is said before the component files are discovered. -/
def Run.searchRecord (dir : Path) : Record :=
  ⟨.info, .run, "Searching for components under " ++ dir.text⟩

/-- Where a start stops. -/
inductive Run.StartStops (env : Environment) (find : Finder) (path : String)
    (overrides : Json.Fields) (w : World) (fault : Fault) : Prop
  | plan (h : PlanStops env path overrides w fault)
  /-- The output directory cannot be made. -/
  | directory (root : Path) (run : Run) (w₁ : World)
      (hplan : (plan env path overrides).exec w = (.ok (root, run), w₁))
      (h : ((ensureDirectory run.outDir).exec w₁).1 = .error fault)
  /-- The components directory cannot be resolved. -/
  | components (root : Path) (run : Run) (w₁ w₂ : World)
      (hplan : (plan env path overrides).exec w = (.ok (root, run), w₁))
      (hmade : (ensureDirectory run.outDir).exec w₁ = (.ok (), w₂))
      (h : env.resolvePath w₂.files w₂.directory root run.config.componentsDir = .error fault)
  /-- The component files cannot be discovered. -/
  | discovery (root : Path) (run : Run) (w₁ w₂ : World) (dir : Path)
      (hplan : (plan env path overrides).exec w = (.ok (root, run), w₁))
      (hmade : (ensureDirectory run.outDir).exec w₁ = (.ok (), w₂))
      (hdir : env.resolvePath w₂.files w₂.directory root run.config.componentsDir = .ok dir)
      (h : ((find dir.text).exec (w₂.report (searchRecord dir))).1 = .error fault)

theorem Run.exec_componentFiles_error_iff {config : Config} :
    ((componentFiles env find root config).exec w).1 = .error fault ↔
      env.resolvePath w.files w.directory root config.componentsDir = .error fault ∨
        ∃ dir, env.resolvePath w.files w.directory root config.componentsDir = .ok dir ∧
          ((find dir.text).exec (w.report (searchRecord dir))).1 = .error fault := by
  unfold componentFiles
  rw [Action.exec_look_bind_error_iff]
  simp only [Action.exec_report_bind]
  rfl

theorem Run.exec_start_error_iff : ((start env find path overrides).exec w).1 = .error fault ↔
    StartStops env find path overrides w fault := by
  unfold start
  simp only [Action.exec_bind_error_iff, exec_plan_error_iff, exec_componentFiles_error_iff,
    Action.exec_pure, reduceCtorEq, and_false, exists_false, or_false]
  constructor
  · rintro (h | ⟨⟨root, run⟩, w₁, hplan, h | ⟨⟨⟩, w₂, hmade, h | ⟨dir, hdir, h⟩⟩⟩)
    · exact .plan h
    · exact .directory root run w₁ hplan h
    · exact .components root run w₁ w₂ hplan hmade h
    · exact .discovery root run w₁ w₂ dir hplan hmade hdir h
  · intro h
    cases h with
    | plan h => exact .inl h
    | directory root run w₁ hplan h => exact .inr ⟨(root, run), w₁, hplan, .inl h⟩
    | components root run w₁ w₂ hplan hmade h =>
        exact .inr ⟨(root, run), w₁, hplan, .inr ⟨(), w₂, hmade, .inl h⟩⟩
    | discovery root run w₁ w₂ dir hplan hmade hdir h =>
        exact .inr ⟨(root, run), w₁, hplan, .inr ⟨(), w₂, hmade, .inr ⟨dir, hdir, h⟩⟩⟩

/-- Discovery stops where the directory cannot be resolved, looked up or walked through, and
where there is none. -/
theorem exec_discover_error_iff {suffix dir : String} :
    ((discover env suffix dir).exec w).1 = .error fault ↔
      env.pathOf w.files w.directory dir = .error fault ∨
      ∃ p, env.pathOf w.files w.directory dir = .ok p ∧
        (w.files.stat? [] p.text = .error fault ∨
        w.files.stat? [] p.text = .ok none ∧ fault = .componentsMissing dir ∨
        (∃ e ≠ .directory, w.files.stat? [] p.text = .ok (some e)) ∧
          fault = .componentsNotDirectory dir ∨
        w.files.stat? [] p.text = .ok (some .directory) ∧
          w.files.filesBelow p suffix = .error fault) := by
  unfold discover
  simp only [Action.exec_look_bind_error_iff]
  refine or_congr Iff.rfl (exists_congr fun p => and_congr_right fun _ => ?_)
  cases hstat : w.files.stat? [] p.text with
  | error refusal => simp
  | ok e? =>
      rcases e? with _ | e
      · simp [eq_comm]
      · by_cases he : e = .directory
        · subst he
          simp only [Except.ok.injEq, Option.some.injEq, exists_eq_left', Action.exec_report_bind,
            Action.exec_look_bind_error_iff, Action.exec_pure]
          simp
        · simp [he, eq_comm]

/-! ## The loop over the files -/

/-- Documenting a file stops where the page of its component cannot be written. -/
theorem Run.exec_documentFile_error_iff {file : Path} :
    ((documentFile env source run file).exec w).1 = .error fault ↔
      ∃ d, documented? (source w file).1 = some d ∧
        (env.writeFile (source w file).2.files (source w file).2.directory
          (run.outDir.child (run.config.pageFile d.name)).text
          (Page.ofDocument d run.config).body).1 = .error fault := by
  cases hdocumented : documented? (source w file).1 with
  | none =>
      obtain ⟨records, hskip⟩ := exec_documentFile_skip run hdocumented
      rw [hskip]
      simp
  | some d =>
      obtain ⟨records, hpage⟩ := exec_documentFile_page run hdocumented
      rw [hpage]
      rcases hwrite : env.writeFile (source w file).2.files (source w file).2.directory
        (run.outDir.child (run.config.pageFile d.name)).text
        (Page.ofDocument d run.config).body with ⟨refusal | ⟨⟨⟩⟩, written⟩ <;> simp [hwrite]

/-- The loop stops at one of the files, and has gone well up to it. -/
theorem Run.exec_documentFiles_error_iff : ∀ {run : Run} {w : World},
    ((documentFiles env source run files).exec w).1 = .error fault ↔
      ∃ before file after run' w', files = before ++ file :: after ∧
        (documentFiles env source run before).exec w = (.ok run', w') ∧
        ((documentFile env source run' file).exec w').1 = .error fault := by
  induction files with
  | nil =>
      intro run w
      simp [documentFiles]
  | cons file rest ih =>
      intro run w
      rw [documentFiles, Action.exec_bind_error_iff]
      constructor
      · rintro (hfirst | ⟨run₁, w₁, hfirst, hrest⟩)
        · exact ⟨[], file, rest, run, w, rfl, rfl, hfirst⟩
        · obtain ⟨before, file', after, run', w', rfl, hbefore, hstop⟩ := ih.mp hrest
          refine ⟨file :: before, file', after, run', w', rfl, ?_, hstop⟩
          rw [documentFiles, Action.exec_bind_of_ok hfirst, hbefore]
      · rintro ⟨before, file', after, run', w', hfiles, hbefore, hstop⟩
        rcases before with _ | ⟨first, before⟩
        · obtain ⟨rfl, rfl⟩ := List.cons.inj hfiles
          obtain ⟨hrun, rfl⟩ := Prod.mk.inj hbefore
          obtain rfl := Except.ok.inj hrun
          exact .inl hstop
        · obtain ⟨rfl, rfl⟩ := List.cons.inj hfiles
          obtain ⟨run₁, w₁, hfirst, hrest⟩ := Action.exec_bind_ok hbefore
          exact .inr ⟨run₁, w₁, hfirst, ih.mpr ⟨before, file', after, run', w', rfl, hrest, hstop⟩⟩

/-! ## The index page -/

/-- Reading custom content stops where its path cannot be resolved or looked up. -/
theorem exec_readCustomContent_error_iff {config : Config} :
    ((readCustomContent env config root).exec w).1 = .error fault ↔
      config.customPath ≠ "" ∧
        (env.resolvePath w.files w.directory root config.customPath = .error fault ∨
        ∃ p, env.resolvePath w.files w.directory root config.customPath = .ok p ∧
          w.files.stat? [] p.text = .error fault) := by
  unfold readCustomContent
  by_cases hempty : config.customPath = ""
  · simp [hempty]
  · rw [if_neg (by simpa using hempty)]
    simp only [Action.exec_look_bind_error_iff, ne_eq, hempty, not_false_eq_true, true_and]
    constructor
    · rintro (h | ⟨p, hp, h | ⟨e?, he, h⟩⟩)
      · exact .inl h
      · exact .inr ⟨p, hp, h⟩
      · -- what was looked up is read, or reported: either goes well
        rcases e? with _ | e
        · simp only [Action.exec_report_bind, Action.exec_pure, reduceCtorEq] at h
        · rw [Action.exec_bind_of_ok (Action.exec_get w)] at h
          cases hread : w.files.read [] p.text >>= Text.ofBytes <;>
            simp only [hread, Action.exec_report_bind, Action.exec_pure, reduceCtorEq] at h
    · rintro (h | ⟨p, hp, h⟩)
      · exact .inl h
      · exact .inr ⟨p, hp, .inl h⟩

/-! ## Documenting -/

/-- Where the documenting of the files stops. -/
inductive Run.DocumentStops (env : Environment) (source : ReportSource) (root : Path) (run : Run)
    (files : List Path) (w : World) (fault : Fault) : Prop
  /-- The page of a component cannot be written. -/
  | page (before : List Path) (file : Path) (after : List Path) (run' : Run) (w' : World)
      (d : Document) (hfiles : files = before ++ file :: after)
      (hbefore : (documentFiles env source run before).exec (w.report (foundRecord files)) =
        (.ok run', w'))
      (hd : documented? (source w' file).1 = some d)
      (h : (env.writeFile (source w' file).2.files (source w' file).2.directory
        (run'.outDir.child (run'.config.pageFile d.name)).text
        (Page.ofDocument d run'.config).body).1 = .error fault)
  /-- The path of the custom content cannot be resolved or looked up. -/
  | custom (run' : Run) (w' : World) (hne : files ≠ [])
      (hloop : (documentFiles env source run files).exec (w.report (foundRecord files)) =
        (.ok run', w'))
      (hpath : run'.config.customPath ≠ "")
      (h : env.resolvePath w'.files w'.directory root run'.config.customPath = .error fault ∨
        ∃ p, env.resolvePath w'.files w'.directory root run'.config.customPath = .ok p ∧
          w'.files.stat? [] p.text = .error fault)
  /-- The index page cannot be written. -/
  | index (run' : Run) (w' : World) (custom : String) (w'' : World) (hne : files ≠ [])
      (hloop : (documentFiles env source run files).exec (w.report (foundRecord files)) =
        (.ok run', w'))
      (hcustom : (readCustomContent env run'.config root).exec w' = (.ok custom, w''))
      (h : (env.writeFile w''.files w''.directory
        (run'.outDir.child (run'.config.pageFile Page.indexName)).text
        (Page.index run'.config run'.entries custom).body).1 = .error fault)

theorem exec_writePage_error_iff {outDir : Path} {page : Page} (h : Path.Proper page.filename) :
    ((writePage env outDir page).exec w).1 = .error fault ↔
      (env.writeFile w.files w.directory (outDir.child page.filename).text page.body).1 =
        .error fault := by
  obtain ⟨r, hpage⟩ := exec_writePage env outDir h w
  rw [hpage]
  rcases env.writeFile w.files w.directory (outDir.child page.filename).text page.body with
    ⟨refusal | ⟨⟨⟩⟩, written⟩ <;> simp

theorem Run.exec_writeIndex_error_iff : ((writeIndex env root run).exec w).1 = .error fault ↔
    ((readCustomContent env run.config root).exec w).1 = .error fault ∨
      ∃ custom w', (readCustomContent env run.config root).exec w = (.ok custom, w') ∧
        (env.writeFile w'.files w'.directory
          (run.outDir.child (run.config.pageFile Page.indexName)).text
          (Page.index run.config run.entries custom).body).1 = .error fault := by
  have hproper : ∀ custom, Path.Proper (Page.index run.config run.entries custom).filename :=
    fun _ => run.config.proper_indexFile
  unfold writeIndex
  simp only [Action.exec_bind_error_iff, exec_writePage_error_iff (hproper _),
    Action.exec_report_bind, Action.exec_pure, reduceCtorEq, and_false, exists_false, or_false,
    Page.filename_index]

theorem Run.exec_document_error_iff :
    ((document env source root run files).exec w).1 = .error fault ↔
      DocumentStops env source root run files w fault := by
  unfold document
  by_cases hnil : files = []
  · subst hnil
    constructor
    · intro h
      cases h
    · intro h
      cases h with
      | page before file after _ _ _ hfiles => simp at hfiles
      | custom _ _ hne => exact absurd rfl hne
      | index _ _ _ _ hne => exact absurd rfl hne
  rw [if_neg (by simpa using hnil), Action.exec_report_bind, Action.exec_bind_error_iff]
  simp only [exec_documentFiles_error_iff, exec_documentFile_error_iff, exec_writeIndex_error_iff,
    exec_readCustomContent_error_iff]
  constructor
  · rintro (⟨before, file, after, run', w', hfiles, hbefore, d, hd, h⟩ |
      ⟨run', w', hloop, ⟨hpath, h⟩ | ⟨custom, w'', hcustom, h⟩⟩)
    · exact .page before file after run' w' d hfiles hbefore hd h
    · exact .custom run' w' hnil hloop hpath h
    · exact .index run' w' custom w'' hnil hloop hcustom h
  · intro h
    cases h with
    | page before file after run' w' d hfiles hbefore hd h =>
        exact .inl ⟨before, file, after, run', w', hfiles, hbefore, d, hd, h⟩
    | custom run' w' _ hloop hpath h => exact .inr ⟨run', w', hloop, .inl ⟨hpath, h⟩⟩
    | index run' w' custom w'' _ hloop hcustom h =>
        exact .inr ⟨run', w', hloop, .inr ⟨custom, w'', hcustom, h⟩⟩

/-! ## The whole run -/

/-- Where a run stops. -/
inductive Run.Stops (env : Environment) (find : Finder) (source : Config → Path → ReportSource)
    (path : String) (overrides : Json.Fields) (w : World) (fault : Fault) : Prop
  | start (h : StartStops env find path overrides w fault)
  | document (root : Path) (run : Run) (files : List Path) (w' : World)
      (hstart : (start env find path overrides).exec w = (.ok (root, run, files), w'))
      (h : DocumentStops env (source run.config root) root run files w' fault)

/-- A run stops at a fault in one of the operations, and only there. -/
theorem exec_generateWith_error_iff {source : Config → Path → ReportSource} :
    ((generateWith env find source path overrides).exec w).1 = .error fault ↔
      Run.Stops env find source path overrides w fault := by
  unfold generateWith
  simp only [Action.exec_bind_error_iff, Run.exec_start_error_iff, Run.exec_document_error_iff]
  constructor
  · rintro (h | ⟨⟨root, run, files⟩, w', hstart, h⟩)
    · exact .start h
    · exact .document root run files w' hstart h
  · intro h
    cases h with
    | start h => exact .inl h
    | document root run files w' hstart h => exact .inr ⟨(root, run, files), w', hstart, h⟩

end ComponentReference
