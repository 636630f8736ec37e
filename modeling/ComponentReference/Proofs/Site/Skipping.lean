import ComponentReference.Proofs.SideBySide
import ComponentReference.Proofs.Site.Phases

/-!
# Skipped files leave no trace

A run that skips some of the component files leaves the same files as a run that does not
find them in the first place, and comes to the same result but for the list of skipped
files.  The reports are fixed.  The log file, if one is open, is an exception: it names the
skipped files.

## Strategy

The two runs start in the same way, and from the component files on they are compared side
by side.  A file that is skipped is a step of the first run alone: it leaves records and
enters the file into the list of skipped ones.  All other steps are steps of both, and none
of them looks at that list or at the records.  The one step that looks into a file is the
reading of custom content, so that this must not come from the log file.
-/

namespace ComponentReference

variable {env : Environment} {find : Finder} {path : String} {overrides : Json.Fields}
  {report : Path → Except Fault Json} {root : Path} {run result : Run} {files : List Path}
  {w w' : World}

/-- Discovers what `find` does, without the files that are left out. -/
def Finder.without (find : Finder) (left : List Path) : Finder := fun dir => do
  return (← find dir).filter (· ∉ left)

/-- The run without the list of the files that it has skipped. -/
def Run.unskipped (run : Run) : Run :=
  { run with skipped := [] }

/-- The files whose components get a page. -/
def documentedFiles (report : Path → Except Fault Json) (files : List Path) : List Path :=
  files.filter fun file => (documented? (report file)).isSome

/-! ## The steps side by side -/

/-- Writing the same text goes equally well in worlds beside each other. -/
theorem World.Beside.writeFile {v : World} (h : w.Beside v) (env : Environment)
    (path text : String) :
    (env.writeFile v.files v.directory path text).1 =
        (env.writeFile w.files w.directory path text).1 ∧
      World.Beside { w with files := (env.writeFile w.files w.directory path text).2 }
        { v with files := (env.writeFile v.files v.directory path text).2 } := by
  unfold Environment.writeFile
  cases env.pathRefusal? path with
  | some refusal => exact ⟨rfl, h⟩
  | none =>
      cases env.textRefusal? text with
      | some refusal =>
          dsimp only
          obtain ⟨fault, hw, hv⟩ | ⟨files, files', hw, hv, hbeside⟩ := h.write path []
          · rw [hw, hv]
            exact ⟨rfl, h⟩
          · rw [hw, hv]
            exact ⟨rfl, hbeside⟩
      | none =>
          dsimp only
          obtain ⟨fault, hw, hv⟩ | ⟨files, files', hw, hv, hbeside⟩ :=
            h.write path (Utf8.encode text.toList)
          · rw [hw, hv]
            exact ⟨rfl, h⟩
          · rw [hw, hv]
            exact ⟨rfl, hbeside⟩

theorem parallel_writePage (env : Environment) (outDir : Path) (page : Page) :
    (writePage env outDir page).Parallel Eq (writePage env outDir page) := by
  unfold writePage writeText
  refine (Action.parallel_changePartly fun w v hbeside => hbeside.writeFile env _ _).bind ?_
  exact fun _ _ _ => (Action.parallel_report _ _ _ _ _ _).bind fun _ _ _ =>
    Action.parallel_pure rfl

/-- The custom content comes from the file that is open for records. -/
def ReadsLog (env : Environment) (config : Config) (root : Path) (w : World) : Prop :=
  config.customPath ≠ "" ∧ ∃ log p spot, w.logFile = some log ∧
    env.resolvePath w.files w.directory root config.customPath = .ok p ∧
    w.files.locate [] {} p.text = .ok spot ∧ spot.location ∈ w.files.reached log.location

/-- If it does not, it is the same in worlds beside each other. -/
theorem readCustomContent_beside {config : Config} {v : World} {custom : String}
    (hbeside : w.Beside v) (hcustom : ¬ReadsLog env config root w)
    (h : (readCustomContent env config root).exec w = (.ok custom, w')) :
    ∃ v', (readCustomContent env config root).exec v = (.ok custom, v') ∧ w'.Beside v' := by
  unfold readCustomContent at h ⊢
  split at h
  · next hempty =>
      obtain ⟨hresult, rfl⟩ := Prod.mk.inj h
      exact ⟨v, by rw [if_pos hempty, Action.exec_pure, hresult], hbeside⟩
  next hempty =>
  rw [if_neg hempty]
  obtain ⟨p, w₁, hlook, hrest⟩ := Action.exec_bind_ok h
  obtain ⟨hpath, hw₁⟩ := Action.exec_look_ok hlook
  rw [hw₁] at hrest
  obtain ⟨e?, w₂, hlook, hrest⟩ := Action.exec_bind_ok hrest
  obtain ⟨hstat, hw₂⟩ := Action.exec_look_ok hlook
  rw [hw₂] at hrest
  have hread : v.files.read [] p.text = w.files.read [] p.text := by
    obtain hlog | ⟨log, hlog⟩ := Option.eq_none_or_eq_some w.logFile
    · rw [hbeside.same hlog]
    · refine (hbeside.differ log hlog).read fun spot hspot hmem => hcustom ?_
      exact ⟨by simpa using hempty, log, p, spot, hlog, hpath, hspot, hmem⟩
  obtain ⟨e?', hstat', hsome⟩ : ∃ e?', v.files.stat? [] p.text = .ok e?' ∧
      e?'.isSome = e?.isSome := by
    have hsame := hbeside.isSome_stat? [] p.text
    rw [hstat] at hsame
    cases hv : v.files.stat? [] p.text with
    | error fault =>
        rw [hv] at hsame
        cases hsame
    | ok e?' =>
        rw [hv] at hsame
        exact ⟨e?', rfl, Except.ok.inj hsame⟩
  rw [Action.exec_bind, Action.exec_look, (hbeside.resolvePath env root _).trans hpath]
  dsimp only
  rw [Action.exec_bind, Action.exec_look, hstat']
  cases e? with
  | none =>
      obtain rfl : e?' = none := by simpa using hsome
      obtain ⟨hresult, rfl⟩ := Prod.mk.inj hrest
      exact ⟨_, congrArg (·, _) hresult, ((hbeside.report _).symm.report _).symm⟩
  | some e =>
      obtain ⟨e', rfl⟩ : ∃ e', e?' = some e' := Option.isSome_iff_exists.mp (by simpa using hsome)
      dsimp only at hrest ⊢
      rw [Action.exec_bind, Action.exec_get] at hrest ⊢
      dsimp only at hrest ⊢
      rw [hread]
      cases hcontent : w.files.read [] p.text >>= Text.ofBytes with
      | ok content =>
          rw [hcontent] at hrest
          obtain ⟨hresult, rfl⟩ := Prod.mk.inj hrest
          exact ⟨v, congrArg (·, v) hresult, hbeside⟩
      | error fault =>
          rw [hcontent] at hrest
          obtain ⟨hresult, rfl⟩ := Prod.mk.inj hrest
          exact ⟨_, congrArg (·, _) hresult, ((hbeside.report _).symm.report _).symm⟩

namespace Run

/-- The two runs differ in the list of skipped files alone, and the second has skipped
none. -/
def Unskipped (run run' : Run) : Prop :=
  run' = run.unskipped

/-- The page of a component is written by both. -/
theorem parallel_documentFile (run : Run) {file : Path} {d : Document}
    (h : documented? (report file) = some d) :
    (documentFile env (.fixed report) run file).Parallel Unskipped
      (documentFile env (.fixed report) run.unskipped file) := by
  intro w v hbeside
  obtain ⟨records, hexec⟩ := @exec_documentFile_page env (.fixed report) w file run d h
  obtain ⟨records', hexec'⟩ := @exec_documentFile_page env (.fixed report) v file run.unskipped d h
  have hfixed : ∀ w, ReportSource.fixed report w file = (report file, w) := fun w => rfl
  obtain ⟨houtcome, hworld⟩ := hbeside.writeFile env
    (run.outDir.child (run.config.pageFile d.name)).text (Page.ofDocument d run.config).body
  rw [hfixed] at hexec hexec'
  rw [hexec, hexec']
  dsimp only [unskipped]
  rcases hw : env.writeFile w.files w.directory
    (run.outDir.child (run.config.pageFile d.name)).text
    (Page.ofDocument d run.config).body with ⟨outcome, files⟩
  rcases hv : env.writeFile v.files v.directory
    (run.outDir.child (run.config.pageFile d.name)).text
    (Page.ofDocument d run.config).body with ⟨outcome', files'⟩
  rw [hw, hv] at houtcome hworld
  obtain rfl : outcome' = outcome := houtcome
  cases outcome' with
  | error fault => exact ⟨.error fault, hworld⟩
  | ok =>
      exact ⟨.ok rfl, ((hworld.foldl_report records').symm.foldl_report records).symm⟩

/-- The loop over all files, and the loop over those whose components get a page. -/
theorem parallel_documentFiles (files : List Path) : ∀ run : Run,
    (documentFiles env (.fixed report) run files).Parallel Unskipped
      (documentFiles env (.fixed report) run.unskipped (documentedFiles report files)) := by
  induction files with
  | nil => exact fun run => Action.parallel_pure rfl
  | cons file rest ih =>
      intro run
      cases h : documented? (report file) with
      | none =>
          have hfiles : documentedFiles report (file :: rest) = documentedFiles report rest :=
            List.filter_cons_of_neg (by simp [h])
          rw [hfiles, documentFiles]
          refine Action.Parallel.bind_left (fun w => ?_) (ih (run.skip file))
          exact @exec_documentFile_skip env (.fixed report) w file run h
      | some d =>
          have hfiles : documentedFiles report (file :: rest) =
              file :: documentedFiles report rest :=
            List.filter_cons_of_pos (by simp [h])
          rw [hfiles, documentFiles, documentFiles]
          refine (parallel_documentFile run h).bind ?_
          rintro run' _ rfl
          exact ih run'

/-- The index page is written by both, unless the log file is a part of it. -/
theorem writeIndex_beside {v : World} (hbeside : w.Beside v)
    (hcustom : ¬ReadsLog env run.config root w)
    (h : (writeIndex env root run).exec w = (.ok result, w')) :
    ∃ v', (writeIndex env root run.unskipped).exec v = (.ok result.unskipped, v') ∧
      w'.Beside v' := by
  obtain ⟨custom, w₁, hread, hrest⟩ := Action.exec_bind_ok h
  obtain ⟨v₁, hread', hbeside₁⟩ : ∃ v₁, (readCustomContent env run.unskipped.config root).exec v =
      (.ok custom, v₁) ∧ w₁.Beside v₁ := readCustomContent_beside hbeside hcustom hread
  have hmatched : Matched Unskipped ((writeIndex env root run).exec w).1
        ((writeIndex env root run.unskipped).exec v).1 ∧
      ((writeIndex env root run).exec w).2.Beside
        ((writeIndex env root run.unskipped).exec v).2 := by
    rw [writeIndex, writeIndex, Action.exec_bind_of_ok hread, Action.exec_bind_of_ok hread']
    refine (parallel_writePage env run.outDir _).bind ?_ w₁ v₁ hbeside₁
    rintro path _ rfl
    exact (Action.parallel_report _ _ _ _ _ _).bind fun _ _ _ =>
      (Action.parallel_report _ _ _ _ _ _).bind fun _ _ _ => Action.parallel_pure rfl
  rw [h] at hmatched
  obtain ⟨_, hresult, rfl⟩ := hmatched.1.exists_ok
  exact ⟨_, Action.exec_eq_of_fst hresult, hmatched.2⟩

/-- From the component files on, with at least one component that gets a page. -/
theorem document_beside {v : World} (hbeside : w.Beside v)
    (hcustom : ∀ documented w₂, (documentFiles env (.fixed report) run files).exec
      (w.report (foundRecord files)) = (.ok documented, w₂) → ¬ReadsLog env run.config root w₂)
    (hdocumented : documentedFiles report files ≠ [])
    (h : (document env (.fixed report) root run files).exec w = (.ok result, w')) :
    ∃ v', (document env (.fixed report) root run.unskipped (documentedFiles report files)).exec v =
        (.ok result.unskipped, v') ∧
      w'.Beside v' := by
  obtain ⟨rfl, -, -⟩ | ⟨hfiles, documented, w₂, hloop, hindex⟩ := document_phases h
  · exact absurd rfl hdocumented
  have hfound : w.report (foundRecord files) |>.Beside
      (v.report (foundRecord (documentedFiles report files))) :=
    ((hbeside.report _).symm.report _).symm
  obtain ⟨_, v₂, hloop', rfl, hbeside₂⟩ :=
    (parallel_documentFiles files run).exists_ok hfound hloop
  have hconfig : documented.config = run.config := by
    rw [documentFiles_fixed hloop]
    rfl
  obtain ⟨v', hindex', hbeside'⟩ :=
    writeIndex_beside hbeside₂ (hconfig ▸ hcustom documented w₂ hloop) hindex
  have hreport : (Action.report .info .run ("Found " ++
      toString (documentedFiles report files).length ++ " component files")).exec v =
        (.ok (), v.report (foundRecord (documentedFiles report files))) := rfl
  refine ⟨v', ?_, hbeside'⟩
  rw [document, if_neg (by simpa using hdocumented), Action.exec_bind_of_ok hreport,
    Action.exec_bind_of_ok hloop', hindex']

/-! ## What is skipped -/

theorem mem_skipped_iff {file : Path} (hfile : file ∈ files) :
    file ∈ Outcome.skipped (files.map fun file => (file, report file)) ↔
      documented? (report file) = none := by
  unfold Outcome.skipped
  constructor
  · intro hmem
    obtain ⟨outcome, houtcome, rfl⟩ := List.mem_map.mp hmem
    obtain ⟨hin, hnone⟩ := List.mem_filter.mp houtcome
    obtain ⟨file, -, rfl⟩ := List.mem_map.mp hin
    exact Option.isNone_iff_eq_none.mp hnone
  · intro hnone
    exact List.mem_map.mpr ⟨(file, report file), List.mem_filter.mpr
      ⟨List.mem_map_of_mem hfile, Option.isNone_iff_eq_none.mpr hnone⟩, rfl⟩

/-- The files that are left when the skipped ones have been taken out. -/
theorem filter_not_mem_skipped (files : List Path) :
    files.filter (· ∉ Outcome.skipped (files.map fun file => (file, report file))) =
      documentedFiles report files := by
  refine List.filter_congr fun file hfile => ?_
  cases h : documented? (report file) <;> simp [mem_skipped_iff hfile, h]

theorem documentsOf_eq_nil (h : documentedFiles report files = []) :
    documentsOf report files = [] := by
  refine List.filterMap_eq_nil_iff.mpr fun file hfile => ?_
  have hnot := List.filter_eq_nil_iff.mp h file hfile
  rwa [Option.not_isSome_iff_eq_none] at hnot

/-! ## The whole run -/

/-- A run starts without the files that are left out as it does with them. -/
theorem start_without (left : List Path)
    (h : (start env find path overrides).exec w = (.ok (root, run, files), w')) :
    (start env (find.without left) path overrides).exec w =
      (.ok (root, run, files.filter (· ∉ left)), w') := by
  obtain ⟨w₁, w₂, hplan, hmake, hfiles⟩ := exec_start_ok_iff.mp h
  obtain ⟨dir, hdir, hfind⟩ := exec_componentFiles_ok_iff.mp hfiles
  refine exec_start_ok_iff.mpr ⟨w₁, w₂, hplan, hmake, ?_⟩
  exact exec_componentFiles_ok_iff.mpr ⟨dir, hdir, Action.exec_bind_of_ok hfind _⟩

end Run

/-- Skipped files leave no trace.  A run that ends well and documents a component ends just
so if the files that it skips are not found, with nothing skipped, and leaves the same
at every place but the log file's.  If a log file is open, files have to be one by all their
names, and the custom content must not come from it. -/
theorem generateWith_without_skipped {reports : Config → Path → Path → Except Fault Json}
    (hcoherent : ∀ root run files w₁,
      (Run.start env find path overrides).exec w = (.ok (root, run, files), w₁) →
        ∀ log, w₁.logFile = some log → w₁.files.Coherent)
    (hcustom : ∀ root run files w₁ documented w₂,
      (Run.start env find path overrides).exec w = (.ok (root, run, files), w₁) →
        (Run.documentFiles env (.fixed (reports run.config root)) run files).exec
            (w₁.report (Run.foundRecord files)) = (.ok documented, w₂) →
          ¬ReadsLog env run.config root w₂)
    (h : (generateWith env find (fun config root => .fixed (reports config root)) path
      overrides).exec w = (.ok result, w'))
    (hentries : result.entries ≠ []) :
    ∃ w'', (generateWith env (find.without result.skipped)
        (fun config root => .fixed (reports config root)) path overrides).exec w =
          (.ok { result with skipped := [] }, w'') ∧
      (w'.logFile = none → w''.files = w'.files) ∧
      ∀ l, (∀ log, w'.logFile = some log → l ∉ w'.files.reached log.location) →
        w''.files.get? l = w'.files.get? l := by
  obtain ⟨⟨root, run, files⟩, w₁, hstart, hdocument⟩ := Action.exec_bind_ok h
  have hrun := Run.eq_of_start hstart
  have hunskipped : run.unskipped = run := by
    rw [hrun]
    rfl
  have hlists : result.skipped = Outcome.skipped (files.map fun file =>
        (file, reports run.config root file)) ∧
      result.entries = (documentsOf (reports run.config root) files).map Document.entry := by
    rw [← documents_map]
    obtain rfl | rfl := Run.document_after hdocument <;> rw [hrun] <;> exact ⟨rfl, rfl⟩
  obtain ⟨hskipped, hdone⟩ := hlists
  have hleft : files.filter (· ∉ result.skipped) =
      documentedFiles (reports run.config root) files := by
    rw [hskipped, ← Run.filter_not_mem_skipped]
  have hdocumented : documentedFiles (reports run.config root) files ≠ [] := by
    intro hnone
    refine hentries ?_
    rw [hdone, Run.documentsOf_eq_nil hnone]
    rfl
  obtain ⟨w'', hexec, hbeside⟩ := Run.document_beside (.refl (hcoherent _ _ _ _ hstart))
    (fun documented w₂ hloop => hcustom _ _ _ _ documented w₂ hstart hloop) hdocumented hdocument
  rw [hunskipped, ← hleft] at hexec
  refine ⟨w'', ?_, hbeside.same, fun l hl => hbeside.get?_eq hl⟩
  rw [generateWith, Action.exec_bind_of_ok (Run.start_without result.skipped hstart)]
  exact hexec

/-- A project with an output directory, and the log file that is open there. -/
def Sample.logged (log : Location) : World :=
  { Sample.world (Sample.directories ++ [(["w", "o"], .directory), (log, Sample.file "")]) [] with
    logFile := some ⟨log, .info, "now"⟩ }

/-- The run in that project that discovers what `find` does, and has no report but for one
component. -/
def Sample.skipping (log : Location) (find : Finder) : Except Fault Run × World :=
  (generateWith Sample.env find
    (fun _ _ => .fixed (Sample.reports [("B.vue", Sample.report "B" "")])) "."
    Sample.overrides).exec (Sample.logged log)

/-- Of two components the first has no report.  Its file is skipped, and the other component is
documented as if it were alone.  Only the log file tells of the first. -/
theorem generateWith_without_first_file :
    let find : Finder := fun _ => pure (Sample.files ["A.vue", "B.vue"])
    let alone := Sample.files ["A.vue"]
    ∃ result w' w'', Sample.skipping ["w", "run.log"] find = (.ok result, w') ∧
      result.skipped = alone ∧
      Sample.skipping ["w", "run.log"] (find.without alone) =
        (.ok { result with skipped := [] }, w'') ∧
      ∀ l, (∀ log, w'.logFile = some log → l ∉ w'.files.reached log.location) →
        w''.files.get? l = w'.files.get? l := by
  intro find alone
  have hok : (Sample.skipping ["w", "run.log"] find).1 =
      .ok ((Sample.run.skip ⟨.slash, ["w", "c", "A.vue"]⟩).withPage
        (.ofFields (Sample.fields "B" ""))).indexed := by
    decide +kernel
  have hstart : ∀ root run files w₁, (Run.start Sample.env find "." Sample.overrides).exec
      (Sample.logged ["w", "run.log"]) = (.ok (root, run, files), w₁) →
        run = Sample.run ∧ w₁.files.Coherent := by
    intro root run files w₁ hstart
    have hrun : ((Run.start Sample.env find "." Sample.overrides).exec
        (Sample.logged ["w", "run.log"])).1 =
          .ok (⟨.slash, ["w"]⟩, Sample.run, Sample.files ["A.vue", "B.vue"]) := by
      decide +kernel
    have hnumbers : ∀ noted ∈ ((Run.start Sample.env find "." Sample.overrides).exec
        (Sample.logged ["w", "run.log"])).2.files.attributes, noted.2.number? = none := by
      decide +kernel
    rw [hstart] at hrun hnumbers
    obtain ⟨-, hpair⟩ := Prod.mk.inj (Except.ok.inj hrun)
    exact ⟨(Prod.mk.inj hpair).1, FileSystem.coherent_of_number? hnumbers⟩
  obtain ⟨w'', hexec, -, hsame⟩ := @generateWith_without_skipped Sample.env find "."
    Sample.overrides _ (Sample.logged ["w", "run.log"]) _
    (fun _ _ => Sample.reports [("B.vue", Sample.report "B" "")])
    (fun root run files w₁ h log _ => (hstart root run files w₁ h).2)
    (fun root run files w₁ documented w₂ h _ hreads =>
      hreads.1 (by rw [(hstart root run files w₁ h).1]; rfl))
    (Action.exec_eq_of_fst hok) (List.cons_ne_nil _ _)
  exact ⟨_, _, w'', Action.exec_eq_of_fst hok, rfl, hexec, hsame⟩

/-- A log file in the output directory tells of the skipped file. -/
theorem generateWith_skipped_in_log :
    let find : Finder := fun _ => pure (Sample.files ["A.vue", "B.vue"])
    let first := Sample.skipping ["w", "o", "x.log"] find
    let second := Sample.skipping ["w", "o", "x.log"] (find.without (Sample.files ["A.vue"]))
    first.1.toOption.map (fun run => (run.outDir, run.skipped, run.entries)) =
        some (⟨.slash, ["w", "o"]⟩, Sample.files ["A.vue"], [⟨"B", ""⟩]) ∧
      second.1 = first.1.map (fun run => { run with skipped := [] }) ∧
      second.2.files.get? ["w", "o", "x.log"] ≠ first.2.files.get? ["w", "o", "x.log"] := by
  decide +kernel

end ComponentReference
