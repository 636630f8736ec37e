import ComponentReference.Proofs.Host.Writing
import ComponentReference.Proofs.Site.Documents
import ComponentReference.Proofs.Site.Sample

/-!
# A run accounts for every file

Whatever the reports on the discovered files are, the run goes on to its end, as long as
pages can be written: a report that leads to no page skips its file, and nothing else.
At the end every file is skipped or documented, each list is in the order of discovery,
and entries and written paths go along with the documented files.

## Strategy

A source of reports may change the world each time it is asked, so that nothing can be
said about later worlds from the first one alone.  `Onward` is the closure of a world
under all that a run does, and the assumption `Hospitable` that pages can be written is
made for each world in it.  What the reports are is read off the run itself
(`Run.reports`): the loop of the run then is `Run.after`, a function of the files and their
reports.
-/

namespace ComponentReference

/-- A list is made up of two others, each in its order. -/
inductive Interleaving {α : Type} : List α → List α → List α → Prop
  | nil : Interleaving [] [] []
  | left {l r whole : List α} (a : α) (h : Interleaving l r whole) :
      Interleaving (a :: l) r (a :: whole)
  | right {l r whole : List α} (a : α) (h : Interleaving l r whole) :
      Interleaving l (a :: r) (a :: whole)

/-- A file with the report on its component. -/
abbrev Outcome := Path × Except Fault Json

namespace Outcome

/-- The files that are skipped. -/
def skipped (outcomes : List Outcome) : List Path :=
  (outcomes.filter fun outcome => (documented? outcome.2).isNone).map Prod.fst

/-- The files whose components get a page. -/
def documented (outcomes : List Outcome) : List Path :=
  (outcomes.filter fun outcome => (documented? outcome.2).isSome).map Prod.fst

/-- The documents of the components that get a page. -/
def documents (outcomes : List Outcome) : List Document :=
  outcomes.filterMap fun outcome => documented? outcome.2

theorem interleaving (outcomes : List Outcome) :
    Interleaving (skipped outcomes) (documented outcomes) (outcomes.map Prod.fst) := by
  induction outcomes with
  | nil => exact .nil
  | cons outcome rest ih =>
      unfold skipped documented at ih ⊢
      cases h : documented? outcome.2 with
      | none => simpa [h] using ih.left outcome.1
      | some d => simpa [h] using ih.right outcome.1

theorem length_documents (outcomes : List Outcome) :
    (documents outcomes).length = (documented outcomes).length := by
  induction outcomes with
  | nil => rfl
  | cons outcome rest ih =>
      unfold documents documented at ih ⊢
      cases h : documented? outcome.2 <;> simp_all

end Outcome

/-! ## Worlds to come -/

/-- The worlds that a run can come to: a record is left, the source is asked for a report,
or something is written to a file of the output directory. -/
inductive Onward (source : ReportSource) (outDir : Path) (w : World) : World → Prop
  | refl : Onward source outDir w w
  | report {w' : World} (h : Onward source outDir w w') (r : Record) :
      Onward source outDir w (w'.report r)
  | ask {w' : World} (h : Onward source outDir w w') (file : Path) :
      Onward source outDir w (source w' file).2
  | write {w' : World} (h : Onward source outDir w w') {filename : String} {content : Bytes}
      {files : FileSystem} (hname : Path.Proper filename)
      (hwrite : w'.files.write w'.directory (outDir.child filename).text content = .ok files) :
      Onward source outDir w { w' with files }

/-- In the world, a file of that name in the output directory can be written. -/
def World.Writable (w : World) (outDir : Path) (filename : String) : Prop :=
  ∀ content, ∃ files, w.files.write w.directory (outDir.child filename).text content = .ok files

/-- The record that says how many files have been found. -/
def Run.foundRecord (files : List Path) : Record :=
  ⟨.info, .run, "Found " ++ toString files.length ++ " component files"⟩

/-- However a run goes on, the files of the pages that it is to write can be written, no half of
a surrogate pair stands in the way of a page, and it can be seen whether there is custom
content. -/
structure Hospitable (env : Environment) (source : ReportSource) (root : Path) (run : Run)
    (files : List Path) (w : World) : Prop where
  page : ∀ w', Onward source run.outDir w w' → ∀ file ∈ files, ∀ d,
    documented? (source w' file).1 = some d →
      (source w' file).2.Writable run.outDir (run.config.pageFile d.name)
  pageText : ∀ w', Onward source run.outDir w w' → ∀ file ∈ files, ∀ d,
    documented? (source w' file).1 = some d →
      env.Encodes (run.outDir.child (run.config.pageFile d.name)).text
        (Page.ofDocument d run.config).body
  index : ∀ w', Onward source run.outDir w w' →
    w'.Writable run.outDir (run.config.pageFile Page.indexName)
  indexText : ∀ documented w₁ custom w₂,
    (Run.documentFiles env source run files).exec (w.report (Run.foundRecord files)) =
      (.ok documented, w₁) →
    (readCustomContent env run.config root).exec w₁ = (.ok custom, w₂) →
      env.Encodes (run.outDir.child (run.config.pageFile Page.indexName)).text
        (Page.index run.config documented.entries custom).body
  custom : ∀ w', Onward source run.outDir w w' → run.config.customPath ≠ "" →
    ∃ path, env.resolvePath w'.files w'.directory root run.config.customPath = .ok path ∧
      ∃ e?, w'.files.stat? [] path.text = .ok e?

variable {env : Environment} {source : ReportSource} {root outDir : Path} {run : Run}
  {files : List Path} {w w' : World}

theorem Onward.foldl_report (h : Onward source outDir w w') (records : List Record) :
    Onward source outDir w (records.foldl World.report w') := by
  induction records generalizing w' with
  | nil => exact h
  | cons r rest ih => exact ih (h.report r)

/-! ## The loop over the files -/

namespace Run

/-- The reports that the source gives in the course of documenting the files. -/
def reports (env : Environment) (source : ReportSource) :
    Run → List Path → World → List (Except Fault Json)
  | _, [], _ => []
  | run, file :: rest, w =>
      (source w file).1 ::
        match (documentFile env source run file).exec w with
        | (.ok run, w) => reports env source run rest w
        | (.error _, _) => []

/-- The run after files with these reports have been documented. -/
def after (run : Run) (outcomes : List Outcome) : Run :=
  { run with
    skipped := run.skipped ++ Outcome.skipped outcomes
    written := run.written ++ (Outcome.documents outcomes).map fun d =>
      run.outDir.child (run.config.pageFile d.name)
    entries := run.entries ++ (Outcome.documents outcomes).map Document.entry }

theorem after_skip {report : Except Fault Json} (h : documented? report = none) (file : Path)
    (rest : List Outcome) : (run.skip file).after rest = run.after ((file, report) :: rest) := by
  simp [after, skip, Outcome.skipped, Outcome.documents, h]

theorem after_withPage {report : Except Fault Json} {d : Document}
    (h : documented? report = some d) (file : Path) (rest : List Outcome) :
    (run.withPage d).after rest = run.after ((file, report) :: rest) := by
  simp [after, withPage, Outcome.skipped, Outcome.documents, h]

/-- What the loop over the files has done if it ends follows from the reports. -/
theorem documentFiles_after {result : Run} (files : List Path) : ∀ {run : Run} {w : World},
    (documentFiles env source run files).exec w = (.ok result, w') →
      result = run.after (files.zip (reports env source run files w)) ∧
        (reports env source run files w).length = files.length := by
  induction files with
  | nil =>
      intro run w h
      rw [← Except.ok.inj (Prod.mk.inj h).1]
      exact ⟨by simp [after, Outcome.skipped, Outcome.documents], rfl⟩
  | cons file rest ih =>
      intro run w h
      obtain ⟨run₁, w₁, hfirst, hrest⟩ := Action.exec_bind_ok h
      obtain ⟨hresult, hlength⟩ := ih hrest
      have hafter : ∀ outcomes, run₁.after outcomes =
          run.after ((file, (source w file).1) :: outcomes) := by
        cases hdocumented : documented? (source w file).1 with
        | none =>
            obtain ⟨records, hexec⟩ := exec_documentFile_skip run hdocumented
            obtain rfl := Except.ok.inj (Prod.mk.inj (hexec.symm.trans hfirst)).1
            exact after_skip hdocumented file
        | some d =>
            obtain ⟨records, hexec⟩ := exec_documentFile_page run hdocumented
            rw [hfirst] at hexec
            split at hexec
            · obtain rfl := Except.ok.inj (Prod.mk.inj hexec).1
              exact after_withPage hdocumented file
            · cases hexec
      rw [reports, hfirst]
      exact ⟨hresult.trans (hafter _), by simp [hlength]⟩

/-- One file is documented or skipped, and the run goes on. -/
theorem exec_documentFile_of_writable (run : Run) (file : Path) {w₀ : World}
    (hw : Onward source run.outDir w₀ w)
    (hpage : ∀ d, documented? (source w file).1 = some d →
      (source w file).2.Writable run.outDir (run.config.pageFile d.name))
    (htext : ∀ d, documented? (source w file).1 = some d →
      env.Encodes (run.outDir.child (run.config.pageFile d.name)).text
        (Page.ofDocument d run.config).body) :
    ∃ run' w', (documentFile env source run file).exec w = (.ok run', w') ∧
      Onward source run.outDir w₀ w' ∧ run'.config = run.config ∧ run'.outDir = run.outDir := by
  cases hdocumented : documented? (source w file).1 with
  | none =>
      obtain ⟨records, hexec⟩ := exec_documentFile_skip run hdocumented
      exact ⟨_, _, hexec, (hw.ask file).foldl_report records, rfl, rfl⟩
  | some d =>
      obtain ⟨records, hexec⟩ := exec_documentFile_page run hdocumented
      obtain ⟨written, hwritten⟩ :=
        hpage d hdocumented (Utf8.encode (Page.ofDocument d run.config).body.toList)
      have hproper := run.config.proper_documentFile hdocumented
      rw [Environment.writeFile_ok_iff.mpr ⟨htext d hdocumented, hwritten⟩] at hexec
      exact ⟨_, _, hexec, ((hw.ask file).write hproper hwritten).foldl_report records, rfl, rfl⟩

/-- The loop over the files ends. -/
theorem exec_documentFiles_of_writable {w₀ : World} (files : List Path) :
    ∀ {run : Run} {w : World}, Onward source run.outDir w₀ w →
      (∀ w', Onward source run.outDir w₀ w' → ∀ file ∈ files, ∀ d,
        documented? (source w' file).1 = some d →
          (source w' file).2.Writable run.outDir (run.config.pageFile d.name)) →
      (∀ w', Onward source run.outDir w₀ w' → ∀ file ∈ files, ∀ d,
        documented? (source w' file).1 = some d →
          env.Encodes (run.outDir.child (run.config.pageFile d.name)).text
            (Page.ofDocument d run.config).body) →
      ∃ result w', (documentFiles env source run files).exec w = (.ok result, w') ∧
        Onward source run.outDir w₀ w' := by
  induction files with
  | nil => exact fun hw _ _ => ⟨_, _, rfl, hw⟩
  | cons file rest ih =>
      intro run w hw hpage htext
      obtain ⟨run', w', hexec, hw', hconfig, houtDir⟩ :=
        exec_documentFile_of_writable run file hw (hpage w hw file (List.mem_cons_self ..))
          (htext w hw file (List.mem_cons_self ..))
      rw [← houtDir] at hw'
      rw [← houtDir, ← hconfig] at hpage htext
      obtain ⟨result, w'', hrest, hw''⟩ := ih hw'
        (fun w' hw' file hfile => hpage w' hw' file (List.mem_cons_of_mem _ hfile))
        (fun w' hw' file hfile => htext w' hw' file (List.mem_cons_of_mem _ hfile))
      refine ⟨result, w'', ?_, houtDir ▸ hw''⟩
      rw [documentFiles, Action.exec_bind_of_ok hexec, hrest]

/-! ## The whole run -/

/-- A run begins with nothing written and nothing skipped. -/
theorem eq_of_start {find : Finder} {path : String} {overrides : Json.Fields} {w₁ : World}
    (h : (start env find path overrides).exec w = (.ok (root, run, files), w₁)) :
    run = { config := run.config, outDir := run.outDir } := by
  obtain ⟨⟨root', run'⟩, w', hplan, hrest⟩ := Action.exec_bind_ok h
  obtain ⟨_, w'', -, hrest⟩ := Action.exec_bind_ok hrest
  obtain ⟨files', w₃, -, hend⟩ := Action.exec_bind_ok hrest
  rw [Action.exec_pure] at hend
  obtain ⟨rfl, rfl, rfl⟩ := (Prod.mk.inj (Except.ok.inj (Prod.mk.inj hend).1)).imp_right Prod.mk.inj
  obtain ⟨root₂, w₄, -, hrest⟩ := Action.exec_bind_ok hplan
  obtain ⟨config, w₅, -, hrest⟩ := Action.exec_bind_ok hrest
  obtain ⟨_, w₆, -, hrest⟩ := Action.exec_bind_ok hrest
  obtain ⟨outDir, w₇, -, hend⟩ := Action.exec_bind_ok hrest
  rw [Action.exec_pure] at hend
  rw [← (Prod.mk.inj (Except.ok.inj (Prod.mk.inj hend).1)).2]

/-- Custom content is read, or reported to be missing, if its path can be looked at. -/
theorem exec_readCustomContent_of_lookup {config : Config}
    (h : config.customPath ≠ "" →
      ∃ path, env.resolvePath w.files w.directory root config.customPath = .ok path ∧
        ∃ e?, w.files.stat? [] path.text = .ok e?) :
    ∃ (custom : String) (records : List Record), (readCustomContent env config root).exec w =
      (.ok custom, records.foldl World.report w) := by
  unfold readCustomContent
  by_cases hempty : config.customPath = ""
  · exact ⟨"", [], by simp [hempty]⟩
  obtain ⟨path, hpath, e?, he⟩ := h hempty
  have hisEmpty : config.customPath.isEmpty = false := by simpa using hempty
  simp only [hisEmpty, Bool.false_eq_true, if_false, Action.exec_bind, Action.exec_look, hpath, he]
  cases e? with
  | none => exact ⟨"", [_], rfl⟩
  | some e =>
      simp only [Action.exec_bind, Action.exec_get]
      cases w.files.read [] path.text >>= Text.ofBytes with
      | ok content => exact ⟨_, [], rfl⟩
      | error fault => exact ⟨"", [_], rfl⟩

/-- The index page is written at the end. -/
theorem exec_writeIndex_of_writable (run : Run)
    (hcustom : run.config.customPath ≠ "" →
      ∃ path, env.resolvePath w.files w.directory root run.config.customPath = .ok path ∧
        ∃ e?, w.files.stat? [] path.text = .ok e?)
    (hindex : ∀ records : List Record, World.Writable (records.foldl World.report w) run.outDir
      (run.config.pageFile Page.indexName))
    (htext : ∀ custom w', (readCustomContent env run.config root).exec w = (.ok custom, w') →
      env.Encodes (run.outDir.child (run.config.pageFile Page.indexName)).text
        (Page.index run.config run.entries custom).body) :
    ((writeIndex env root run).exec w).1 = .ok { run with
      indexPath := some (run.outDir.child (run.config.pageFile Page.indexName)) } := by
  obtain ⟨custom, records, hread⟩ := exec_readCustomContent_of_lookup hcustom
  have hproper : Path.Proper (Page.index run.config run.entries custom).filename :=
    run.config.proper_indexFile
  obtain ⟨r, hpage⟩ := exec_writePage env run.outDir hproper (records.foldl World.report w)
  obtain ⟨written, hwritten⟩ := hindex records
    (Utf8.encode (Page.index run.config run.entries custom).body.toList)
  rw [Page.filename_index, Environment.writeFile_ok_iff.mpr ⟨htext custom _ hread, hwritten⟩]
    at hpage
  rw [writeIndex, Action.exec_bind_of_ok hread, Action.exec_bind_of_ok hpage]
  simp only [Action.exec_bind, Action.exec_report, Action.exec_pure]

/-- From the discovered files on, a run ends well, and what it has done follows from the
reports. -/
theorem exec_document_of_hospitable (run : Run)
    (h : Hospitable env source root run files w) :
    ∃ reports, reports = Run.reports env source run files (w.report (foundRecord files)) ∧
      reports.length = files.length ∧
      ((document env source root run files).exec w).1 = .ok (if files = [] then run else
        { run.after (files.zip reports) with
          indexPath := some (run.outDir.child (run.config.pageFile Page.indexName)) }) := by
  refine ⟨_, rfl, ?_⟩
  have hw : Onward source run.outDir w (w.report (foundRecord files)) := .report .refl _
  obtain ⟨result, w', hfiles, hw'⟩ := exec_documentFiles_of_writable files hw h.page h.pageText
  obtain ⟨rfl, hlength⟩ := documentFiles_after files hfiles
  refine ⟨hlength, ?_⟩
  by_cases hnil : files = []
  · subst hnil
    rfl
  have hfound : (Action.report .info .run
      ("Found " ++ toString files.length ++ " component files")).exec w =
        (.ok (), w.report (foundRecord files)) := rfl
  rw [document, if_neg (by simpa using hnil), if_neg hnil, Action.exec_bind_of_ok hfound,
    Action.exec_bind_of_ok hfiles]
  exact exec_writeIndex_of_writable (run.after _) (h.custom w' hw')
    (fun records => h.index _ (hw'.foldl_report records))
    fun custom w₂ hread => h.indexText _ w' custom w₂ hfiles hread

end Run

/-- With fixed reports, the outcomes are known from the beginning. -/
theorem Run.zip_reports_fixed {report : Path → Except Fault Json} {result : Run}
    (files : List Path) : ∀ {run : Run} {w : World},
      (Run.documentFiles env (.fixed report) run files).exec w = (.ok result, w') →
        files.zip (Run.reports env (.fixed report) run files w) =
          files.map fun file => (file, report file) := by
  induction files with
  | nil => exact fun _ => rfl
  | cons file rest ih =>
      intro run w h
      obtain ⟨run₁, w₁, hfirst, hrest⟩ := Action.exec_bind_ok h
      rw [reports, hfirst, List.zip_cons_cons, ih hrest]
      rfl

/-- A world is hospitable whose output directory takes every page, if the reports are there
from the beginning. -/
theorem hospitable_fixed {report : Path → Except Fault Json} {place : Location}
    (hlog : w.logFile = none) (hp : run.outDir.IsSettled)
    (hfree : w.files.Free run.outDir place) (hcustom : run.config.customPath = "")
    (hindex : FileSystem.textFault?
        (run.outDir.child (run.config.pageFile Page.indexName)).text = none)
    (hpages : ∀ file ∈ files, ∀ d ∈ documented? (report file),
      FileSystem.textFault? (run.outDir.child (run.config.pageFile d.name)).text = none ∧
        Utf8.size (run.config.pageFile d.name) ≤ FileSystem.maxNameSize ∧
        env.Encodes (run.outDir.child (run.config.pageFile d.name)).text
          (Page.ofDocument d run.config).body)
    (htext : env.Encodes (run.outDir.child (run.config.pageFile Page.indexName)).text
      (Page.index run.config
        (run.after (files.map fun file => (file, report file))).entries "").body) :
    Hospitable env (.fixed report) root run files w := by
  have honward : ∀ w', Onward (.fixed report) run.outDir w w' →
      w'.logFile = none ∧ w'.files.Free run.outDir place := by
    intro w' hw'
    induction hw' with
    | refl => exact ⟨hlog, hfree⟩
    | report _ r ih =>
        refine ⟨ih.1, ?_⟩
        rw [(World.alike_report ih.1 r).files]
        exact ih.2
    | ask _ file ih => exact ih
    | write _ hname hwrite ih => exact ⟨ih.1, ih.2.write hp hname hwrite⟩
  refine ⟨fun w' hw' file hfile d hd content => ?_,
    fun w' _ file hfile d hd => (hpages file hfile d hd).2.2, fun w' hw' content => ?_,
    fun result w₁ custom w₂ hloop hread => ?_, fun _ _ hne => absurd hcustom hne⟩
  · obtain ⟨hpath, hsize, -⟩ := hpages file hfile d hd
    exact (honward w' hw').2.exists_write hp (run.config.proper_documentFile hd) hpath hsize _ _
  · refine (honward w' hw').2.exists_write hp run.config.proper_indexFile hindex ?_ _ _
    rcases run.config.extension_cases with h | h <;>
      simp only [Config.pageFile, h] <;> decide
  · obtain ⟨rfl, -⟩ := Run.documentFiles_after files hloop
    rw [Run.zip_reports_fixed files hloop]
    unfold readCustomContent at hread
    rw [if_pos (by simp [hcustom])] at hread
    obtain rfl := Except.ok.inj (Prod.mk.inj hread).1
    exact htext

/-- A bad component never stops a run, and the run accounts for every file.  Suppose that
it has come to the discovered files, and that pages can be written from there on.  Then
it ends well.  The discovered files, in order, are made up of the skipped ones and the
documented ones; which is which is up to the reports alone; and the index and the written
paths list the documented components in order.  There is an index page exactly if a file
was discovered. -/
theorem generateWith_accounts {env : Environment} {find : Finder}
    {source : Config → Path → ReportSource} {path : String} {overrides : Json.Fields}
    {w w₁ : World} {root : Path} {run : Run} {files : List Path}
    (hstart : (Run.start env find path overrides).exec w = (.ok (root, run, files), w₁))
    (hospitable : Hospitable env (source run.config root) root run files w₁) :
    ∃ result w₂, (generateWith env find source path overrides).exec w = (.ok result, w₂) ∧
      result.config = run.config ∧ result.outDir = run.outDir ∧
      ∃ reports, reports =
          Run.reports env (source run.config root) run files
            (w₁.report (Run.foundRecord files)) ∧
        reports.length = files.length ∧
        result.skipped = Outcome.skipped (files.zip reports) ∧
        Interleaving result.skipped (Outcome.documented (files.zip reports)) files ∧
        (∀ report d, documented? report = some d ↔
          ∃ fields, report = .ok (.obj fields) ∧ d = .ofFields fields ∧
            ∃ name, d.displayName = some name ∧ Page.isSafeName name = true) ∧
        result.entries = (Outcome.documents (files.zip reports)).map Document.entry ∧
        result.written = (Outcome.documents (files.zip reports)).map (fun d =>
          run.outDir.child (d.name ++ "." ++ run.config.extension)) ∧
        (Outcome.documents (files.zip reports)).length =
          (Outcome.documented (files.zip reports)).length ∧
        result.indexPath = if files = [] then none else
          some (run.outDir.child ("index" ++ "." ++ run.config.extension)) := by
  obtain ⟨reports, hreports, hlength, hdocument⟩ := Run.exec_document_of_hospitable run hospitable
  have hgenerate : (generateWith env find source path overrides).exec w =
      (Run.document env (source run.config root) root run files).exec w₁ :=
    Action.exec_bind_of_ok hstart _
  have hrun := Run.eq_of_start hstart
  have hwhole : Interleaving (Outcome.skipped (files.zip reports))
      (Outcome.documented (files.zip reports)) files := by
    have := Outcome.interleaving (files.zip reports)
    rwa [List.map_fst_zip (by omega)] at this
  -- a run without files is the run after none, but for the index page
  have hresult : (if files = [] then run else
        { run.after (files.zip reports) with
          indexPath := some (run.outDir.child (run.config.pageFile Page.indexName)) }) =
      { run.after (files.zip reports) with
        indexPath := if files = [] then none else
          some (run.outDir.child (run.config.pageFile Page.indexName)) } := by
    split
    · next hnil =>
        rw [hnil, hrun]
        rfl
    · rfl
  rw [hresult] at hdocument
  rcases hexec : (Run.document env (source run.config root) root run files).exec w₁ with ⟨r, w₂⟩
  rw [hexec] at hdocument hgenerate
  obtain rfl : r = _ := hdocument
  have hskipped : run.skipped = [] := by rw [hrun]
  have hentries : run.entries = [] := by rw [hrun]
  have hwritten : run.written = [] := by rw [hrun]
  refine ⟨_, w₂, hgenerate, rfl, rfl, reports, hreports, hlength, ?_, ?_,
    fun _ _ => documented?_eq_some_iff, ?_, ?_, Outcome.length_documents _, rfl⟩
  · simp [Run.after, hskipped]
  · simpa [Run.after, hskipped] using hwhole
  · simp [Run.after, hentries]
  · simp [Run.after, hwritten, Config.pageFile]

/-- Of two components, one has no report: its file is skipped. -/
theorem generateWith_accounts_two_files :
    ∃ result w₂, (generateWith Sample.env (fun _ => pure (Sample.files ["A.vue", "B.vue"]))
        (fun _ _ => .fixed (Sample.reports [("A.vue", Sample.report "A" "")])) "."
        Sample.overrides).exec (Sample.world Sample.directories []) = (.ok result, w₂) ∧
      result.skipped = Sample.files ["B.vue"] ∧
      result.indexPath = some ⟨.slash, ["w", "o", "index.md"]⟩ := by
  have hstart := @Sample.exec_start (Sample.files ["A.vue", "B.vue"]) (by decide +kernel)
  have hfree : (Sample.found (Sample.files ["A.vue", "B.vue"])).files.Free Sample.run.outDir
      ["w", "o"] :=
    FileSystem.free_of_children (FileSystem.isTree_of_entries (by decide +kernel))
      (by decide +kernel) (by decide +kernel) (by decide +kernel)
  have hospitable : Hospitable Sample.env
      (.fixed (Sample.reports [("A.vue", Sample.report "A" "")])) ⟨.slash, ["w"]⟩ Sample.run
      (Sample.files ["A.vue", "B.vue"]) (Sample.found (Sample.files ["A.vue", "B.vue"])) :=
    hospitable_fixed (by decide +kernel) ⟨by decide, by decide⟩ hfree rfl (by decide +kernel)
      (by decide +kernel) (by decide +kernel)
  obtain ⟨result, w₂, hexec, -, -, reports, hreports, -, hskipped, -, -, -, -, -, hindex⟩ :=
    @generateWith_accounts Sample.env _
      (fun _ _ => .fixed (Sample.reports [("A.vue", Sample.report "A" "")])) _ _ _ _ _ _ _ hstart
      hospitable
  refine ⟨result, w₂, hexec, ?_, hindex⟩
  rw [hskipped, hreports]
  decide +kernel

/-- What a parser reports that leaves one half of a surrogate pair for a description. -/
def Sample.torn : Except Fault Json :=
  Json.ofEnding "node" (.ok {
    status := 0
    output := Utf8.encode
      "\x7b\"displayName\": \"A\", \"description\": \"\\ud800\"\x7d".toList
    errors := [] })

/-- Without component files there is no index page.  And although the path of the custom
content resolves, the run stops where it cannot be looked up in a closed directory.  It stops as
well at a page that cannot be encoded. -/
theorem generate_without_index :
    ((generate Sample.env (fun _ _ => .fixed (Sample.reports [])) "." Sample.overrides).exec
        (Sample.world Sample.directories [])).1 = .ok Sample.run ∧
      Sample.run.indexPath = none ∧
      (let closed := Sample.world
        (Sample.directories ++ [(["w", "c", "A.vue"], Sample.file ""), (["w", "x"], .directory)])
        [(["w", "x"], { mode := 0 })]
      Sample.env.resolvePath closed.files ["w"] ⟨.slash, ["w"]⟩ "x/y" =
          .ok ⟨.slash, ["w", "x", "y"]⟩ ∧
        ((generate Sample.env (fun _ _ => .fixed (Sample.reports [])) "."
          (("customContent", .obj [("md", .str "x/y")]) :: Sample.overrides)).exec closed).1 =
            .error (.system .denied "/w/x/y")) ∧
      ((generate { home := "/" } (fun _ _ => .fixed (Sample.reports [("A.vue", Sample.torn)])) "."
        Sample.overrides).exec (Sample.world
          (Sample.directories ++ [(["w", "c", "A.vue"], Sample.file "")]) [])).1 =
            .error (.unencodable ⟨13, 13, 0xD800⟩) := by
  decide +kernel

end ComponentReference
