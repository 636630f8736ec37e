import ComponentReference.Proofs.Site.Output

/-!
# The phases of a run that ends well

A run that has come to its component files, and ends well, goes through all of them and then
writes the index page.  Here such a run is taken apart into these phases.  Nothing is asked of
the files; what the phases leave is told for reports that are fixed.

What the pages leave is told by a property of the files and of the pages written so far
that every write of a page keeps: `documentFiles_keeps` carries it through the loop.
-/

namespace ComponentReference.Run

variable {env : Environment} {report : Path → Except Fault Json} {root : Path}
  {run result : Run} {files : List Path} {w w' : World}

/-! ## The loop over the files -/

/-- What one file leads to: it is skipped, or the page of its component is written. -/
theorem documentFile_ok {file : Path}
    (h : (documentFile env (.fixed report) run file).exec w = (.ok result, w')) :
    (documented? (report file) = none ∧ result = run.skip file ∧
        ∃ records : List Record, w' = records.foldl World.report w) ∨
      ∃ d, documented? (report file) = some d ∧ result = run.withPage d ∧
        ∃ written, w.files.write w.directory (run.outDir.child (run.config.pageFile d.name)).text
            (Utf8.encode (Page.ofDocument d run.config).body.toList) = .ok written ∧
          ∃ records : List Record, w' = records.foldl World.report { w with files := written } := by
  have hfixed : ReportSource.fixed report w file = (report file, w) := rfl
  cases hdocumented : documented? (report file) with
  | none =>
      obtain ⟨records, hexec⟩ := @exec_documentFile_skip env (.fixed report) w file run hdocumented
      rw [hexec] at h
      obtain ⟨hrun, rfl⟩ := Prod.mk.inj h
      exact .inl ⟨rfl, (Except.ok.inj hrun).symm, records, rfl⟩
  | some d =>
      obtain ⟨records, hexec⟩ := @exec_documentFile_page env (.fixed report) w file run d hdocumented
      rw [hexec, hfixed] at h
      split at h
      · next written hwrite =>
          obtain ⟨hrun, rfl⟩ := Prod.mk.inj h
          exact .inr ⟨d, rfl, (Except.ok.inj hrun).symm, written,
            (Environment.writeFile_ok_iff.mp hwrite).2, records, rfl⟩
      · cases h

/-- What the loop over the files has done if it ends. -/
theorem documentFiles_fixed
    (h : (documentFiles env (.fixed report) run files).exec w = (.ok result, w')) :
    result = run.after (files.map fun file => (file, report file)) := by
  rw [(documentFiles_after files h).1, zip_reports_fixed files h]

section Keeping

variable {I : FileSystem → List (String × Bytes) → Prop} {outDir : Path}

/-- A property of the files and of the pages written so far that each page keeps, whatever
it holds. -/
def Keeps (I : FileSystem → List (String × Bytes) → Prop) (outDir : Path) : Prop :=
  ∀ fs fs' here pages name content, I fs pages → Path.Proper name →
    fs.write here (outDir.child name).text content = .ok fs' → I fs' (pages ++ [(name, content)])

/-- Such a property holds of all pages when the loop has ended. -/
theorem documentFiles_keeps (hkeeps : Keeps I outDir) (files : List Path) :
    ∀ {run : Run} {w : World} {pages : List (String × Bytes)}, run.outDir = outDir →
      w.logFile = none → I w.files pages →
      (documentFiles env (.fixed report) run files).exec w = (.ok result, w') →
        w'.logFile = none ∧ I w'.files (pages ++ pagesOf report run.config files) := by
  induction files with
  | nil =>
      intro run w pages _ hlog hI h
      obtain ⟨-, rfl⟩ := Prod.mk.inj h
      exact ⟨hlog, by simpa [pagesOf, documentsOf] using hI⟩
  | cons file rest ih =>
      intro run w pages houtDir hlog hI h
      obtain ⟨run₁, w₁, hfirst, hrest⟩ := Action.exec_bind_ok h
      have hsplit : pagesOf report run.config (file :: rest) =
          pagesOf report run.config [file] ++ pagesOf report run.config rest := by
        rw [pagesOf, pagesOf, pagesOf, ← List.map_append]
        exact congrArg _ (List.filterMap_append (l := [file]))
      rw [hsplit, ← List.append_assoc]
      obtain ⟨hnone, rfl, records, rfl⟩ | ⟨d, hsome, rfl, written, hwrite, records, rfl⟩ :=
        documentFile_ok hfirst
      · have halike := World.alike_foldl_report hlog records
        refine @ih (run.skip file) _ _ houtDir halike.logFile.2 ?_ hrest
        rw [halike.files]
        simpa [pagesOf, documentsOf, hnone] using hI
      · have halike := @World.alike_foldl_report { w with files := written } hlog records
        refine @ih (run.withPage d) _ _ houtDir halike.logFile.2 ?_ hrest
        rw [halike.files]
        have hpage : pagesOf report run.config [file] = [run.config.pageOf d] := by
          simp [pagesOf, documentsOf, hsome]
        rw [hpage]
        exact hkeeps _ _ _ _ _ _ hI (run.config.proper_documentFile hsome) (houtDir ▸ hwrite)

end Keeping

/-! ## The index page -/

/-- A run that has come through its files ends by writing the index page with the custom
content that it reads. -/
theorem writeIndex_ok (h : (writeIndex env root run).exec w = (.ok result, w')) :
    result = run.indexed ∧ ∃ custom w₁ written, ∃ records : List Record,
      (readCustomContent env run.config root).exec w = (.ok custom, w₁) ∧
      w₁.files.write w₁.directory (run.outDir.child (run.config.pageFile Page.indexName)).text
        (Utf8.encode (Page.index run.config run.entries custom).body.toList) = .ok written ∧
      w' = records.foldl World.report { w₁ with files := written } := by
  obtain ⟨custom, w₁, hread, hwrite⟩ := Action.exec_bind_ok h
  obtain ⟨record, hpage⟩ := exec_writePage env run.outDir
    (show Path.Proper (Page.index run.config run.entries custom).filename from
      run.config.proper_indexFile) w₁
  obtain ⟨p, w₂, hwritten, hend⟩ := Action.exec_bind_ok hwrite
  rw [hpage] at hwritten
  split at hwritten
  · next written hfiles =>
      obtain ⟨hp, rfl⟩ := Prod.mk.inj hwritten
      obtain rfl := Except.ok.inj hp
      obtain ⟨hresult, rfl⟩ := Prod.mk.inj hend
      exact ⟨(Except.ok.inj hresult).symm, custom, w₁, written, [record, _, _], hread,
        (Environment.writeFile_ok_iff.mp hfiles).2, rfl⟩
  · cases hwritten

/-! ## From the component files to the end -/

/-- Without component files a run has nothing to do.  Otherwise it goes through them, and then
writes the index page. -/
theorem document_phases {source : ReportSource}
    (h : (document env source root run files).exec w = (.ok result, w')) :
    (files = [] ∧ result = run ∧ ∃ record, w' = w.report record) ∨
      files ≠ [] ∧ ∃ documented w₁,
        (documentFiles env source run files).exec (w.report (foundRecord files)) =
          (.ok documented, w₁) ∧
        (writeIndex env root documented).exec w₁ = (.ok result, w') := by
  unfold document at h
  by_cases hnil : files = []
  · subst hnil
    obtain ⟨hrun, rfl⟩ := Prod.mk.inj h
    exact .inl ⟨rfl, (Except.ok.inj hrun).symm, _, rfl⟩
  · rw [if_neg (by simpa using hnil)] at h
    obtain ⟨_, w₁, hfound, hloop⟩ := Action.exec_bind_ok h
    obtain ⟨documented, w₂, hfiles, hindex⟩ := Action.exec_bind_ok hloop
    obtain ⟨-, rfl⟩ := Prod.mk.inj hfound
    exact .inr ⟨hnil, documented, w₂, hfiles, hindex⟩

/-- With fixed reports it is known what the run has done before it writes the index page. -/
theorem document_ok (h : (document env (.fixed report) root run files).exec w =
    (.ok result, w')) :
    (files = [] ∧ result = run ∧ ∃ record, w' = w.report record) ∨
      files ≠ [] ∧ ∃ w₁,
        (documentFiles env (.fixed report) run files).exec (w.report (foundRecord files)) =
          (.ok (run.after (files.map fun file => (file, report file))), w₁) ∧
        (writeIndex env root (run.after (files.map fun file => (file, report file)))).exec w₁ =
          (.ok result, w') := by
  obtain hnil | ⟨hfiles, documented, w₁, hloop, hindex⟩ := document_phases h
  · exact .inl hnil
  · obtain rfl := documentFiles_fixed hloop
    exact .inr ⟨hfiles, w₁, hloop, hindex⟩

/-- The lists that such a run has made. -/
theorem document_after (h : (document env (.fixed report) root run files).exec w =
    (.ok result, w')) :
    result = run.after (files.map fun file => (file, report file)) ∨
      result = (run.after (files.map fun file => (file, report file))).indexed := by
  obtain ⟨rfl, rfl, -⟩ | ⟨-, w₁, -, hindex⟩ := document_ok h
  · exact .inl (by simp [after, Outcome.skipped, Outcome.documents])
  · exact .inr (writeIndex_ok hindex).1

end ComponentReference.Run
