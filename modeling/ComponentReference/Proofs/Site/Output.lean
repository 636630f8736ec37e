import ComponentReference.Proofs.Host.Writing
import ComponentReference.Proofs.Site.Accounting
import ComponentReference.Proofs.Site.Steps

/-!
# What a run leaves in the output directory

Here the reports are fixed, so that a run changes files by itself alone.  Then what it
leaves is known at every place: the directories on the way to the output directory, and
in it the pages, written one after the other; the last file may be left empty if its page
has no bytes.  `Run.Ended` says so, for a run that has ended
well as for one that a fault has stopped in the middle, and `Run.documentFiles_looped` is the
simulation behind it: the loop over the files goes along with the list of the pages that
have been written so far.  `generateWith_course` puts the steps before the loop in front.
-/

namespace ComponentReference

variable {env : Environment} {report : Path → Except Fault Json} {root : Path} {run : Run}
  {files : List Path} {w w' : World} {fs : FileSystem} {place : Location}

theorem FileSystem.Made.plain {fs fs' : FileSystem} {place : Location} (h : fs.Made fs' place)
    (plain : fs.Plain place) : fs'.Plain place := by
  refine ⟨fun name target hlink => ?_, fun name content hfile => ?_⟩
  · rw [h.get?_child] at hlink
    exact plain.noLink name target hlink
  · rw [h.get?_child] at hfile
    exact h.names (plain.oneName name content hfile)

/-! ## The pages of a run -/

/-- The page of a document, as it is written. -/
def Config.pageOf (config : Config) (d : Document) : String × Bytes :=
  (config.pageFile d.name, Utf8.encode (Page.ofDocument d config).body.toList)

/-- The index page, as it is written. -/
def Config.indexOf (config : Config) (entries : List IndexEntry) (custom : String) :
    String × Bytes :=
  (config.pageFile Page.indexName, Utf8.encode (Page.index config entries custom).body.toList)

/-- The documents of the components in the files. -/
def documentsOf (report : Path → Except Fault Json) (files : List Path) : List Document :=
  files.filterMap fun file => documented? (report file)

/-- The pages of the components in the files, in the order in which they are written. -/
def pagesOf (report : Path → Except Fault Json) (config : Config) (files : List Path) :
    List (String × Bytes) :=
  (documentsOf report files).map config.pageOf

theorem documents_map (report : Path → Except Fault Json) (files : List Path) :
    Outcome.documents (files.map fun file => (file, report file)) = documentsOf report files := by
  unfold Outcome.documents documentsOf
  rw [List.filterMap_map]
  rfl

/-! ## One page -/

/-- What is written stands in the way of no page: its path is one, and there is no half of a
surrogate pair in the page or in its path. -/
structure Environment.Allows (env : Environment) (outDir : Path) (page : Page) : Prop where
  path : FileSystem.textFault? (outDir.child page.filename).text = none
  encodes : env.Encodes (outDir.child page.filename).text page.body

section OnePage

variable {p : Path} {pages : List (String × Bytes)} {files : FileSystem} {page : Page}
  (tree : fs.IsTree) (hp : p.IsSettled) (hleads : fs.Leads p place)
  (hname : Path.Proper page.filename) (h : fs.Overlaid w.files place pages)
include tree hp hleads hname h

/-- A page has been written into the directory that the path leads to. -/
theorem overlaid_of_write
    (hwrite : env.writeFile w.files w.directory (p.child page.filename).text page.body =
      (.ok (), files)) :
    env.Allows p page ∧ w.files.Grows files ∧
      fs.Overlaid files place (pages ++ [(page.filename, Utf8.encode page.body.toList)]) := by
  obtain ⟨hencodes, hwrite⟩ := Environment.writeFile_ok_iff.mp hwrite
  have hleads' := hleads.grows tree h.grows
  obtain ⟨htext, haccepts, rfl⟩ := (FileSystem.write_child_iff h.tree hp hname hleads'
    (h.plain.noLink page.filename) _).mp hwrite
  exact ⟨⟨htext, hencodes⟩, FileSystem.grows_written h.plain page.filename _,
    h.written (hleads.get? tree) hname haccepts⟩

/-- If it could not be written, its file has been left empty at most. -/
theorem overlaid_of_refused {fault : Fault}
    (hwrite : env.writeFile w.files w.directory (p.child page.filename).text page.body =
      (.error fault, files)) :
    ∃ emptied, (∀ left ∈ emptied, left = (page.filename, [])) ∧
      fs.Overlaid files place (pages ++ emptied) := by
  rcases Environment.writeFile_error hwrite with rfl | hempty
  · exact ⟨[], by simp, by simpa using h⟩
  · have hleads' := hleads.grows tree h.grows
    obtain ⟨-, haccepts, rfl⟩ := (FileSystem.write_child_iff h.tree hp hname hleads'
      (h.plain.noLink page.filename) _).mp hempty
    exact ⟨[(page.filename, [])], by simp, h.written (hleads.get? tree) hname haccepts⟩

/-- A page that nothing stands in the way of is written if its file takes it. -/
theorem exists_writeFile (hallows : env.Allows p page)
    (haccepts : w.files.Accepts place page.filename (Utf8.encode page.body.toList)) :
    ∃ files, env.writeFile w.files w.directory (p.child page.filename).text page.body =
      (.ok (), files) := by
  have hwrite := (FileSystem.write_child_iff h.tree hp hname (hleads.grows tree h.grows)
    (h.plain.noLink page.filename) w.directory).mpr ⟨hallows.path, haccepts, rfl⟩
  exact ⟨_, Environment.writeFile_ok_iff.mpr ⟨hallows.encodes, hwrite⟩⟩

end OnePage

/-! ## The loop over the files -/

/-- What is left when the loop over the files has ended, well or not: the pages of the
files that it has come through, and an empty one if the loop has stopped there. -/
structure Run.Looped (env : Environment) (fs : FileSystem) (place : Location)
    (report : Path → Except Fault Json) (run : Run) (files : List Path)
    (pages : List (String × Bytes)) (w : World) (r : Except Fault Run) (w' : World) : Prop where
  logFile : w'.logFile = none
  directory : w'.directory = w.directory
  overlaid : ∃ done emptied, done <+: files ∧
    (∀ left ∈ emptied, ∃ d ∈ documentsOf report files, left = (run.config.pageFile d.name, [])) ∧
    fs.Overlaid w'.files place (pages ++ pagesOf report run.config done ++ emptied) ∧
      ∀ run', r = .ok run' → done = files ∧ emptied = []
  ok : ∀ run', r = .ok run' → run' = run.after (files.map fun file => (file, report file)) ∧
    ∀ d ∈ documentsOf report files, env.Allows run.outDir (Page.ofDocument d run.config)

/-- One file more: it is skipped, its page is written, or the loop stops before that. -/
theorem Run.Looped.cons {pages : List (String × Bytes)} {r : Except Fault Run} {file : Path}
    {w₁ : World} {run₁ : Run}
    (h : Run.Looped env fs place report run₁ files (pages ++ pagesOf report run.config [file]) w₁
      r w')
    (hconfig : run₁.config = run.config) (houtDir : run₁.outDir = run.outDir)
    (hafter : ∀ rest, run₁.after rest = run.after ((file, report file) :: rest))
    (hdirectory : w₁.directory = w.directory)
    (hallows : ∀ d ∈ documentsOf report [file],
      env.Allows run.outDir (Page.ofDocument d run.config)) :
    Run.Looped env fs place report run (file :: files) pages w r w' := by
  have hsplit : ∀ done, documentsOf report (file :: done) =
      documentsOf report [file] ++ documentsOf report done :=
    fun done => List.filterMap_append (l := [file])
  obtain ⟨done, emptied, hbegin, hemptied, hover, hdone⟩ := h.overlaid
  refine ⟨h.logFile, h.directory.trans hdirectory, ⟨file :: done, emptied, ?_, ?_, ?_, ?_⟩, ?_⟩
  · exact List.cons_prefix_cons.mpr ⟨rfl, hbegin⟩
  · intro left hleft
    obtain ⟨d, hd, heq⟩ := hemptied left hleft
    rw [hsplit, ← hconfig]
    exact ⟨d, List.mem_append_right _ hd, heq⟩
  · rw [hconfig, List.append_assoc pages] at hover
    rw [pagesOf, hsplit, List.map_append]
    exact hover
  · intro run' hok
    obtain ⟨rfl, rfl⟩ := hdone run' hok
    exact ⟨rfl, rfl⟩
  · intro run' hok
    obtain ⟨hrun, hrest⟩ := h.ok run' hok
    refine ⟨hrun.trans (hafter _), fun d hd => ?_⟩
    rw [hsplit] at hd
    rcases List.mem_append.mp hd with hfirst | hlater
    · exact hallows d hfirst
    · rw [← hconfig, ← houtDir]
      exact hrest d hlater

theorem Run.documentFiles_looped (tree : fs.IsTree) (files : List Path) :
    ∀ {run : Run} {r : Except Fault Run} {w w' : World} {pages : List (String × Bytes)},
      fs.Leads run.outDir place → run.outDir.IsSettled → w.logFile = none →
      fs.Overlaid w.files place pages →
      (Run.documentFiles env (.fixed report) run files).exec w = (r, w') →
        Run.Looped env fs place report run files pages w r w' := by
  induction files with
  | nil =>
      intro run r w w' pages hleads hp hlog hover h
      obtain ⟨rfl, rfl⟩ := Prod.mk.inj h
      refine ⟨hlog, rfl, ⟨[], [], List.prefix_rfl, by simp,
        by simpa [pagesOf, documentsOf] using hover, fun _ _ => ⟨rfl, rfl⟩⟩,
        fun run' hok => ⟨?_, by simp [documentsOf]⟩⟩
      rw [← Except.ok.inj hok]
      simp [after, Outcome.skipped, Outcome.documents]
  | cons file rest ih =>
      intro run r w w' pages hleads hp hlog hover h
      rw [documentFiles] at h
      cases hdocumented : documented? (report file) with
      | none =>
          obtain ⟨records, hexec⟩ :=
            @exec_documentFile_skip env (.fixed report) w file run hdocumented
          have halike := World.alike_foldl_report hlog records
          have hnone : documentsOf report [file] = [] := by simp [documentsOf, hdocumented]
          rw [Action.exec_bind_of_ok hexec] at h
          have hover' : fs.Overlaid (records.foldl World.report w).files place
              (pages ++ pagesOf report run.config [file]) := by
            rw [halike.files, pagesOf, hnone]
            simpa using hover
          have hrest := @ih (run.skip file) _ _ _ _ hleads hp halike.logFile.2 hover' h
          exact hrest.cons rfl rfl (after_skip hdocumented file) halike.directory (by simp [hnone])
      | some d =>
          obtain ⟨records, hexec⟩ :=
            @exec_documentFile_page env (.fixed report) w file run d hdocumented
          have hsome : documentsOf report [file] = [d] := by simp [documentsOf, hdocumented]
          have hfixed : ReportSource.fixed report w file = (report file, w) := rfl
          have hproper : Path.Proper (Page.ofDocument d run.config).filename :=
            run.config.proper_documentFile hdocumented
          rw [hfixed] at hexec
          rcases hwrite : env.writeFile w.files w.directory
              (run.outDir.child (run.config.pageFile d.name)).text
              (Page.ofDocument d run.config).body with ⟨fault | ⟨⟨⟩⟩, written⟩
          · rw [hwrite] at hexec
            rw [Action.exec_bind_of_error hexec] at h
            obtain ⟨rfl, rfl⟩ := Prod.mk.inj h
            obtain ⟨emptied, hemptied, hover'⟩ :=
              overlaid_of_refused tree hp hleads hproper hover hwrite
            refine ⟨hlog, rfl, ⟨[], emptied, List.nil_prefix, fun left hleft => ?_,
              by simpa [pagesOf, documentsOf] using hover', by simp⟩, by simp⟩
            exact ⟨d, by simp [documentsOf, hdocumented], hemptied left hleft⟩
          · rw [hwrite] at hexec
            have halike := @World.alike_foldl_report { w with files := written } hlog records
            obtain ⟨hallows, -, hover'⟩ := overlaid_of_write tree hp hleads hproper hover hwrite
            rw [Action.exec_bind_of_ok hexec] at h
            have hpage : pagesOf report run.config [file] = [run.config.pageOf d] := by
              rw [pagesOf, hsome, List.map_singleton]
            have hrest := @ih (run.withPage d) _ _ _ (pages ++ pagesOf report run.config [file])
              hleads hp halike.logFile.2 (by rw [halike.files, hpage]; exact hover') h
            exact hrest.cons rfl rfl (after_withPage hdocumented file) halike.directory
              (by simpa [hsome] using hallows)

/-! ## The index page -/

/-- The run with its index page. -/
def Run.indexed (run : Run) : Run :=
  { run with indexPath := some (run.outDir.child (run.config.pageFile Page.indexName)) }

/-- The index page is written with the custom content that was read, or not at all; its file
may have been left empty then. -/
theorem Run.writeIndex_overlaid {pages : List (String × Bytes)} {r : Except Fault Run}
    (tree : fs.IsTree) (hleads : fs.Leads run.outDir place) (hp : run.outDir.IsSettled)
    (hlog : w.logFile = none) (hover : fs.Overlaid w.files place pages)
    (h : (Run.writeIndex env root run).exec w = (r, w')) :
    w'.logFile = none ∧ w'.directory = w.directory ∧
      ((∃ fault emptied, r = .error fault ∧
          (∀ left ∈ emptied, left = (run.config.pageFile Page.indexName, [])) ∧
          fs.Overlaid w'.files place (pages ++ emptied)) ∨
        ∃ custom, ((readCustomContent env run.config root).exec w).1 = .ok custom ∧
          env.Allows run.outDir (Page.index run.config run.entries custom) ∧
          w.files.Grows w'.files ∧
          fs.Overlaid w'.files place (pages ++ [run.config.indexOf run.entries custom]) ∧
          r = .ok run.indexed) := by
  rw [writeIndex] at h
  rcases hread : (readCustomContent env run.config root).exec w with ⟨fault | custom, w₁⟩
  · have halike := (quiet_readCustomContent env run.config root).alike hlog hread
    rw [Action.exec_bind_of_error hread] at h
    obtain ⟨rfl, rfl⟩ := Prod.mk.inj h
    refine ⟨halike.logFile.2, halike.directory, .inl ⟨fault, [], rfl, by simp, ?_⟩⟩
    rw [List.append_nil, halike.files]
    exact hover
  have halike := (quiet_readCustomContent env run.config root).alike hlog hread
  rw [← halike.files] at hover
  have hproper : Path.Proper (Page.index run.config run.entries custom).filename :=
    run.config.proper_indexFile
  obtain ⟨record, hpage⟩ := exec_writePage env run.outDir hproper w₁
  rw [Action.exec_bind_of_ok hread] at h
  rcases hwrite : env.writeFile w₁.files w₁.directory
      (run.outDir.child (Page.index run.config run.entries custom).filename).text
      (Page.index run.config run.entries custom).body with ⟨fault | ⟨⟨⟩⟩, written⟩
  · rw [hwrite] at hpage
    rw [Action.exec_bind_of_error hpage] at h
    obtain ⟨rfl, rfl⟩ := Prod.mk.inj h
    obtain ⟨emptied, hemptied, hover'⟩ := overlaid_of_refused tree hp hleads hproper hover hwrite
    exact ⟨halike.logFile.2, halike.directory, .inl ⟨fault, emptied, rfl, hemptied, hover'⟩⟩
  · rw [hwrite] at hpage
    rw [Action.exec_bind_of_ok hpage] at h
    obtain ⟨hallows, hgrows, hover'⟩ := overlaid_of_write tree hp hleads hproper hover hwrite
    have hreports := @World.alike_foldl_report { w₁ with files := written } halike.logFile.2
      [record, ⟨.info, .run, "Generated index: " ++ (run.outDir.child
        (Page.index run.config run.entries custom).filename).text⟩,
        ⟨.info, .run, "Documentation generation complete"⟩]
    obtain ⟨rfl, rfl⟩ := Prod.mk.inj h
    refine ⟨hreports.logFile.2, hreports.directory.trans halike.directory,
      .inr ⟨custom, rfl, hallows, ?_, ?_, rfl⟩⟩
    · exact hreports.files.symm ▸ halike.files ▸ hgrows
    · exact hreports.files.symm ▸ hover'

/-! ## From the component files to the end -/

/-- How a run ends that has come to its component files. -/
inductive Run.Ended (env : Environment) (fs : FileSystem) (place : Location)
    (report : Path → Except Fault Json) (root : Path) (run : Run) (files : List Path) (w : World)
    (w' : World) : Except Fault Run → Prop
  /-- There was nothing to document. -/
  | empty (hfiles : files = []) (hover : fs.Overlaid w'.files place []) : Ended env fs place report
      root run files w w' (.ok run)
  /-- A fault has stopped the run after some of the pages; the next one may have been left
  empty. -/
  | stopped (fault : Fault) (done : List Path) (emptied : List (String × Bytes))
      (hdone : done <+: files)
      (hemptied : ∀ left ∈ emptied, ∃ name, left = (run.config.pageFile name, []) ∧
        (name = Page.indexName ∨ ∃ d ∈ documentsOf report files, d.name = name))
      (hover : fs.Overlaid w'.files place (pagesOf report run.config done ++ emptied)) :
      Ended env fs place report root run files w w' (.error fault)
  /-- All pages have been written, and then the index page. -/
  | whole (w₁ : World) (custom : String) (hfiles : files ≠ [])
      (hloop : (Run.documentFiles env (.fixed report) run files).exec
          (w.report (foundRecord files)) =
        (.ok (run.after (files.map fun file => (file, report file))), w₁))
      (hcustom : ((readCustomContent env run.config root).exec w₁).1 = .ok custom)
      (hallows : ∀ d ∈ documentsOf report files,
        env.Allows run.outDir (Page.ofDocument d run.config))
      (hindex : env.Allows run.outDir (Page.index run.config
        (run.entries ++ (documentsOf report files).map Document.entry) custom))
      (hover₁ : fs.Overlaid w₁.files place (pagesOf report run.config files))
      (hgrows : w₁.files.Grows w'.files)
      (hover : fs.Overlaid w'.files place (pagesOf report run.config files ++
        [run.config.indexOf (run.entries ++ (documentsOf report files).map Document.entry)
          custom])) :
      Ended env fs place report root run files w w'
        (.ok (run.after (files.map fun file => (file, report file))).indexed)

theorem Run.document_ended {r : Except Fault Run} (tree : fs.IsTree)
    (hleads : fs.Leads run.outDir place) (hp : run.outDir.IsSettled) (hlog : w.logFile = none)
    (hover : fs.Overlaid w.files place [])
    (h : (Run.document env (.fixed report) root run files).exec w = (r, w')) :
    w'.logFile = none ∧ w'.directory = w.directory ∧
      Run.Ended env fs place report root run files w w' r := by
  rw [document] at h
  by_cases hnil : files = []
  · subst hnil
    have halike := World.alike_report hlog ⟨.info, .run, "No component files found"⟩
    obtain ⟨rfl, rfl⟩ := Prod.mk.inj h
    exact ⟨halike.logFile.2, halike.directory, .empty rfl (halike.files.symm ▸ hover)⟩
  have hfound : (Action.report .info .run
      ("Found " ++ toString files.length ++ " component files")).exec w =
        (.ok (), w.report (foundRecord files)) := rfl
  have halike := World.alike_report hlog (foundRecord files)
  rw [if_neg (by simpa using hnil), Action.exec_bind_of_ok hfound] at h
  rcases hloop : (documentFiles env (.fixed report) run files).exec
    (w.report (foundRecord files)) with ⟨fault | run', w₁⟩
  · have hlooped := documentFiles_looped tree files hleads hp halike.logFile.2
      (halike.files.symm ▸ hover) hloop
    rw [Action.exec_bind_of_error hloop] at h
    obtain ⟨rfl, rfl⟩ := Prod.mk.inj h
    obtain ⟨done, emptied, hdone, hemptied, hover', -⟩ := hlooped.overlaid
    refine ⟨hlooped.logFile, hlooped.directory.trans halike.directory,
      .stopped fault done emptied hdone (fun left hleft => ?_) hover'⟩
    obtain ⟨d, hd, rfl⟩ := hemptied left hleft
    exact ⟨d.name, rfl, .inr ⟨d, hd, rfl⟩⟩
  · have hlooped := documentFiles_looped tree files hleads hp halike.logFile.2
      (halike.files.symm ▸ hover) hloop
    rw [Action.exec_bind_of_ok hloop] at h
    obtain ⟨done, emptied, -, -, hover₁, hall⟩ := hlooped.overlaid
    obtain ⟨rfl, rfl⟩ := hall run' rfl
    rw [List.nil_append, List.append_nil] at hover₁
    obtain ⟨rfl, hallows⟩ := hlooped.ok run' rfl
    have hleads' : fs.Leads (run.after (done.map fun file => (file, report file))).outDir place :=
      hleads
    obtain ⟨hlog', hdirectory, hend⟩ :=
      writeIndex_overlaid tree hleads' hp hlooped.logFile hover₁ h
    refine ⟨hlog', hdirectory.trans (hlooped.directory.trans halike.directory), ?_⟩
    rcases hend with ⟨fault, emptied, rfl, hemptied, hover'⟩ |
      ⟨custom, hcustom, hindex, hgrows, hover', rfl⟩
    · exact .stopped fault done emptied List.prefix_rfl
        (fun left hleft => ⟨Page.indexName, hemptied left hleft, .inl rfl⟩) hover'
    · refine .whole w₁ custom hnil hloop hcustom hallows ?_ hover₁ hgrows ?_
      · rw [← documents_map]
        exact hindex
      · rw [← documents_map]
        exact hover'

/-! ## The whole run -/

/-- The course of a run that does not write anything but pages. -/
inductive Course (env : Environment) (find : Finder)
    (reports : Config → Path → Path → Except Fault Json) (path : String)
    (overrides : Json.Fields) (w : World) (r : Except Fault Run) (w' : World) : Prop
  /-- The run could not be planned. -/
  | unplanned (hr : ∀ run, r ≠ .ok run) (halike : w.Alike w')
  /-- The output directory could not be made, or the component files were not found. -/
  | unstarted (root : Path) (run : Run) (w₀ : World)
      (hplan : (Run.plan env path overrides).exec w = (.ok (root, run), w₀))
      (hr : ∀ run, r ≠ .ok run)
      (hmade : w.files.Made w'.files (w.files.placeOf run.outDir))
  /-- The component files were found, and all that followed was writing pages. -/
  | started (root : Path) (run : Run) (w₀ : World) (files : List Path) (w₁ : World)
      (hplan : (Run.plan env path overrides).exec w = (.ok (root, run), w₀))
      (hstart : (Run.start env find path overrides).exec w = (.ok (root, run, files), w₁))
      (hlog : w₁.logFile = none ∧ w'.logFile = none)
      (hdirectory : w₁.directory = w.directory ∧ w'.directory = w.directory)
      (hmade : w.files.Made w₁.files (w.files.placeOf run.outDir))
      (hreached : w.files.Reached w₁.files run.outDir)
      (hended : Run.Ended env w₁.files (w.files.placeOf run.outDir) (reports run.config root)
        root run files w₁ w' r)

theorem generateWith_course {find : Finder} {path : String} {overrides : Json.Fields}
    {reports : Config → Path → Path → Except Fault Json} {r : Except Fault Run}
    (hfind : ∀ dir, (find dir).Quiet) (hlog : w.logFile = none) (tree : w.files.IsTree)
    (hplain : ∀ root run w₀, (Run.plan env path overrides).exec w = (.ok (root, run), w₀) →
      w.files.Plain (w.files.placeOf run.outDir))
    (h : (generateWith env find (fun config root => .fixed (reports config root)) path
      overrides).exec w = (r, w')) :
    Course env find reports path overrides w r w' := by
  unfold generateWith at h
  rcases hstart : (Run.start env find path overrides).exec w with ⟨fault | ⟨root, run, files⟩, w₁⟩
  · rw [Action.exec_bind_of_error hstart] at h
    obtain ⟨rfl, rfl⟩ := Prod.mk.inj h
    cases Run.started hfind hlog tree hstart with
    | unplanned _ halike => exact .unplanned (by simp) halike
    | planned root run w₀ hplan _ _ hmade _ => exact .unstarted root run w₀ hplan (by simp) hmade
  · rw [Action.exec_bind_of_ok hstart] at h
    cases Run.started hfind hlog tree hstart with
    | unplanned hr _ => exact absurd rfl (hr _)
    | planned root' run' w₀ hplan hlog₁ hdirectory hmade hok =>
        obtain ⟨rfl, rfl, hreached⟩ := hok root run files rfl
        have hp := (Run.isSettled_of_plan hlog tree hplan).2
        have hover : w₁.files.Overlaid w₁.files (w.files.placeOf run.outDir) [] :=
          .refl hmade.tree (hmade.plain (hplain root run w₀ hplan))
        obtain ⟨hlog', hdirectory', hended⟩ :=
          Run.document_ended hmade.tree hreached.leads hp hlog₁ hover h
        exact .started root run w₀ files w₁ hplan hstart ⟨hlog₁, hlog'⟩
          ⟨hdirectory, hdirectory'.trans hdirectory⟩ hmade hreached hended

end ComponentReference
