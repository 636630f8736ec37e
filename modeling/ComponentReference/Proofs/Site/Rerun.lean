import ComponentReference.Proofs.Config.Layering
import ComponentReference.Proofs.Site.Containment
import ComponentReference.Proofs.Site.Discovering

/-!
# Running again changes nothing

A run that has ended well ends well again, with the same result, and leaves every file as
it is.  The reports are fixed, and there are no links.

## Strategy

Each step of the second run reads a file system that the first one has changed: there are
new directories, all of them on the way to the output directory, and the pages in it.  So
each step has a lemma of its own that says that it does not mind.

* The configuration file is never a page.  At most it has become a directory, which is
  rejected and leaves the configuration as it was without a file.
* The component files are the same, since the ending of a page is not theirs.
* A page that was written before is there and can be written over.
* Custom content is read after all pages but the index page, and is the same as long as it
  is not that page itself.

In the end all pages are written over themselves, which `overlay_overlay` says is nothing.
-/

namespace ComponentReference

variable {env : Environment} {path : String} {overrides : Json.Fields} {w w' : World}
  {fs fs' : FileSystem} {root : Path} {run : Run} {place : Location} {here : Location}

/-! ## What pages leave -/

namespace FileSystem

variable {pages : List (String × Bytes)}

theorem Overlaid.linkFree (h : fs.Overlaid fs' place pages) (hfree : fs.LinkFree) :
    fs'.LinkFree := by
  intro l target hlink
  rcases h.get?_cases hlink with hold | ⟨content, hfile⟩
  · exact hfree l target hold
  · cases hfile

theorem Overlaid.later (h : fs.Overlaid fs' place pages) (tree : fs.IsTree)
    (hfree : fs.LinkFree) : fs.Later fs' := by
  refine ⟨tree, h.tree, hfree, h.linkFree hfree, h.grows, fun hnone hdir => ?_⟩
  rw [h.directory_of hdir] at hnone
  simp at hnone

/-- Between the pages and the same pages written once more there is one page more.  Nothing
else can be seen to have changed. -/
theorem later_of_overlaid {fs₁ fs₂ fs₃ fs₄ : FileSystem} {last : String × Bytes}
    (hfree : fs₁.LinkFree) (h₂ : fs₁.Overlaid fs₂ place pages) (hgrows : fs₂.Grows fs₃)
    (h₃ : fs₁.Overlaid fs₃ place (pages ++ [last])) (h₄ : fs₃.Overlaid fs₄ place pages) :
    fs₂.Later fs₄ ∧ (∀ names, fs₂.FitsNew fs₄ names) ∧
      ∀ l, l ≠ place ++ [last.1] → fs₄.get? l = fs₂.get? l := by
  have hold : ∀ {l}, fs₃.get? l = some .directory → fs₂.get? l ≠ none := by
    intro l hdir
    simp [h₂.grows.directory (h₃.directory_of hdir)]
  have hlater : fs₂.Later fs₃ := ⟨h₂.tree, h₃.tree, h₂.linkFree hfree, h₃.linkFree hfree, hgrows,
    fun hnone hdir => absurd hnone (hold hdir)⟩
  refine ⟨hlater.trans (h₄.later h₃.tree hlater.free'), fun names => ?_, fun l hl => ?_⟩
  · intro before _ _ _ hnone hdir
    exact absurd hnone (hold (h₄.directory_of hdir))
  · have hlast : ∀ e?, overlay place [last] l e? = e? := fun e? => overlay_of_ne (by simpa using hl)
    rw [h₄.get?, h₃.get?, h₂.get?, overlay_append, hlast, overlay_overlay]

end FileSystem

/-! ## The configuration -/

theorem Config.proper_filename : Path.Proper Config.filename := by
  decide

/-- The configuration is loaded if its file can be looked at, and that is all there is
to it. -/
theorem Config.load_ok_iff {config : Config} :
    ((Config.load root overrides).exec w).1 = .ok config ↔
      ∃ file, Layer.read? w.files w.directory (root.child filename).text = .ok file ∧
        config = ((standard.withFile file).merge overrides).validate := by
  unfold load
  rw [Path.append_ofString Config.proper_filename, Action.exec_bind, Action.exec_look]
  cases Layer.read? w.files w.directory (root.child filename).text with
  | error fault => simp
  | ok file =>
      simp only [Action.exec_bind, Config.exec_applyFile, Action.exec_reportAll, Action.exec_pure]
      simp [eq_comm]

/-- The configuration file is read again with the same effect, unless there is something
else than a directory that was not there before. -/
theorem Config.Layer.read?_again (h : fs.Later fs') {p : Path} (hp : p.IsSettled)
    (hfits : fs.FitsNew fs' p.names) (hnew : fs'.get? p.names = fs.get? p.names ∨
      fs.get? p.names = none ∧ fs'.get? p.names = some .directory) {file : Option Layer}
    (hread : Layer.read? fs here p.text = .ok file) :
    ∃ file', Layer.read? fs' here p.text = .ok file' ∧
      ∀ c : Config, c.withFile file' = c.withFile file := by
  unfold Layer.read? at hread ⊢
  obtain ⟨e?, hstat, hrest⟩ := exists_ok_of_bind hread
  rcases h.stat? hp hfits hstat with ⟨rfl, hstat'⟩ | ⟨rfl, hstat'⟩
  · rw [hstat']
    exact ⟨file, hrest, fun _ => rfl⟩
  rcases hnew with hsame | ⟨hnone, hdir⟩
  · rw [hsame] at hstat'
    rw [hstat']
    refine ⟨file, ?_, fun _ => rfl⟩
    cases hget : fs.get? p.names with
    | none =>
        rw [hget] at hrest
        exact hrest
    | some e =>
        rw [hget] at hrest hstat hstat'
        simp only [bind, Except.bind]
        rw [h.read hp hget hstat hstat']
        exact hrest
  · rw [hdir] at hstat'
    obtain ⟨fault, hfault⟩ := FileSystem.read_directory h.free' h.tree' hp hstat'
    rw [hnone] at hrest
    obtain rfl := Except.ok.inj hrest
    rw [hstat']
    refine ⟨some (.rejected ("Unable to read " ++ filename ++ ": " ++ fault.message)), ?_,
      fun _ => rfl⟩
    simp only [bind, Except.bind]
    rw [hfault]
    rfl

/-- No page has a name with another ending than those of pages. -/
theorem Config.nameEnding_pageFile (config : Config) (name : String) :
    nameEnding (config.pageFile name) ∈ ["", ".md", ".html"] := by
  have hdot : '.' ∉ config.extension.toList := by
    rcases config.extension_cases with h | h <;> rw [h] <;> decide
  rcases @nameEnding_append name _ hdot with h | h <;> rw [Config.pageFile, h]
  · simp
  · rcases config.extension_cases with hext | hext <;> rw [hext] <;> decide

theorem Config.pageFile_ne_filename (config : Config) (name : String) :
    config.pageFile name ≠ Config.filename := by
  intro heq
  have := config.nameEnding_pageFile name
  rw [heq] at this
  revert this
  decide

/-! ## Planning -/

/-- What was planned is planned again. -/
theorem Run.exec_plan_again {w₀ : World} (hlog : w.logFile = none) (hlog' : w'.logFile = none)
    (hdirectory : w'.directory = w.directory) (h : w.files.Later w'.files)
    (hplan : (Run.plan env path overrides).exec w = (.ok (root, run), w₀))
    (hfits : w.files.FitsNew w'.files (root.names ++ [Config.filename]))
    (hnew : w'.files.get? (root.names ++ [Config.filename]) =
        w.files.get? (root.names ++ [Config.filename]) ∨
      w.files.get? (root.names ++ [Config.filename]) = none ∧
        w'.files.get? (root.names ++ [Config.filename]) = some .directory) :
    ∃ w₀', (Run.plan env path overrides).exec w' = (.ok (root, run), w₀') ∧ w'.Alike w₀' := by
  obtain ⟨hroot, ⟨w₁, hload⟩, houtDir, hrun⟩ := Run.plan_ok hlog hplan
  have hsettled := (Run.isSettled_of_plan hlog h.tree hplan).1
  have hroot' : env.pathOf w'.files w'.directory path = .ok root := by
    rw [hdirectory]
    exact h.pathOf hroot
  obtain ⟨file, hread, hconfig⟩ := Config.load_ok_iff.mp (congrArg Prod.fst hload)
  obtain ⟨file', hread', hsame⟩ := Config.Layer.read?_again h
    (hsettled.child Config.proper_filename) hfits hnew hread
  have hload' : ((Config.load root overrides).exec w').1 = .ok run.config :=
    Config.load_ok_iff.mpr ⟨file', hdirectory ▸ hread', by rw [hsame, hconfig]⟩
  obtain ⟨w₁', hload'⟩ : ∃ w₁', (Config.load root overrides).exec w' = (.ok run.config, w₁') :=
    ⟨_, Action.exec_eq_of_fst hload'⟩
  have halike := (Config.quiet_load root overrides).alike hlog' hload'
  have houtDir' : env.resolvePath w₁'.files w₁'.directory root run.config.outDir =
      .ok run.outDir := by
    rw [halike.files, halike.directory, hdirectory]
    exact FileSystem.resolvePath_again env h.free h.free' hsettled houtDir
  have hreport := World.alike_report halike.logFile.2
    ⟨.info, .run, "Using configuration: " ++ run.config.toJson.print⟩
  refine ⟨_, ?_, halike.trans hreport⟩
  rw [Run.plan, Action.exec_bind, Action.exec_look, hroot']
  dsimp only
  rw [Action.exec_bind_of_ok hload', Action.exec_bind, Action.exec_report]
  dsimp only
  rw [Action.exec_bind, Action.exec_look, hreport.files, hreport.directory, houtDir', hrun]
  rfl

/-! ## The component files -/

/-- The component files of a run are found again. -/
theorem Run.exec_componentFiles_again {config : Config} {files : List Path} {w₁ : World}
    (hlog : w.logFile = none) (hlog' : w'.logFile = none) (hdirectory : w'.directory = w.directory)
    (hroot : root.IsSettled) (h : w.files.SameDirectories w'.files componentSuffix)
    (hfound : (Run.componentFiles env (discover env componentSuffix) root config).exec w =
      (.ok files, w₁)) :
    ∃ w₁', (Run.componentFiles env (discover env componentSuffix) root config).exec w' =
      (.ok files, w₁') := by
  obtain ⟨dir, hdir, hdiscover⟩ := Run.exec_componentFiles_ok_iff.mp hfound
  let record : Record := ⟨.info, .run, "Searching for components under " ++ dir.text⟩
  have halike := World.alike_report hlog record
  have halike' := World.alike_report hlog' record
  have hdir' := FileSystem.resolvePath_again env h.free h.free' hroot hdir
  rw [← hdirectory] at hdir'
  rw [← halike.files, ← halike'.files] at h
  obtain ⟨w₁', hdiscover'⟩ := exec_discover_again h
    (halike'.directory.trans (hdirectory.trans halike.directory.symm)) hdiscover
  exact ⟨w₁', Run.exec_componentFiles_ok_iff.mpr ⟨dir, hdir', hdiscover'⟩⟩

/-! ## The pages -/

/-- Pages that are ready to be written are written. -/
theorem Run.exists_documentFiles {report : Path → Except Fault Json} (tree : fs.IsTree)
    (files : List Path) :
    ∀ {run : Run} {w : World} {pages : List (String × Bytes)},
      fs.Leads run.outDir place → run.outDir.IsSettled → w.logFile = none →
      fs.Overlaid w.files place pages → fs.Ready place (pagesOf report run.config files) →
      (∀ d ∈ documentsOf report files,
        env.Allows run.outDir (Page.ofDocument d run.config)) →
      ∃ run' w', (Run.documentFiles env (.fixed report) run files).exec w = (.ok run', w') := by
  induction files with
  | nil => exact fun _ _ _ _ _ _ => ⟨_, _, rfl⟩
  | cons file rest ih =>
      intro run w pages hleads hp hlog hover hready hallows
      have hsplit : documentsOf report (file :: rest) =
          documentsOf report [file] ++ documentsOf report rest :=
        List.filterMap_append (l := [file])
      have hready' : fs.Ready place (pagesOf report run.config rest) := by
        refine hready.mono ?_
        rw [pagesOf, pagesOf, hsplit, List.map_append]
        exact List.subset_append_right ..
      have hallows' : ∀ d ∈ documentsOf report rest,
          env.Allows run.outDir (Page.ofDocument d run.config) :=
        fun d hd => hallows d (by rw [hsplit]; exact List.mem_append_right _ hd)
      cases hdocumented : documented? (report file) with
      | none =>
          obtain ⟨records, hexec⟩ :=
            @exec_documentFile_skip env (.fixed report) w file run hdocumented
          have halike := World.alike_foldl_report hlog records
          rw [documentFiles, Action.exec_bind_of_ok hexec]
          exact ih hleads hp halike.logFile.2 (halike.files.symm ▸ hover) hready' hallows'
      | some d =>
          have hmem : d ∈ documentsOf report (file :: rest) :=
            mem_documentsOf.mpr ⟨file, List.mem_cons_self .., hdocumented⟩
          have hproper : Path.Proper (Page.ofDocument d run.config).filename :=
            run.config.proper_documentFile hdocumented
          have haccepts := (hready.grows hover.grows (hleads.get? tree) (run.config.pageOf d)
            (List.mem_map_of_mem hmem)).2
          obtain ⟨written, hwrite⟩ :=
            exists_writeFile tree hp hleads hproper hover (hallows d hmem) haccepts
          obtain ⟨-, -, hover'⟩ := overlaid_of_write tree hp hleads hproper hover hwrite
          rw [Page.filename_ofDocument] at hwrite
          obtain ⟨records, hexec⟩ :=
            @exec_documentFile_page env (.fixed report) w file run d hdocumented
          rw [show ReportSource.fixed report w file = (report file, w) from rfl, hwrite] at hexec
          have halike := @World.alike_foldl_report { w with files := written } hlog records
          rw [documentFiles, Action.exec_bind_of_ok hexec]
          exact ih hleads hp halike.logFile.2 (by rw [halike.files]; exact hover') hready' hallows'

/-- So the loop over the files ends once more, and has written their pages. -/
theorem Run.documentFiles_again {report : Path → Except Fault Json} {files : List Path}
    (hleads : w.files.Leads run.outDir place) (hp : run.outDir.IsSettled)
    (hlog : w.logFile = none) (tree : w.files.IsTree) (hplain : w.files.Plain place)
    (hready : w.files.Ready place (pagesOf report run.config files))
    (hallows : ∀ d ∈ documentsOf report files,
      env.Allows run.outDir (Page.ofDocument d run.config)) :
    ∃ run' w', (Run.documentFiles env (.fixed report) run files).exec w = (.ok run', w') ∧
      run' = run.after (files.map fun file => (file, report file)) ∧ w'.logFile = none ∧
      w'.directory = w.directory ∧
      w.files.Overlaid w'.files place (pagesOf report run.config files) := by
  have hbase : w.files.Overlaid w.files place [] := .refl tree hplain
  obtain ⟨run', w', hexec⟩ := exists_documentFiles tree files hleads hp hlog hbase hready hallows
  have hlooped := documentFiles_looped tree files hleads hp hlog hbase hexec
  obtain ⟨done, emptied, -, -, hover, hall⟩ := hlooped.overlaid
  obtain ⟨rfl, rfl⟩ := hall run' rfl
  rw [List.append_nil] at hover
  exact ⟨run', w', hexec, (hlooped.ok run' rfl).1, hlooped.logFile, hlooped.directory, hover⟩

/-! ## Custom content -/

/-- Custom content is read again as long as nothing has changed where it is. -/
theorem readCustomContent_again {config : Config} {custom : String} (hroot : root.IsSettled)
    (h : w.files.Later w'.files) (hdirectory : w'.directory = w.directory)
    (hfits : ∀ names, w.files.FitsNew w'.files names)
    (hsame : config.customPath ≠ "" → ∀ p,
      env.resolvePath w.files w.directory root config.customPath = .ok p →
        w'.files.get? p.names = w.files.get? p.names)
    (hread : ((readCustomContent env config root).exec w).1 = .ok custom) :
    ((readCustomContent env config root).exec w').1 = .ok custom := by
  unfold readCustomContent at hread ⊢
  by_cases hempty : config.customPath.isEmpty = true
  · rw [if_pos hempty] at hread ⊢
    exact hread
  rw [if_neg hempty] at hread ⊢
  rw [Action.exec_bind, Action.exec_look] at hread ⊢
  cases hpath : env.resolvePath w.files w.directory root config.customPath with
  | error fault =>
      rw [hpath] at hread
      cases hread
  | ok p =>
      have hp := env.isSettled_of_resolvePath h.tree hpath
      have hpath' := FileSystem.resolvePath_again env h.free h.free' hroot hpath
      rw [← hdirectory] at hpath'
      have hthere := hsame (by simpa using hempty) p hpath
      rw [hpath] at hread
      rw [hpath']
      simp only [Action.exec_bind, Action.exec_look] at hread ⊢
      cases hstat : w.files.stat? [] p.text with
      | error fault =>
          rw [hstat] at hread
          cases hread
      | ok e? =>
          have hagain : w'.files.stat? [] p.text = .ok e? := by
            rcases h.stat? hp (hfits _) hstat with ⟨rfl, hstat'⟩ | ⟨rfl, hstat'⟩
            · exact hstat'
            · rw [hstat', hthere]
          rw [hstat] at hread
          rw [hagain]
          cases e? with
          | none => exact hread
          | some e =>
              have hget : w.files.get? p.names = some e := by
                rcases h.stat? hp (hfits _) hstat with ⟨hnone, -⟩ | ⟨hsome, -⟩
                · cases hnone
                · exact hsome.symm
              have hbytes := h.read hp hget hstat hagain
              simp only [Action.exec_bind, Action.exec_get] at hread ⊢
              rw [hbytes]
              cases hcontent : w.files.read [] p.text >>= Text.ofBytes with
              | error fault =>
                  rw [hcontent] at hread
                  exact hread
              | ok content =>
                  rw [hcontent] at hread
                  exact hread

/-- The index page is written if custom content is read and the page is ready. -/
theorem Run.writeIndex_again {custom : String} {pages : List (String × Bytes)} (tree : fs.IsTree)
    (hleads : fs.Leads run.outDir place) (hp : run.outDir.IsSettled) (hlog : w.logFile = none)
    (hover : fs.Overlaid w.files place pages)
    (hallows : env.Allows run.outDir (Page.index run.config run.entries custom))
    (hcustom : ((readCustomContent env run.config root).exec w).1 = .ok custom)
    (hready : fs.Ready place [run.config.indexOf run.entries custom]) :
    ∃ w', (Run.writeIndex env root run).exec w = (.ok run.indexed, w') ∧
      fs.Overlaid w'.files place (pages ++ [run.config.indexOf run.entries custom]) := by
  obtain ⟨w₁, hread⟩ : ∃ w₁, (readCustomContent env run.config root).exec w = (.ok custom, w₁) :=
    ⟨_, Action.exec_eq_of_fst hcustom⟩
  have halike := (quiet_readCustomContent env run.config root).alike hlog hread
  have hproper : Path.Proper (Page.index run.config run.entries custom).filename :=
    run.config.proper_indexFile
  have hready' := hready.grows hover.grows (hleads.get? tree)
  obtain ⟨record, hpage⟩ := exec_writePage env run.outDir hproper w₁
  have haccepts := (hready' _ (List.mem_singleton_self _)).2
  obtain ⟨written, hwrite⟩ := exists_writeFile tree hp hleads hproper hover hallows haccepts
  rw [← halike.files, ← halike.directory] at hwrite
  rw [hwrite] at hpage
  obtain ⟨run', w', hexec⟩ : ∃ run' w', (Run.writeIndex env root run).exec w = (.ok run', w') := by
    rw [writeIndex, Action.exec_bind_of_ok hread, Action.exec_bind_of_ok hpage]
    exact ⟨_, _, rfl⟩
  obtain ⟨-, -, hend⟩ := writeIndex_overlaid tree hleads hp hlog hover hexec
  rcases hend with ⟨fault, -, hfault, -⟩ | ⟨custom', hcustom', -, -, hover', hrun⟩
  · cases hfault
  · rw [hcustom] at hcustom'
    obtain rfl := Except.ok.inj hcustom'
    exact ⟨w', hrun ▸ hexec, hover'⟩

/-! ## The whole run -/

/-- What a run has made of its component files it makes of them again. -/
theorem Run.document_again {report : Path → Except Fault Json} {files : List Path} {result : Run}
    {w₁ w₂ : World} (tree : w₁.files.IsTree) (hfree : w₁.files.LinkFree)
    (hplain : w₁.files.Plain place) (hlog : w₁.logFile = none) (hroot : root.IsSettled)
    (hp : run.outDir.IsSettled) (hleads : w₁.files.Leads run.outDir place)
    (hcustom : run.config.customPath ≠ "" → ∀ p,
      env.resolvePath w₁.files w₁.directory root run.config.customPath = .ok p →
        p.names ≠ place ++ [run.config.pageFile Page.indexName])
    (hended : Run.Ended env w₁.files place report root run files w₁ w' (.ok result))
    (hfiles₂ : w₂.files = w'.files) (hdirectory₂ : w₂.directory = w₁.directory)
    (hlog₂ : w₂.logFile = none) :
    ∃ w₃, (Run.document env (.fixed report) root run files).exec w₂ = (.ok result, w₃) ∧
      ∀ l, w₃.files.get? l = w'.files.get? l := by
  cases hended with
  | empty hfiles hover =>
      subst hfiles
      refine ⟨_, rfl, fun l => ?_⟩
      rw [(World.alike_report hlog₂ _).files, hfiles₂]
  | whole w₃ custom hfiles hloop hread hallows hindex hover₁ hgrows hover =>
      have hfound := World.alike_report hlog (foundRecord files)
      have hfound₂ := World.alike_report hlog₂ (foundRecord files)
      have hbase : w₁.files.Overlaid (w₁.report (foundRecord files)).files place [] := by
        rw [hfound.files]
        exact .refl tree hplain
      have hlooped := documentFiles_looped tree files hleads hp hfound.logFile.2 hbase hloop
      have hready := hover.ready
      have hfiles₂ := hfound₂.files.trans hfiles₂
      have hleads₂ := hleads.grows tree hover.grows
      have hready₂ : w'.files.Ready place (pagesOf report run.config files) :=
        hready.mono (List.subset_append_left ..)
      rw [← hfiles₂] at hleads₂ hready₂
      -- the pages are written once more
      obtain ⟨run₄, w₄, hloop₂, hrun₄, hlog₄, hdirectory₄, hover₄⟩ :=
        documentFiles_again hleads₂ hp hfound₂.logFile.2 (hfiles₂ ▸ hover.tree)
          (hfiles₂ ▸ hover.plain) hready₂ hallows
      rw [hfiles₂] at hover₄ hleads₂
      have hconfig : run₄.config = run.config := by rw [hrun₄]; rfl
      have houtDir : run₄.outDir = run.outDir := by rw [hrun₄]; rfl
      have hentries : run₄.entries =
          run.entries ++ (documentsOf report files).map Document.entry := by
        rw [hrun₄, ← documents_map]
        rfl
      -- the custom content is what it was
      have hdirectory₃ : w₃.directory = w₁.directory := hlooped.directory.trans hfound.directory
      obtain ⟨hlater, hfits, hsame⟩ :=
        FileSystem.later_of_overlaid hfree hover₁ hgrows hover hover₄
      have hread₂ := readCustomContent_again hroot hlater
        ((hdirectory₄.trans hfound₂.directory).trans (hdirectory₂.trans hdirectory₃.symm)) hfits
        (fun hne p hpath => by
          refine hsame _ (hcustom hne p ?_)
          rw [hdirectory₃] at hpath
          exact FileSystem.resolvePath_again env hlater.free hfree hroot hpath) hread
      -- and so is the index page
      rw [← hconfig, ← hentries] at hready hover hindex
      rw [← hconfig] at hread₂ hover₄
      rw [← houtDir] at hindex hleads₂ hp
      obtain ⟨w₅, hwrite, hover₅⟩ := writeIndex_again hover.tree hleads₂ hp hlog₄ hover₄ hindex
        hread₂ (hready.mono (List.subset_append_right ..))
      refine ⟨w₅, ?_, fun l => ?_⟩
      · have hreport : (Action.report .info .run
            ("Found " ++ toString files.length ++ " component files")).exec w₂ =
              (.ok (), w₂.report (foundRecord files)) := rfl
        rw [document, if_neg (by simpa using hfiles), Action.exec_bind_of_ok hreport,
          Action.exec_bind_of_ok hloop₂, hwrite, hrun₄]
      · rw [hover₅.get?, hover.get?, FileSystem.overlay_overlay]

/-- What is planned, and finds its output directory, comes to the same component files once
more. -/
theorem Run.exec_start_again {files : List Path} {w₀ w₁ : World} (hlog : w.logFile = none)
    (hstart : (Run.start env (discover env componentSuffix) path overrides).exec w =
      (.ok (root, run, files), w₁))
    (hplan : (Run.plan env path overrides).exec w' = (.ok (root, run), w₀)) (halike : w'.Alike w₀)
    (hroot : root.IsSettled) (hp : run.outDir.IsSettled)
    (htext : FileSystem.textFault? run.outDir.text = none)
    (hleads : w'.files.Leads run.outDir place) (hdirectory : w'.directory = w₁.directory)
    (hsame : w₁.files.SameDirectories w'.files componentSuffix) :
    ∃ w₂, (Run.start env (discover env componentSuffix) path overrides).exec w' =
      (.ok (root, run, files), w₂) ∧ w'.Alike w₂ := by
  obtain ⟨_, w₂, -, -, hfound, halike₂⟩ :=
    Run.alike_of_start (quiet_discover env componentSuffix) hlog hstart
  have hensure : (ensureDirectory run.outDir).exec w₀ = (.ok (), w₀) := by
    rw [exec_ensureDirectory, FileSystem.makeDirectories_of_leads hp (halike.files ▸ hsame.tree')
      htext (halike.files ▸ hleads)]
  rw [halike₂.files, ← halike.files] at hsame
  obtain ⟨w₃, hfound'⟩ := Run.exec_componentFiles_again halike₂.logFile.1 halike.logFile.2
    (halike.directory.trans (hdirectory.trans halike₂.directory)) hroot hsame hfound
  have halike₃ := (Run.quiet_componentFiles (quiet_discover env componentSuffix) root
    run.config).alike halike.logFile.2 hfound'
  exact ⟨w₃, Run.exec_start_ok_iff.mpr ⟨_, _, hplan, hensure, hfound'⟩, halike.trans halike₃⟩

/-- All that a run that has come to its component files leaves are pages. -/
theorem Run.Ended.overlaid {report : Path → Except Fault Json} {files : List Path} {w₁ : World}
    {r : Except Fault Run} (h : Run.Ended env fs place report root run files w₁ w' r) :
    ∃ pages, fs.Overlaid w'.files place pages ∧
      ∀ page ∈ pages, ∃ name, page.1 = run.config.pageFile name := by
  have hpages : ∀ done, ∀ page ∈ pagesOf report run.config done,
      ∃ name, page.1 = run.config.pageFile name := by
    intro done page hpage
    obtain ⟨d, -, rfl⟩ := List.mem_map.mp hpage
    exact ⟨d.name, rfl⟩
  cases h with
  | empty _ hover => exact ⟨[], hover, by simp⟩
  | stopped fault done emptied _ hemptied hover =>
      refine ⟨_, hover, fun page hpage => ?_⟩
      rcases List.mem_append.mp hpage with hpage | hpage
      · exact hpages done page hpage
      · obtain ⟨name, rfl, -⟩ := hemptied page hpage
        exact ⟨name, rfl⟩
  | whole _ custom _ _ _ _ _ _ _ hover =>
      refine ⟨_, hover, fun page hpage => ?_⟩
      rcases List.mem_append.mp hpage with hpage | hpage
      · exact hpages files page hpage
      · rw [List.mem_singleton.mp hpage]
        exact ⟨Page.indexName, rfl⟩

theorem FileSystem.Overlaid.sameDirectories {config : Config} {pages : List (String × Bytes)}
    (h : fs.Overlaid fs' place pages) (tree : fs.IsTree) (hfree : fs.LinkFree)
    (hpages : ∀ page ∈ pages, ∃ name, page.1 = config.pageFile name) :
    fs.SameDirectories fs' componentSuffix := by
  refine ⟨h.later tree hfree, fun l name e hnone he => ⟨?_, fun hending => ?_⟩⟩
  · rintro rfl
    rw [h.directory_of he] at hnone
    simp at hnone
  · obtain ⟨page, hpage, heq⟩ := h.mem_of_ne (by rw [he, hnone]; simp)
    obtain rfl := (List.append_inj' heq rfl).1
    obtain ⟨name', hname⟩ := hpages page hpage
    obtain rfl := List.singleton_inj.mp (List.append_cancel_left heq)
    have := config.nameEnding_pageFile name'
    rw [← hname, hending] at this
    revert this
    decide

/-- The configuration file may be looked for again, as long as no name before its own is too
long behind a directory that is new. -/
theorem FileSystem.Made.fitsNew {fs₁ : FileSystem} {pages : List (String × Bytes)}
    {names : List String} (hmade : fs.Made fs₁ place) (hover : fs₁.Overlaid fs' place pages)
    (hshort : ∀ before name after, names = before ++ name :: after → before <+: place →
      fs.get? before = none → Utf8.size name ≤ FileSystem.maxNameSize) :
    fs.FitsNew fs' (names ++ [Config.filename]) := by
  intro before name after hsplit hnone hdir
  have honway := (hmade.of_ne (by rw [hnone, hover.directory_of hdir]; simp)).1
  rcases List.eq_nil_or_concat after with rfl | ⟨after, last, rfl⟩
  · obtain rfl := List.singleton_inj.mp (List.append_inj' hsplit rfl).2
    decide
  · rw [List.concat_eq_append, ← List.cons_append, ← List.append_assoc] at hsplit
    exact hshort before name after (List.append_inj' hsplit rfl).1 honway hnone

/-- It is what it was before the run, or has become a directory. -/
theorem FileSystem.Made.get?_filename {fs₁ : FileSystem} {config : Config}
    {pages : List (String × Bytes)} (hmade : fs.Made fs₁ place)
    (hover : fs₁.Overlaid fs' place pages)
    (hpages : ∀ page ∈ pages, ∃ name, page.1 = config.pageFile name) (names : List String) :
    fs'.get? (names ++ [Config.filename]) = fs.get? (names ++ [Config.filename]) ∨
      fs.get? (names ++ [Config.filename]) = none ∧
        fs'.get? (names ++ [Config.filename]) = some .directory := by
  have hpage : fs'.get? (names ++ [Config.filename]) = fs₁.get? (names ++ [Config.filename]) := by
    by_contra hne
    obtain ⟨page, hpage, heq⟩ := hover.mem_of_ne hne
    obtain ⟨name, hname⟩ := hpages page hpage
    have hfilename := List.singleton_inj.mp (List.append_inj' heq rfl).2
    exact config.pageFile_ne_filename name (hname.symm.trans hfilename.symm)
  rw [hpage]
  exact (hmade.new _).imp_right fun hdir => ⟨hdir.1, hdir.2.1⟩

/-- A run with fixed reports that has ended well, in a world without links and without a log
file, ends well again with the same result, and leaves every file as it is.  No file in the output
directory may have a second name, and the custom content may not be the index page; nor may
a name in the path of the project's directory be too long that stands behind a directory
which the first run has to make. -/
theorem generate_again {reports : Config → Path → Path → Except Fault Json} {result : Run}
    (hlog : w.logFile = none) (tree : w.files.IsTree) (hfree : w.files.LinkFree)
    (hone : ∀ root run w₀, (Run.plan env path overrides).exec w = (.ok (root, run), w₀) →
      ∀ name content, w.files.get? (run.outDir.names ++ [name]) = some (.file content) →
        w.files.OneName (run.outDir.names ++ [name]))
    (hshort : ∀ root run w₀, (Run.plan env path overrides).exec w = (.ok (root, run), w₀) →
      ∀ before name after, root.names = before ++ name :: after → before <+: run.outDir.names →
        w.files.get? before = none → Utf8.size name ≤ FileSystem.maxNameSize)
    (hcustom : ∀ root run w₀, (Run.plan env path overrides).exec w = (.ok (root, run), w₀) →
      run.config.customPath ≠ "" → ∀ p,
        env.resolvePath w.files w.directory root run.config.customPath = .ok p →
          p.names ≠ run.outDir.names ++ ["index" ++ "." ++ run.config.extension])
    (h : (generate env (fun config root => .fixed (reports config root)) path overrides).exec w =
      (.ok result, w')) :
    ∃ w'', (generate env (fun config root => .fixed (reports config root)) path overrides).exec w' =
        (.ok result, w'') ∧
      ∀ l, w''.files.get? l = w'.files.get? l := by
  have hplace : ∀ root run w₀, (Run.plan env path overrides).exec w = (.ok (root, run), w₀) →
      w.files.placeOf run.outDir = run.outDir.names := fun root run w₀ hplan =>
    FileSystem.placeOf_of_linkFree hfree tree (Run.isSettled_of_plan hlog tree hplan).2
  have hplain : ∀ root run w₀, (Run.plan env path overrides).exec w = (.ok (root, run), w₀) →
      w.files.Plain (w.files.placeOf run.outDir) := by
    intro root run w₀ hplan
    rw [hplace root run w₀ hplan]
    exact ⟨fun name target => hfree _ target, hone root run w₀ hplan⟩
  cases generateWith_course (quiet_discover env componentSuffix) hlog tree hplain h with
  | unplanned hr _ => exact absurd rfl (hr result)
  | unstarted _ _ _ _ hr _ => exact absurd rfl (hr result)
  | started root run w₀ files w₁ hplan hstart hlogs hdirectories hmade hreached hended =>
      obtain ⟨hlog₁, hlog'⟩ := hlogs
      obtain ⟨hdirectory₁, hdirectory'⟩ := hdirectories
      obtain ⟨hroot, hp⟩ := Run.isSettled_of_plan hlog tree hplan
      have hfree₁ := hmade.linkFree hfree
      obtain ⟨pages, hover, hpages⟩ := hended.overlaid
      have hlater := (hmade.later tree hfree).trans (hover.later hmade.tree hfree₁)
      have hleads' := hreached.leads.grows hmade.tree hover.grows
      have hsame := hover.sameDirectories hmade.tree hfree₁ hpages
      have hfits := hmade.fitsNew hover (fun before name after hsplit honway hnone =>
        hshort root run w₀ hplan before name after hsplit (hplace root run w₀ hplan ▸ honway) hnone)
      obtain ⟨w₀', hplan', halike⟩ := Run.exec_plan_again hlog hlog' hdirectory' hlater hplan hfits
        (hmade.get?_filename hover hpages root.names)
      obtain ⟨w₂, hstart', halike₂⟩ := Run.exec_start_again hlog hstart hplan' halike hroot hp
        hreached.text hleads' (hdirectory'.trans hdirectory₁.symm) hsame
      obtain ⟨w₃, hexec, hget⟩ := Run.document_again hmade.tree hfree₁
        (hmade.plain (hplain root run w₀ hplan)) hlog₁ hroot hp hreached.leads
        (fun hne p hpath => by
          rw [hplace root run w₀ hplan]
          refine hcustom root run w₀ hplan hne p ?_
          rw [hdirectory₁] at hpath
          exact FileSystem.resolvePath_again env hfree₁ hfree hroot hpath)
        hended halike₂.files (halike₂.directory.trans (hdirectory'.trans hdirectory₁.symm))
        halike₂.logFile.2
      refine ⟨w₃, ?_, hget⟩
      rw [generate, generateWith, Action.exec_bind_of_ok hstart']
      exact hexec

/-- A project with one component is documented twice. -/
theorem generate_again_one_component :
    let first := Sample.generated Sample.oneComponent [("A.vue", Sample.report "A" "")]
    let second := Sample.generated first.2 [("A.vue", Sample.report "A" "")]
    first.1 = .ok (Sample.run.withPage (.ofFields (Sample.fields "A" ""))).indexed ∧
      second.1 = first.1 ∧ ∀ l, second.2.files.get? l = first.2.files.get? l := by
  have hok : (Sample.generated Sample.oneComponent [("A.vue", Sample.report "A" "")]).1 =
      .ok (Sample.run.withPage (.ofFields (Sample.fields "A" ""))).indexed := by decide +kernel
  have hplanned : ∀ root run w₀, (Run.plan Sample.env "." Sample.overrides).exec
      Sample.oneComponent = (.ok (root, run), w₀) → root = ⟨.slash, ["w"]⟩ ∧ run = Sample.run := by
    intro root run w₀ hplan
    have hrun : ((Run.plan Sample.env "." Sample.overrides).exec Sample.oneComponent).1 =
        .ok (⟨.slash, ["w"]⟩, Sample.run) := by decide +kernel
    rw [hplan] at hrun
    exact Prod.mk.inj (Except.ok.inj hrun)
  intro first second
  obtain ⟨w₂, hsecond, hget⟩ := @generate_again Sample.env "." Sample.overrides
    Sample.oneComponent first.2 (fun _ _ => Sample.reports [("A.vue", Sample.report "A" "")]) _ rfl
    (FileSystem.isTree_of_entries (by decide +kernel))
    (FileSystem.linkFree_of_linkCount (by decide +kernel))
    (fun root run w₀ hplan name content hfile => by
      rw [(hplanned root run w₀ hplan).2] at hfile
      rw [FileSystem.get?_eq_none_of_not_mem_children] at hfile
      · cases hfile
      · rw [show Sample.oneComponent.files.children Sample.run.outDir.names = [] by decide +kernel]
        exact List.not_mem_nil)
    (fun root run w₀ hplan before name after hsplit _ _ => by
      rw [(hplanned root run w₀ hplan).1] at hsplit
      have hname : name ∈ ["w"] := by
        rw [show ["w"] = before ++ name :: after from hsplit]
        simp
      rw [List.mem_singleton.mp hname]
      decide)
    (fun root run w₀ hplan hne => by
      rw [(hplanned root run w₀ hplan).2] at hne
      exact absurd rfl hne)
    (Action.exec_eq_of_fst hok)
  refine ⟨hok, ?_, fun l => ?_⟩
  · exact (congrArg Prod.fst hsecond).trans hok.symm
  · rw [show second.2 = w₂ from congrArg Prod.snd hsecond]
    exact hget l

/-- A project with one component and custom content, which has the name of the index page
too. -/
def Sample.joinedIndex : World :=
  Sample.world
    (Sample.directories ++ [(["w", "c", "A.vue"], Sample.file ""),
      (["w", "intro.md"], Sample.file "Hi"), (["w", "o"], .directory),
      (["w", "o", "index.md"], Sample.file "Hi")])
    [(["w", "intro.md"], { mode := 0o644, number? := some 1 }),
      (["w", "o", "index.md"], { mode := 0o644, number? := some 1 })]

/-- What a run leaves in that project. -/
def Sample.introduced (w : World) : Except Fault Run × World :=
  (generate Sample.env (fun _ _ => .fixed (Sample.reports [])) "."
    (("customContent", .obj [("md", .str "intro.md")]) :: Sample.overrides)).exec w

/-- There are no links, and the custom content is another path than the index page.  Still
the index page holds its older self after the second run. -/
theorem generate_not_again_joined_index :
    let first := Sample.introduced Sample.joinedIndex
    let second := Sample.introduced first.2
    Sample.joinedIndex.files.linkCount = 0 ∧
      Sample.env.resolvePath Sample.joinedIndex.files Sample.joinedIndex.directory
        ⟨.slash, ["w"]⟩ "intro.md" = .ok ⟨.slash, ["w", "intro.md"]⟩ ∧
      first.1.toOption.map (fun run => (run.config.customPath, run.indexPath)) =
        some ("intro.md", some ⟨.slash, ["w", "o", "index.md"]⟩) ∧
      second.1 = first.1 ∧
      second.2.files.get? ["w", "o", "index.md"] ≠ first.2.files.get? ["w", "o", "index.md"] := by
  decide +kernel

end ComponentReference
