import ComponentReference.Proofs.Host.Joined
import ComponentReference.Proofs.Site.Phases
import ComponentReference.Proofs.Site.Sample

/-!
# The order of the component files

The order in which component files are found does not bear on their pages, as long as the
components have different names, none of which is `index`: two runs over the same files in
different orders leave the same everywhere but in their index pages, and their lists are
the same up to order.  The reports are fixed.

## Strategy

Each run by itself is followed through its phases.  What it leaves is `Covered` by its
pages and then by its index page, as every write of a page keeps that (`keeps_covered`).
So at each place stands a fold over the pages, and the pages of the two runs are the same up
to order.
-/

namespace ComponentReference

variable {env : Environment} {find₁ find₂ : Finder} {path : String} {overrides : Json.Fields}
  {report : Path → Except Fault Json} {root outDir : Path} {run result : Run}
  {files files₁ files₂ : List Path} {w w' v₁ v₂ : World} {fs : FileSystem} {place : Location}

namespace Run

/-! ## One run -/

theorem keeps_covered (tree : fs.IsTree) (hp : outDir.IsSettled)
    (hleads : fs.Leads outDir place) :
    Keeps (fun fs' pages => fs.Covered fs' place pages) outDir := by
  intro fs' fs'' here pages name content h hname hwrite
  have hleads' := hleads.grows tree h.grows
  obtain ⟨-, -, rfl⟩ :=
    (FileSystem.write_child_iff h.tree hp hname hleads' (h.apart.noLink name) here).mp hwrite
  exact h.written (hleads.get? tree) hname content

/-- A run over some files leaves the pages of their components, and then the index page of
these. -/
theorem document_covered (tree : w.files.IsTree) (hp : run.outDir.IsSettled)
    (hleads : w.files.Leads run.outDir place) (hapart : w.files.Apart place)
    (hlog : w.logFile = none) (hfiles : files ≠ [])
    (h : (document env (.fixed report) root run files).exec w = (.ok result, w')) :
    ∃ custom, ((readCustomContent env run.config root).exec ((documentFiles env (.fixed report) run
        files).exec (w.report (foundRecord files))).2).1 = .ok custom ∧
      w.files.Covered w'.files place
        (pagesOf report run.config files ++ [run.config.indexOf result.entries custom]) := by
  obtain ⟨hnil, -, -⟩ | ⟨-, w₁, hloop, hindex⟩ := document_ok h
  · exact absurd hnil hfiles
  have hkeeps := keeps_covered tree hp hleads
  have halike := World.alike_report hlog (foundRecord files)
  have hbegin : w.files.Covered (w.report (foundRecord files)).files place [] := by
    rw [halike.files]
    exact .refl tree hapart
  obtain ⟨hlog₁, hcovered⟩ := documentFiles_keeps hkeeps files rfl halike.logFile.2 hbegin hloop
  obtain ⟨rfl, custom, w₂, written, records, hread, hwrite, rfl⟩ := writeIndex_ok hindex
  have hread' := (quiet_readCustomContent env run.config root).alike hlog₁ hread
  refine ⟨custom, ?_, ?_⟩
  · rw [hloop]
    exact congrArg Prod.fst hread
  · rw [← hread'.files] at hcovered
    rw [(@World.alike_foldl_report { w₂ with files := written } hread'.logFile.2 records).files]
    exact hkeeps _ _ _ _ _ _ hcovered run.config.proper_indexFile hwrite

/-- At the place of the index page, where `was` was before, is now the page of the entries
and of the custom content that is read when all component pages have been written. -/
def IndexLeft (env : Environment) (report : Path → Except Fault Json) (root : Path) (run : Run)
    (files : List Path) (w : World) (entries : List IndexEntry) (was is : Option Entry) : Prop :=
  ∃ custom, ((readCustomContent env run.config root).exec ((documentFiles env (.fixed report) run
      files).exec (w.report (foundRecord files))).2).1 = .ok custom ∧
    is = Entry.overwritten (Utf8.encode (Page.index run.config entries custom).body.toList) was

/-- What a run leaves at every place that is not the index page, and what the index page is
if there are files. -/
theorem document_get? (tree : w.files.IsTree) (hp : run.outDir.IsSettled)
    (hleads : w.files.Leads run.outDir place) (hapart : w.files.Apart place)
    (hlog : w.logFile = none)
    (hindex : ∀ d ∈ documentsOf report files, d.name ≠ Page.indexName)
    (h : (document env (.fixed report) root run files).exec w = (.ok result, w')) :
    (∀ l, l ∉ w.files.reached (place ++ [run.config.pageFile Page.indexName]) →
        w'.files.get? l =
          w.files.cover place (pagesOf report run.config files) l (w.files.get? l)) ∧
      (files ≠ [] → IndexLeft env report root run files w result.entries
        (w.files.get? (place ++ [run.config.pageFile Page.indexName]))
        (w'.files.get? (place ++ [run.config.pageFile Page.indexName]))) := by
  by_cases hfiles : files = []
  · obtain ⟨-, -, record, rfl⟩ | ⟨hne, -⟩ := document_ok h
    · refine ⟨fun l _ => ?_, fun hne => absurd hfiles hne⟩
      rw [hfiles, (World.alike_report hlog record).files]
      rfl
    · exact absurd hfiles hne
  obtain ⟨custom, hcustom, hcovered⟩ := document_covered tree hp hleads hapart hlog hfiles h
  have hpages : ∀ page ∈ pagesOf report run.config files,
      page.1 ≠ run.config.pageFile Page.indexName := by
    intro page hpage heq
    obtain ⟨d, hd, rfl⟩ := List.mem_map.mp hpage
    exact hindex d hd (run.config.pageFile_injective heq)
  exact ⟨fun l hl => hcovered.get?_of_not_mem hl,
    fun _ => ⟨custom, hcustom, hcovered.get?_last hpages hapart⟩⟩

/-! ## Two runs over the same files -/

/-- Up to the component files two runs leave the same files, whatever they find. -/
theorem files_of_start (hfind₁ : ∀ dir, (find₁ dir).Quiet) (hfind₂ : ∀ dir, (find₂ dir).Quiet)
    (hlog : w.logFile = none)
    (h₁ : (start env find₁ path overrides).exec w = (.ok (root, run, files₁), v₁))
    (h₂ : (start env find₂ path overrides).exec w = (.ok (root, run, files₂), v₂)) :
    v₁.files = v₂.files := by
  obtain ⟨u, u₁, hplan, hmake, -, halike₁⟩ := alike_of_start hfind₁ hlog h₁
  obtain ⟨u', u₂, hplan', hmake', -, halike₂⟩ := alike_of_start hfind₂ hlog h₂
  obtain rfl : u = u' := congrArg Prod.snd (hplan.symm.trans hplan')
  obtain rfl : u₁ = u₂ := congrArg Prod.snd (hmake.symm.trans hmake')
  exact halike₁.files.trans halike₂.files.symm

/-- The lists that a run makes are the same up to order. -/
theorem document_perm {result₁ result₂ : Run} {w₁ w₂ : World} (hperm : files₁.Perm files₂)
    (h₁ : (document env (.fixed report) root run files₁).exec v₁ = (.ok result₁, w₁))
    (h₂ : (document env (.fixed report) root run files₂).exec v₂ = (.ok result₂, w₂)) :
    result₁.written.Perm result₂.written ∧ result₁.skipped.Perm result₂.skipped ∧
      result₁.entries.Perm result₂.entries := by
  have hlists : ∀ {files w w' result},
      (document env (.fixed report) root run files).exec w = (.ok result, w') →
        result.written = run.written ++ (documentsOf report files).map (fun d =>
            run.outDir.child (run.config.pageFile d.name)) ∧
          result.skipped = run.skipped ++ Outcome.skipped (files.map fun file =>
            (file, report file)) ∧
          result.entries = run.entries ++ (documentsOf report files).map Document.entry := by
    intro files w w' result h
    rw [← documents_map]
    obtain rfl | rfl := document_after h <;> exact ⟨rfl, rfl, rfl⟩
  obtain ⟨hwritten₁, hskipped₁, hentries₁⟩ := hlists h₁
  obtain ⟨hwritten₂, hskipped₂, hentries₂⟩ := hlists h₂
  have hdocuments : (documentsOf report files₁).Perm (documentsOf report files₂) :=
    hperm.filterMap _
  rw [hwritten₁, hwritten₂, hskipped₁, hskipped₂, hentries₁, hentries₂]
  refine ⟨(hdocuments.map _).append_left _, ?_, (hdocuments.map _).append_left _⟩
  exact (((hperm.map _).filter _).map _).append_left _

/-- The pages of components with different names have different names. -/
theorem nodup_pagesOf (config : Config)
    (hnames : ((documentsOf report files).map Document.name).Nodup) :
    ((pagesOf report config files).map Prod.fst).Nodup := by
  have hpages : (pagesOf report config files).map Prod.fst =
      ((documentsOf report files).map Document.name).map config.pageFile := by
    rw [pagesOf, List.map_map, List.map_map]
    rfl
  rw [hpages]
  exact hnames.map fun _ _ h => config.pageFile_injective h

end Run

/-- The order in which component files are found bears on the index page alone.  Two runs
over the same files, in whatever order, that end well leave the same in every place but
the index page, if the components have different names and none is called `index`, and if no
two entries of the output directory are names of one file.  The pages, the skipped files and
the entries are the same up to order, and each index page is the one of the run's own
entries and of the custom content that it has read.  What is planned does not depend on what
is found, so the two runs have their plan in common. -/
theorem generateWith_reordered {reports : Config → Path → Path → Except Fault Json}
    {result₁ result₂ : Run} {w₁ w₂ : World}
    (hfind₁ : ∀ dir, (find₁ dir).Quiet) (hfind₂ : ∀ dir, (find₂ dir).Quiet)
    (hlog : w.logFile = none) (tree : w.files.IsTree)
    (hstart₁ : (Run.start env find₁ path overrides).exec w = (.ok (root, run, files₁), v₁))
    (hstart₂ : (Run.start env find₂ path overrides).exec w = (.ok (root, run, files₂), v₂))
    (hperm : files₁.Perm files₂) (hapart : w.files.Apart (w.files.placeOf run.outDir))
    (hnames : ((documentsOf (reports run.config root) files₁).map Document.name).Nodup)
    (hindex : ∀ d ∈ documentsOf (reports run.config root) files₁, d.name ≠ "index")
    (h₁ : (generateWith env find₁ (fun config root => .fixed (reports config root)) path
      overrides).exec w = (.ok result₁, w₁))
    (h₂ : (generateWith env find₂ (fun config root => .fixed (reports config root)) path
      overrides).exec w = (.ok result₂, w₂)) :
    let outDir := w.files.placeOf run.outDir
    let index := outDir ++ ["index" ++ "." ++ run.config.extension]
    (∀ l, l ∉ w.files.reached index → w₁.files.get? l = w₂.files.get? l) ∧
      (∀ child, outDir ++ [child] ≠ index →
        w₁.files.get? (outDir ++ [child]) = w₂.files.get? (outDir ++ [child])) ∧
      result₁.written.Perm result₂.written ∧ result₁.skipped.Perm result₂.skipped ∧
      result₁.entries.Perm result₂.entries ∧
      (files₁ ≠ [] →
        Run.IndexLeft env (reports run.config root) root run files₁ v₁ result₁.entries
            (w.files.get? index) (w₁.files.get? index) ∧
          Run.IndexLeft env (reports run.config root) root run files₂ v₂ result₂.entries
            (w.files.get? index) (w₂.files.get? index)) := by
  intro outDir index
  cases Run.started hfind₁ hlog tree hstart₁ with
  | unplanned hr _ => exact absurd rfl (hr _)
  | planned root' run' w₀ hplan hlog₁ hdirectory hmade hok =>
      obtain ⟨rfl, rfl, hreached⟩ := hok root run files₁ rfl
      have hp := (Run.isSettled_of_plan hlog tree hplan).2
      obtain ⟨_, _, -, -, -, halike₂⟩ := Run.alike_of_start hfind₂ hlog hstart₂
      have hfiles := Run.files_of_start hfind₁ hfind₂ hlog hstart₁ hstart₂
      obtain ⟨hapart₁, hreaches⟩ := hreached.apart hmade tree hapart
      have hdocuments : (documentsOf (reports run.config root) files₁).Perm
          (documentsOf (reports run.config root) files₂) :=
        hperm.filterMap _
      rw [generateWith, Action.exec_bind_of_ok hstart₁] at h₁
      rw [generateWith, Action.exec_bind_of_ok hstart₂] at h₂
      obtain ⟨hget₁, hleft₁⟩ := Run.document_get? hmade.tree hp hreached.leads hapart₁ hlog₁
        hindex h₁
      obtain ⟨hget₂, hleft₂⟩ := Run.document_get? (hfiles ▸ hmade.tree) hp
        (hfiles ▸ hreached.leads) (hfiles ▸ hapart₁) halike₂.logFile.2
        (fun d hd => hindex d (hdocuments.symm.subset hd)) h₂
      have hsame : ∀ l, l ∉ w.files.reached index → w₁.files.get? l = w₂.files.get? l := by
        intro l hl
        rw [← hreaches] at hl
        rw [hget₁ l hl, hget₂ l (hfiles ▸ hl), ← hfiles]
        exact FileSystem.cover_perm hapart₁ (hdocuments.map _)
          (Run.nodup_pagesOf run.config hnames) l _
      refine ⟨hsame, fun child hchild => hsame _ fun hmem => ?_, ?_⟩
      · rw [hapart.apart _ child hmem] at hchild
        exact hchild rfl
      obtain ⟨hwritten, hskipped, hentries⟩ := Run.document_perm hperm h₁ h₂
      refine ⟨hwritten, hskipped, hentries, fun hne => ?_⟩
      have hbefore := hmade.get?_child (run.config.pageFile Page.indexName)
      have hne₂ : files₂ ≠ [] := fun hnil => hne (hnil ▸ hperm).eq_nil
      have hfirst := hleft₁ hne
      have hsecond := hleft₂ hne₂
      rw [hbefore] at hfirst
      rw [← hfiles, hbefore] at hsecond
      exact ⟨hfirst, hsecond⟩

/-! ## Two components in either order -/

/-- The documents of two components, `A` and `B`. -/
def Sample.twins : Document × Document :=
  (.ofFields (Sample.fields "A" ""), .ofFields (Sample.fields "B" ""))

/-- The run that finds component files of the two with these names. -/
def Sample.ordered (names : List String) : Action Run :=
  generateWith Sample.env (fun _ => pure (Sample.files names))
    (fun _ _ => .fixed (Sample.reports
      [("A.vue", Sample.report "A" ""), ("B.vue", Sample.report "B" "")]))
    "." Sample.overrides

/-- What two runs leave in a world that come through the two files in either order. -/
structure Sample.Orders (world : World) where
  first : World
  second : World
  exec_first : (Sample.ordered ["A.vue", "B.vue"]).exec world =
    (.ok ((Sample.run.withPage Sample.twins.1).withPage Sample.twins.2).indexed, first)
  exec_second : (Sample.ordered ["B.vue", "A.vue"]).exec world =
    (.ok ((Sample.run.withPage Sample.twins.2).withPage Sample.twins.1).indexed, second)

/-- Both orders in a project that has no output directory yet. -/
def Sample.orders : Sample.Orders (Sample.world Sample.directories []) where
  first := ((Sample.ordered ["A.vue", "B.vue"]).exec (Sample.world Sample.directories [])).2
  second := ((Sample.ordered ["B.vue", "A.vue"]).exec (Sample.world Sample.directories [])).2
  exec_first := Action.exec_eq_of_fst (by decide +kernel)
  exec_second := Action.exec_eq_of_fst (by decide +kernel)

/-- In a new project the two components get the same pages in either order, and the index
lists them in different orders. -/
theorem generateWith_reordered_two_components :
    (∀ child, ["w", "o"] ++ [child] ≠ ["w", "o", "index.md"] →
        Sample.orders.first.files.get? (["w", "o"] ++ [child]) =
          Sample.orders.second.files.get? (["w", "o"] ++ [child])) ∧
      ((Sample.run.withPage Sample.twins.1).withPage Sample.twins.2).indexed.entries.Perm
        ((Sample.run.withPage Sample.twins.2).withPage Sample.twins.1).indexed.entries ∧
      Sample.orders.first.files.get? ["w", "o", "index.md"] ≠
        Sample.orders.second.files.get? ["w", "o", "index.md"] := by
  have hplace : (Sample.world Sample.directories []).files.placeOf Sample.run.outDir =
      ["w", "o"] := by decide +kernel
  have hempty : ∀ name, (Sample.world Sample.directories []).files.get? (["w", "o"] ++ [name]) =
      none := by
    intro name
    refine FileSystem.get?_eq_none_of_not_mem_children ?_
    rw [show (Sample.world Sample.directories []).files.children ["w", "o"] = [] by decide +kernel]
    exact List.not_mem_nil
  obtain ⟨-, hsame, -, -, hentries, -⟩ := @generateWith_reordered Sample.env
    (fun _ => pure (Sample.files ["A.vue", "B.vue"]))
    (fun _ => pure (Sample.files ["B.vue", "A.vue"])) "." Sample.overrides ⟨.slash, ["w"]⟩
    Sample.run (Sample.files ["A.vue", "B.vue"]) (Sample.files ["B.vue", "A.vue"])
    (Sample.world Sample.directories []) _ _
    (fun _ _ => Sample.reports [("A.vue", Sample.report "A" ""), ("B.vue", Sample.report "B" "")])
    _ _ _ _ (fun _ => Action.quiet_pure _) (fun _ => Action.quiet_pure _) rfl
    (FileSystem.isTree_of_entries (by decide +kernel))
    (Sample.exec_start (by decide +kernel)) (Sample.exec_start (by decide +kernel))
    (List.Perm.swap _ _ _) (hplace.symm ▸ FileSystem.apart_of_empty hempty)
    (by decide +kernel) (by decide +kernel) Sample.orders.exec_first Sample.orders.exec_second
  have hindex : "index" ++ "." ++ Sample.run.config.extension = "index.md" := by decide +kernel
  rw [hplace, hindex] at hsame
  exact ⟨hsame, hentries, by decide +kernel⟩

/-- A project whose output directory holds one file under two names. -/
def Sample.joinedPages : World :=
  Sample.world
    (Sample.directories ++ [(["w", "o"], .directory), (["w", "o", "A.md"], Sample.file ""),
      (["w", "o", "B.md"], Sample.file "")])
    [(["w", "o", "A.md"], { mode := 0o644, number? := some 1 }),
      (["w", "o", "B.md"], { mode := 0o644, number? := some 1 })]

/-- Both orders in that project. -/
def Sample.joinedOrders : Sample.Orders Sample.joinedPages where
  first := ((Sample.ordered ["A.vue", "B.vue"]).exec Sample.joinedPages).2
  second := ((Sample.ordered ["B.vue", "A.vue"]).exec Sample.joinedPages).2
  exec_first := Action.exec_eq_of_fst (by decide +kernel)
  exec_second := Action.exec_eq_of_fst (by decide +kernel)

/-- There is no link in the output directory, and the components have different names.
Still the page of the first one is that of the component which comes last. -/
theorem generateWith_not_reordered_joined_pages :
    Sample.joinedPages.files.linkCount = 0 ∧
      Sample.twins.1.name = "A" ∧ Sample.twins.2.name = "B" ∧
      Sample.joinedOrders.first.files.get? ["w", "o", "A.md"] = some (Sample.page "B" "") ∧
      Sample.joinedOrders.second.files.get? ["w", "o", "A.md"] = some (Sample.page "A" "") ∧
      Sample.joinedOrders.first.files.get? ["w", "o", "A.md"] ≠
        Sample.joinedOrders.second.files.get? ["w", "o", "A.md"] := by
  decide +kernel

end ComponentReference
