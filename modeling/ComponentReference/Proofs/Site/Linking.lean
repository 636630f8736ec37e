import ComponentReference.Proofs.Page.Links
import ComponentReference.Proofs.Site.Containment
import ComponentReference.Proofs.Site.Phases

/-!
# The index page of a run links to its pages

A run lists each component and the path of its page side by side, and at the end it writes the
index page of what it has listed.  So the links of the index page, read back one after the
other, are to be compared with the paths that the run has written: the two name the same
files, but for components whose names break the link that they stand in.

Nothing is asked of the world that the run is in, nor of the source of the reports or the way
component files are discovered.
-/

namespace ComponentReference

variable {env : Environment} {find : Finder} {path : String} {overrides : Json.Fields}
  {source : ReportSource} {root : Path} {run result : Run} {files : List Path} {w w' : World}

namespace Run

/-- The listed components have names that are safe, and the paths of their pages are listed in
the same order. -/
def Listed (run : Run) : Prop :=
  List.Forall₂ (fun entry path => Page.isSafeName entry.name = true ∧
    path = run.outDir.child (run.config.pageFile entry.name)) run.entries run.written

theorem Listed.withPage (h : run.Listed) {d : Document} (hd : Page.isSafeName d.name = true) :
    (run.withPage d).Listed :=
  List.rel_append h (.cons ⟨hd, rfl⟩ .nil)

/-- One file leaves the lists as they are, or adds a component and its page to them. -/
theorem documentFile_listed {file : Path} (hlisted : run.Listed)
    (h : (documentFile env source run file).exec w = (.ok result, w')) : result.Listed := by
  cases hdocumented : documented? (source w file).1 with
  | none =>
      obtain ⟨records, hexec⟩ := exec_documentFile_skip run hdocumented
      obtain rfl := Except.ok.inj (Prod.mk.inj (hexec.symm.trans h)).1
      exact hlisted
  | some d =>
      obtain ⟨records, hexec⟩ := exec_documentFile_page run hdocumented
      rw [h] at hexec
      split at hexec
      · obtain rfl := Except.ok.inj (Prod.mk.inj hexec).1
        exact hlisted.withPage (isSafeName_of_documented? hdocumented)
      · cases hexec

theorem documentFiles_listed (files : List Path) : ∀ {run : Run} {w : World}, run.Listed →
    (documentFiles env source run files).exec w = (.ok result, w') → result.Listed := by
  induction files with
  | nil =>
      intro run w hlisted h
      obtain rfl := Except.ok.inj (Prod.mk.inj h).1
      exact hlisted
  | cons file rest ih =>
      intro run w hlisted h
      obtain ⟨run₁, w₁, hfirst, hrest⟩ := Action.exec_bind_ok h
      exact ih (documentFile_listed hlisted hfirst) hrest

/-- Each link leads to the page of its component, but for those of names that have a mark in
them. -/
theorem Listed.links (h : run.Listed) :
    List.Forall₂ (fun entry path => Page.isSafeName entry.name = true ∧
      (run.config.format.linkTarget? (run.config.format.itemText entry) = path.names.getLast? ↔
        run.config.format.Linkable entry.name)) run.entries run.written := by
  refine h.imp fun entry path hpage => ?_
  obtain ⟨hsafe, rfl⟩ := hpage
  refine ⟨hsafe, ?_⟩
  rw [← Format.linkTarget?_itemText]
  simp [Path.child, Config.pageFile, Config.extension]

end Run

/-- At the end of a run that has documented components, the index page is written, with the
custom content that is read once the components' pages are there.  Between what comes before
and what comes behind, it has an item for each component, in the order in which their pages
were written, and the link in the item leads to that page exactly if the component's name has
no mark in it that links are read by. -/
theorem generateWith_links {source : Config → Path → ReportSource}
    (h : (generateWith env find source path overrides).exec w = (.ok result, w'))
    (hwritten : result.written ≠ []) :
    ∃ (root : Path) (run documented : Run) (found : List Path) (w₁ w₂ w₃ : World)
        (custom : String) (files : FileSystem) (records : List Record),
      (Run.start env find path overrides).exec w = (.ok (root, run, found), w₁) ∧
      (Run.documentFiles env (source run.config root) run found).exec
          (w₁.report (Run.foundRecord found)) = (.ok documented, w₂) ∧
      (readCustomContent env result.config root).exec w₂ = (.ok custom, w₃) ∧
      (Page.index result.config result.entries custom).body =
        result.config.format.indexLayout.head result.config custom ++
          String.join (result.entries.map fun entry =>
            result.config.format.itemText entry ++ "\n") ++
          result.config.format.indexLayout.tail ∧
      result.indexPath =
        some (result.outDir.child ("index" ++ "." ++ result.config.extension)) ∧
      w₃.files.write w₃.directory
          (result.outDir.child ("index" ++ "." ++ result.config.extension)).text
          (Utf8.encode (Page.index result.config result.entries custom).body.toList) =
        .ok files ∧
      w' = records.foldl World.report { w₃ with files } ∧
      List.Forall₂ (fun entry path => Page.isSafeName entry.name = true ∧
          (result.config.format.linkTarget? (result.config.format.itemText entry) =
              path.names.getLast? ↔
            result.config.format.Linkable entry.name))
        result.entries result.written := by
  obtain ⟨⟨root, run, found⟩, w₁, hstart, hdocument⟩ := Action.exec_bind_ok h
  have hrun := Run.eq_of_start hstart
  obtain ⟨-, rfl, -⟩ | ⟨-, documented, w₂, hfiles, hindex⟩ := Run.document_phases hdocument
  · exact absurd (congrArg Run.written hrun) hwritten
  · have hlisted : run.Listed := by
      rw [hrun]
      exact .nil
    obtain ⟨rfl, custom, w₃, files, records, hread, hwrite, rfl⟩ := Run.writeIndex_ok hindex
    exact ⟨root, run, documented, found, w₁, w₂, w₃, custom, files, records, hstart, hfiles,
      hread, Page.body_index_items _ _ _, rfl, hwrite, rfl,
      (Run.documentFiles_listed found hlisted hfiles).links⟩

/-- The run in a new project that finds one component, which has the given name. -/
def Sample.named (name : String) (overrides : Json.Fields) : Except Fault Run × World :=
  (generateWith Sample.env (fun _ => pure (Sample.files ["A.vue"]))
    (fun _ _ => .fixed (Sample.reports [("A.vue", Sample.report name "")])) "."
    overrides).exec (Sample.world Sample.directories [])

/-- Quotes and brackets in a name leave the link to its Markdown page alone. -/
theorem generateWith_links_quoted_name :
    ∃ (result : Run) (w' : World),
      Sample.named "A \"b\" [c]" Sample.overrides = (.ok result, w') ∧
      result.written = [⟨.slash, ["w", "o", "A \"b\" [c].md"]⟩] ∧
      result.entries.map (fun entry =>
          result.config.format.linkTarget? (result.config.format.itemText entry)) =
        [some "A \"b\" [c].md"] := by
  have hok : (Sample.named "A \"b\" [c]" Sample.overrides).1 =
      .ok { Sample.run with
        written := [⟨.slash, ["w", "o", "A \"b\" [c].md"]⟩]
        entries := [⟨"A \"b\" [c]", ""⟩]
        indexPath := some ⟨.slash, ["w", "o", "index.md"]⟩ } := by
    decide +kernel
  have hexec := Action.exec_eq_of_fst hok
  obtain ⟨-, -, -, -, -, -, -, -, -, -, -, -, -, -, -, -, -, hlinks⟩ :=
    generateWith_links hexec (List.cons_ne_nil _ _)
  refine ⟨_, _, hexec, rfl, ?_⟩
  obtain ⟨-, hlink⟩ := (List.forall₂_cons.mp hlinks).1
  exact congrArg (fun target => [target]) (hlink.mpr (by decide))

/-- The run that documents a component whose name has a quote in it, on pages in HTML. -/
def Sample.quoted : Run where
  config := { componentsDir := "c", outDir := "o" }
  outDir := ⟨.slash, ["w", "o"]⟩
  written := [⟨.slash, ["w", "o", "A\"B.html"]⟩]
  entries := [⟨"A\"B", ""⟩]
  indexPath := some ⟨.slash, ["w", "o", "index.html"]⟩

theorem Sample.named_quoted :
    (Sample.named "A\"B" [("componentsDir", .str "c"), ("outDir", .str "o")]).1 =
      .ok Sample.quoted := by
  let planned : Run := { config := Sample.quoted.config, outDir := Sample.quoted.outDir }
  let report := Sample.reports [("A.vue", Sample.report "A\"B" "")]
  let start := Run.start Sample.env (fun _ => pure (Sample.files ["A.vue"])) "."
    [("componentsDir", .str "c"), ("outDir", .str "o")]
  have hstart : (start.exec (Sample.world Sample.directories [])).1 =
      .ok (⟨.slash, ["w"]⟩, planned, Sample.files ["A.vue"]) := by decide +kernel
  have hfree : (start.exec (Sample.world Sample.directories [])).2.files.Free planned.outDir
      ["w", "o"] :=
    FileSystem.free_of_children (FileSystem.isTree_of_entries (by decide +kernel))
      (by decide +kernel) (by decide +kernel) (by decide +kernel)
  have hnames : ∀ file ∈ Sample.files ["A.vue"], ∀ d ∈ documented? (report file),
      FileSystem.textFault? (planned.outDir.child (planned.config.pageFile d.name)).text = none ∧
        Utf8.size (planned.config.pageFile d.name) ≤ FileSystem.maxNameSize := by
    decide +kernel
  have hospitable : Hospitable Sample.env (.fixed report) ⟨.slash, ["w"]⟩ planned
      (Sample.files ["A.vue"]) (start.exec (Sample.world Sample.directories [])).2 :=
    hospitable_fixed (by decide +kernel) ⟨by decide, by decide⟩ hfree rfl (by decide +kernel)
      (fun file hfile d hd => ⟨(hnames file hfile d hd).1, (hnames file hfile d hd).2,
        Environment.encodes_of_none fun _ => rfl⟩)
      (Environment.encodes_of_none fun _ => rfl)
  obtain ⟨reports, hreports, -, hdocument⟩ := Run.exec_document_of_hospitable _ hospitable
  have hgenerate : Sample.named "A\"B" [("componentsDir", .str "c"), ("outDir", .str "o")] =
      (Run.document Sample.env (.fixed report) ⟨.slash, ["w"]⟩ planned
        (Sample.files ["A.vue"])).exec (start.exec (Sample.world Sample.directories [])).2 :=
    Action.exec_bind_of_ok (Action.exec_eq_of_fst hstart) _
  refine (congrArg Prod.fst hgenerate).trans (hdocument.trans ?_)
  rw [hreports]
  rfl

/-- A name that looks like the middle of a link leads astray on a Markdown page, and a name
with a quote does so on a page in HTML. -/
theorem generateWith_links_astray :
    ∃ markdown html : Run,
      (Sample.named "a](b" Sample.overrides).1 = .ok markdown ∧
      markdown.written = [⟨.slash, ["w", "o", "a](b.md"]⟩] ∧
      markdown.entries.map (fun entry =>
          Format.markdown.linkTarget? (Format.markdown.itemText entry)) = [some "b](a](b.md"] ∧
      (Sample.named "A\"B" [("componentsDir", .str "c"), ("outDir", .str "o")]).1 = .ok html ∧
      html.written = [⟨.slash, ["w", "o", "A\"B.html"]⟩] ∧
      html.entries.map (fun entry =>
          Format.html.linkTarget? (Format.html.itemText entry)) = [some "A"] := by
  refine ⟨{ Sample.run with
      written := [⟨.slash, ["w", "o", "a](b.md"]⟩]
      entries := [⟨"a](b", ""⟩]
      indexPath := some ⟨.slash, ["w", "o", "index.md"]⟩ }, Sample.quoted, ?_, rfl, ?_,
    Sample.named_quoted, rfl, ?_⟩
  all_goals decide +kernel

end ComponentReference
