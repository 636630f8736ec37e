import ComponentReference.Proofs.Site.Output

/-!
# A run keeps to its output directory

Two statements about a whole run with fixed reports, whatever finds the component files
and in whatever order.  `generateWith_contained` says of every place what a run may have
changed there, and what is in the output directory at the end.  `generateWith_keeps_pages`
says which components still have their own page then: those whose name is neither `index`
nor that of a component documented later.

Both need the output directory to be ordinary.  A link in it would lead a page elsewhere;
a file with another name would be changed under that name too; and a device keeps
nothing of what is written to it.
-/

namespace ComponentReference

namespace FileSystem

variable {fs fs' : FileSystem} {place : Location} {pages : List (String × Bytes)}

/-- In the directory at the place is nothing but directories, and files without a second
name. -/
def Ordinary (fs : FileSystem) (place : Location) : Prop :=
  ∀ name e, fs.get? (place ++ [name]) = some e →
    e = .directory ∨ (∃ content, e = .file content) ∧ fs.OneName (place ++ [name])

theorem Ordinary.plain (h : fs.Ordinary place) : fs.Plain place := by
  refine ⟨fun name target hlink => ?_, fun name content hfile => ?_⟩
  · rcases h name _ hlink with hdir | ⟨⟨content, hfile⟩, -⟩
    · simp at hdir
    · simp at hfile
  · rcases h name _ hfile with hdir | ⟨-, hone⟩
    · simp at hdir
    · exact hone

theorem Made.ordinary (h : fs.Made fs' place) (hordinary : fs.Ordinary place) :
    fs'.Ordinary place := by
  intro name e he
  rw [h.get?_child] at he
  exact (hordinary name e he).imp_right fun hfile => ⟨hfile.1, h.names hfile.2⟩

/-- The last page of a name is what its file holds. -/
theorem Overlaid.get?_last {before after : List (String × Bytes)} {name : String}
    {content : Bytes} (h : fs.Overlaid fs' place (before ++ (name, content) :: after))
    (hordinary : fs.Ordinary place) (hafter : name ∉ after.map Prod.fst) :
    fs'.get? (place ++ [name]) = some (.file content) := by
  have haccepts := h.accepts (name, content) (by simp)
  have hget := h.get? (place ++ [name])
  rw [overlay_last hafter] at hget
  have hentry := haccepts.entry
  rw [hget] at hentry
  rw [hget]
  cases hbefore : fs.get? (place ++ [name]) with
  | none => rfl
  | some e =>
      rw [hbefore] at hentry
      rcases hordinary name e hbefore with rfl | ⟨⟨old, rfl⟩, -⟩
      · exact hentry.elim
      · rfl

/-- A page that could be written is found under its path. -/
theorem stat_child {p : Path} {name : String} {content content' : Bytes} (tree : fs.IsTree)
    (hp : p.IsSettled) (hname : Path.Proper name) (hleads : fs.Leads p place)
    (htext : textFault? (p.child name).text = none) (haccepts : fs.Accepts place name content')
    (h : fs.get? (place ++ [name]) = some (.file content)) (here : Location) :
    fs.stat here (p.child name).text = .ok (.file content) := by
  rw [stat, locate_child hp hname htext rfl hleads (by simp [h]),
    arrive_of_directory (hleads.get? tree), if_neg (by simp [haccepts.enter]),
    if_neg (Nat.not_lt.mpr haccepts.size), h]
  rfl

end FileSystem

/-- Of the elements with a property there is a last one. -/
theorem exists_last_of_mem {α : Type} {p : α → Prop} {l : List α} (h : ∃ a ∈ l, p a) :
    ∃ before a after, l = before ++ a :: after ∧ p a ∧ ∀ b ∈ after, ¬ p b := by
  induction l with
  | nil => simp at h
  | cons a rest ih =>
      by_cases hrest : ∃ b ∈ rest, p b
      · obtain ⟨before, b, after, rfl, hb, hafter⟩ := ih hrest
        exact ⟨a :: before, b, after, rfl, hb, hafter⟩
      · obtain ⟨b, hb, hpb⟩ := h
        rcases List.mem_cons.mp hb with rfl | hb
        · exact ⟨[], b, rest, rfl, hpb, fun c hc hpc => hrest ⟨c, hc, hpc⟩⟩
        · exact absurd ⟨b, hb, hpb⟩ hrest

variable {env : Environment} {find : Finder} {reports : Config → Path → Path → Except Fault Json}
  {report : Path → Except Fault Json} {path : String} {overrides : Json.Fields} {w w' : World}
  {r : Except Fault Run} {fs : FileSystem} {place : Location} {config : Config}
  {files : List Path}

/-! ## The pages by name -/

theorem mem_documentsOf {d : Document} :
    d ∈ documentsOf report files ↔ ∃ file ∈ files, documented? (report file) = some d :=
  List.mem_filterMap

theorem exists_of_mem_pagesOf {page : String × Bytes} (h : page ∈ pagesOf report config files) :
    ∃ file ∈ files, ∃ d, documented? (report file) = some d ∧ page = config.pageOf d := by
  obtain ⟨d, hd, rfl⟩ := List.mem_map.mp h
  obtain ⟨file, hfile, hd⟩ := mem_documentsOf.mp hd
  exact ⟨file, hfile, d, hd, rfl⟩

/-- The last document of a name is what its page holds at the end, unless the index page
has that name. -/
theorem Run.get?_page {run : Run} {entries : List IndexEntry} {custom : String}
    {before after : List Path} {file : Path} {d : Document} (hordinary : fs.Ordinary place)
    (h : fs.Overlaid w'.files place (pagesOf report run.config (before ++ file :: after) ++
      [run.config.indexOf entries custom]))
    (hdocumented : documented? (report file) = some d) (hname : d.name ≠ Page.indexName)
    (hafter : ∀ later ∈ after, ∀ d', documented? (report later) = some d' → d'.name ≠ d.name) :
    w'.files.get? (place ++ [run.config.pageFile d.name]) =
      some (.file (Utf8.encode (Page.ofDocument d run.config).body.toList)) := by
  have hsplit : pagesOf report run.config (before ++ file :: after) ++
        [run.config.indexOf entries custom] =
      pagesOf report run.config before ++ run.config.pageOf d ::
        (pagesOf report run.config after ++ [run.config.indexOf entries custom]) := by
    simp [pagesOf, documentsOf, List.filterMap_append, hdocumented]
  rw [hsplit] at h
  refine h.get?_last hordinary fun hmem => ?_
  obtain ⟨page, hpage, heq⟩ := List.mem_map.mp hmem
  rcases List.mem_append.mp hpage with hlater | hindex
  · obtain ⟨later, hmem, d', hd', rfl⟩ := exists_of_mem_pagesOf hlater
    exact hafter later hmem d' hd' (run.config.pageFile_injective heq)
  · rw [List.mem_singleton.mp hindex] at heq
    exact hname (run.config.pageFile_injective heq).symm

/-- So the page of every component holds what its last document says. -/
theorem Run.exists_last_page {run : Run} {entries : List IndexEntry} {custom : String}
    {d : Document} (hordinary : fs.Ordinary place)
    (hover : fs.Overlaid w'.files place (pagesOf report run.config files ++
      [run.config.indexOf entries custom]))
    (hd : d ∈ documentsOf report files) (hname : d.name ≠ Page.indexName) :
    ∃ before file after d', files = before ++ file :: after ∧
      documented? (report file) = some d' ∧ d'.name = d.name ∧
      (∀ later ∈ after, ∀ d'', documented? (report later) = some d'' → d''.name ≠ d.name) ∧
      w'.files.get? (place ++ [run.config.pageFile d.name]) =
        some (.file (Utf8.encode (Page.ofDocument d' run.config).body.toList)) := by
  obtain ⟨file₀, hfile₀, hd₀⟩ := mem_documentsOf.mp hd
  obtain ⟨before, file, after, hsplit, ⟨d', hd', hname'⟩, hafter⟩ := exists_last_of_mem
    (p := fun file => ∃ d', documented? (report file) = some d' ∧ d'.name = d.name)
    ⟨file₀, hfile₀, d, hd₀, rfl⟩
  have hlater : ∀ later ∈ after, ∀ d'',
      documented? (report later) = some d'' → d''.name ≠ d.name :=
    fun later hlater d'' hd'' heq => hafter later hlater ⟨d'', hd'', heq⟩
  refine ⟨before, file, after, d', hsplit, hd', hname', hlater, ?_⟩
  rw [hsplit] at hover
  rw [← hname'] at hlater hname ⊢
  exact Run.get?_page hordinary hover hd' hname hlater

/-- What has no page's name is left alone. -/
theorem Run.get?_child_of_ne {run : Run} {entries : List IndexEntry} {custom child : String}
    (hover : fs.Overlaid w'.files place (pagesOf report run.config files ++
      [run.config.indexOf entries custom]))
    (hindex : child ≠ run.config.pageFile Page.indexName)
    (hchild : ∀ d ∈ documentsOf report files, child ≠ run.config.pageFile d.name) :
    w'.files.get? (place ++ [child]) = fs.get? (place ++ [child]) := by
  by_contra hne
  obtain ⟨page, hpage, heq⟩ := hover.mem_of_ne hne
  obtain rfl := List.singleton_inj.mp (List.append_cancel_left heq)
  rcases List.mem_append.mp hpage with hpage | hpage
  · obtain ⟨d, hd, rfl⟩ := List.mem_map.mp hpage
    exact hchild d hd rfl
  · rw [List.mem_singleton.mp hpage] at hindex
    exact hindex rfl

/-! ## Containment -/

/-- The place is that of a page that the run may write. -/
def Run.IsPagePlace (report : Path → Except Fault Json) (config : Config) (files : List Path)
    (place l : Location) : Prop :=
  ∃ name, l = place ++ [name ++ "." ++ config.extension] ∧
    (name = "index" ∨ ∃ file ∈ files, ∃ d, documented? (report file) = some d ∧ d.name = name)

/-- However a run ends that has come to its component files, all pages are at their places. -/
theorem Run.Ended.isPagePlace {root : Path} {run : Run} {w₁ : World} {l : Location}
    (h : Run.Ended env w₁.files place report root run files w₁ w' r)
    (hne : w'.files.get? l ≠ w₁.files.get? l) :
    IsPagePlace report run.config files place l := by
  cases h with
  | empty _ hover =>
      obtain ⟨page, hpage, -⟩ := hover.mem_of_ne hne
      simp at hpage
  | stopped fault done emptied hdone hemptied hover =>
      obtain ⟨page, hpage, rfl⟩ := hover.mem_of_ne hne
      rcases List.mem_append.mp hpage with hpage | hpage
      · obtain ⟨file, hfile, d, hd, rfl⟩ := exists_of_mem_pagesOf hpage
        exact ⟨d.name, rfl, .inr ⟨file, hdone.subset hfile, d, hd, rfl⟩⟩
      · obtain ⟨name, rfl, hname⟩ := hemptied page hpage
        refine ⟨name, rfl, hname.imp_right fun ⟨d, hd, hname⟩ => ?_⟩
        obtain ⟨file, hfile, hd⟩ := mem_documentsOf.mp hd
        exact ⟨file, hfile, d, hd, hname⟩
  | whole _ custom _ _ _ _ _ _ _ hover =>
      obtain ⟨page, hpage, rfl⟩ := hover.mem_of_ne hne
      rcases List.mem_append.mp hpage with hpage | hindex
      · obtain ⟨file, hfile, d, hd, rfl⟩ := exists_of_mem_pagesOf hpage
        exact ⟨d.name, rfl, .inr ⟨file, hfile, d, hd, rfl⟩⟩
      · rw [List.mem_singleton.mp hindex]
        exact ⟨"index", rfl, .inl rfl⟩

/-- A run with fixed reports, in a world without a log file and with an ordinary output
directory, changes nothing but the output directory, the missing directories that it lies
in, and pages in it, whether it ends well or not.  If it ends well with component files,
the index page is the one of all entries and of the custom content that the run has read;
the page of any other name is that of the last component of that name; and what else is
in the output directory is as before. -/
theorem generateWith_contained (hfind : ∀ dir, (find dir).Quiet) (hlog : w.logFile = none)
    (tree : w.files.IsTree)
    (hordinary : ∀ root run w₀, (Run.plan env path overrides).exec w = (.ok (root, run), w₀) →
      w.files.Ordinary (w.files.placeOf run.outDir))
    (h : (generateWith env find (fun config root => .fixed (reports config root)) path
      overrides).exec w = (r, w')) :
    (∀ l, w'.files.get? l ≠ w.files.get? l → ∃ root run w₀,
      (Run.plan env path overrides).exec w = (.ok (root, run), w₀) ∧
        (l <+: w.files.placeOf run.outDir ∧ w.files.get? l = none ∧
            w'.files.get? l = some .directory ∨
          ∃ files w₁, (Run.start env find path overrides).exec w =
              (.ok (root, run, files), w₁) ∧
            Run.IsPagePlace (reports run.config root) run.config files
              (w.files.placeOf run.outDir) l)) ∧
    ∀ result, r = .ok result → ∃ root run files w₁,
      (Run.start env find path overrides).exec w =
          (.ok (root, run, files), w₁) ∧
        w'.files.Leads run.outDir (w.files.placeOf run.outDir) ∧
        (files ≠ [] → ∃ custom w₂,
          ((Run.documentFiles env (.fixed (reports run.config root)) run files).exec
            (w₁.report (Run.foundRecord files))).2 = w₂ ∧
          ((readCustomContent env run.config root).exec w₂).1 = .ok custom ∧
          w'.files.get? (w.files.placeOf run.outDir ++ ["index" ++ "." ++ run.config.extension]) =
            some (.file (Utf8.encode (Page.index run.config result.entries custom).body.toList))) ∧
        (∀ entry ∈ result.entries, entry.name ≠ "index" → ∃ before file after d,
          files = before ++ file :: after ∧
          documented? (reports run.config root file) = some d ∧ d.name = entry.name ∧
          (∀ later ∈ after, ∀ d', documented? (reports run.config root later) = some d' →
            d'.name ≠ entry.name) ∧
          w'.files.get? (w.files.placeOf run.outDir ++
              [entry.name ++ "." ++ run.config.extension]) =
            some (.file (Utf8.encode (Page.ofDocument d run.config).body.toList))) ∧
        ∀ child, child ≠ "index" ++ "." ++ run.config.extension →
          (∀ entry ∈ result.entries, child ≠ entry.name ++ "." ++ run.config.extension) →
          w'.files.get? (w.files.placeOf run.outDir ++ [child]) =
            w.files.get? (w.files.placeOf run.outDir ++ [child]) := by
  have hcourse := generateWith_course hfind hlog tree
    (fun root run w₀ hplan => (hordinary root run w₀ hplan).plain) h
  constructor
  · intro l hne
    cases hcourse with
    | unplanned _ halike => exact absurd (by rw [halike.files]) hne
    | unstarted root run w₀ hplan _ hmade =>
        exact ⟨root, run, w₀, hplan, .inl (hmade.of_ne hne)⟩
    | started root run w₀ files w₁ hplan hstart _ _ hmade _ hended =>
        refine ⟨root, run, w₀, hplan, ?_⟩
        by_cases hpage : w'.files.get? l = w₁.files.get? l
        · rw [hpage] at hne ⊢
          exact .inl (hmade.of_ne hne)
        · exact .inr ⟨files, w₁, hstart, hended.isPagePlace hpage⟩
  · rintro result rfl
    cases hcourse with
    | unplanned hr _ => exact absurd rfl (hr result)
    | unstarted _ _ _ _ hr _ => exact absurd rfl (hr result)
    | started root run w₀ files w₁ hplan hstart _ _ hmade hreached hended =>
        have hentries : run.entries = [] := by rw [Run.eq_of_start hstart]
        have hordinary₁ := hmade.ordinary (hordinary root run w₀ hplan)
        refine ⟨root, run, files, w₁, hstart, ?_⟩
        cases hended with
        | empty hfiles hover =>
            refine ⟨hreached.leads.grows hmade.tree hover.grows, fun hne => absurd hfiles hne,
              ?_, fun child _ _ => ?_⟩
            · simp [hentries]
            · rw [hover.get?, FileSystem.overlay_of_ne (by simp), hmade.get?_child]
        | whole w₂ custom hfiles hloop hcustom _ _ _ _ hover =>
            have hresult : (run.after (files.map fun file =>
                (file, reports run.config root file))).indexed.entries =
                (documentsOf (reports run.config root) files).map Document.entry := by
              simp [Run.indexed, Run.after, hentries, documents_map]
            rw [hentries, List.nil_append] at hover
            rw [hresult]
            refine ⟨hreached.leads.grows hmade.tree hover.grows,
              fun _ => ⟨custom, w₂, ?_, hcustom, ?_⟩, fun entry hentry hname => ?_,
              fun child hindex hchild => ?_⟩
            · rw [hloop]
            · exact hover.get?_last hordinary₁ (by simp)
            · obtain ⟨d, hd, rfl⟩ := List.mem_map.mp hentry
              exact Run.exists_last_page hordinary₁ hover hd hname
            · rw [← hmade.get?_child child]
              exact Run.get?_child_of_ne hover hindex fun d hd =>
                hchild d.entry (List.mem_map_of_mem hd)

/-- A project with one component. -/
def Sample.oneComponent : World :=
  Sample.world (Sample.directories ++ [(["w", "c", "A.vue"], Sample.file "")]) []

/-- What a run in a project leaves when components of the files have these reports. -/
def Sample.generated (w : World) (named : List (String × Except Fault Json)) :
    Except Fault Run × World :=
  (generate Sample.env (fun _ _ => .fixed (Sample.reports named)) "." Sample.overrides).exec w

theorem FileSystem.ordinary_of_children {fs : FileSystem} {place : Location}
    (h : fs.children place = []) : fs.Ordinary place := by
  intro name e he
  rw [get?_eq_none_of_not_mem_children (by simp [h])] at he
  simp at he

theorem Sample.ordinary_oneComponent {root : Path} {run : Run} {w₀ : World}
    (h : (Run.plan Sample.env "." Sample.overrides).exec Sample.oneComponent =
      (.ok (root, run), w₀)) :
    Sample.oneComponent.files.Ordinary (Sample.oneComponent.files.placeOf run.outDir) ∧
      Sample.oneComponent.files.placeOf run.outDir = ["w", "o"] := by
  have hrun : ((Run.plan Sample.env "." Sample.overrides).exec Sample.oneComponent).1 =
      .ok (⟨.slash, ["w"]⟩, Sample.run) := by decide +kernel
  rw [h] at hrun
  obtain ⟨rfl, rfl⟩ := Prod.mk.inj (Except.ok.inj hrun)
  exact ⟨FileSystem.ordinary_of_children (by decide +kernel), by decide +kernel⟩

/-- A run with one component leaves its file alone. -/
theorem generateWith_contained_one_component :
    (Sample.generated Sample.oneComponent [("A.vue", Sample.report "A" "")]).2.files.get?
      ["w", "c", "A.vue"] = Sample.oneComponent.files.get? ["w", "c", "A.vue"] := by
  unfold Sample.generated generate
  have hcontained := (@generateWith_contained Sample.env (discover Sample.env componentSuffix)
    (fun _ _ => Sample.reports [("A.vue", Sample.report "A" "")]) "." Sample.overrides _ _ _
    (quiet_discover Sample.env componentSuffix) rfl (FileSystem.isTree_of_entries (by decide +kernel))
    (fun _ _ _ hplan => (Sample.ordinary_oneComponent hplan).1)
    (Action.exec_eq_of_fst rfl)).1 ["w", "c", "A.vue"]
  by_contra hne
  obtain ⟨root, run, w₀, hplan, hwhere⟩ := hcontained hne
  rw [(Sample.ordinary_oneComponent hplan).2] at hwhere
  rcases hwhere with ⟨honway, -, -⟩ | ⟨_, _, -, name, heq, -⟩
  · exact absurd honway (by decide)
  · simp at heq

/-- A project with one component whose page is already there, as another name of a file
beside the output directory. -/
def Sample.joinedPage : World :=
  Sample.world
    (Sample.directories ++ [(["w", "c", "A.vue"], Sample.file ""),
      (["w", "keep.txt"], Sample.file "kept"), (["w", "o"], .directory),
      (["w", "o", "A.md"], Sample.file "kept")])
    [(["w", "keep.txt"], { mode := 0o644, number? := some 1 }),
      (["w", "o", "A.md"], { mode := 0o644, number? := some 1 })]

/-- No entry of the output directory is a link.  Still a file beside it is written over,
which has a second name in it. -/
theorem generate_not_contained_joined_page :
    (Sample.joinedPage.files.children ["w", "o"] = ["A.md"] ∧
        Sample.joinedPage.files.get? ["w", "o", "A.md"] = some (Sample.file "kept")) ∧
      Sample.joinedPage.files.get? ["w", "keep.txt"] = some (Sample.file "kept") ∧
      (Sample.generated Sample.joinedPage [("A.vue", Sample.report "A" "")]).2.files.get?
        ["w", "keep.txt"] = some (Sample.file "# A\n") := by
  decide +kernel

/-! ## Which pages are kept -/

theorem Path.child_inj {p : Path} {name name' : String} :
    p.child name = p.child name' ↔ name = name' := by
  constructor
  · intro h
    exact List.singleton_inj.mp (List.append_cancel_left (congrArg Path.names h))
  · rintro rfl
    rfl

/-- A run that has ended well has written a page for every documented component, and the
file at that path holds the component's own page as long as it is neither the index page
nor the page of a component documented later.  Two components share a path exactly if they
share their name, and a component shares one with the index page exactly if it is called
`index`. -/
theorem generateWith_keeps_pages {result : Run} (hfind : ∀ dir, (find dir).Quiet)
    (hlog : w.logFile = none) (tree : w.files.IsTree)
    (hordinary : ∀ root run w₀, (Run.plan env path overrides).exec w = (.ok (root, run), w₀) →
      w.files.Ordinary (w.files.placeOf run.outDir))
    (h : (generateWith env find (fun config root => .fixed (reports config root)) path
      overrides).exec w = (.ok result, w')) :
    ∃ root run files w₁,
      (Run.start env find path overrides).exec w =
          (.ok (root, run, files), w₁) ∧
        result.written = (documentsOf (reports run.config root) files).map (fun d =>
          run.outDir.child (d.name ++ "." ++ run.config.extension)) ∧
        (∀ before file after d, files = before ++ file :: after →
          documented? (reports run.config root file) = some d → d.name ≠ "index" →
          (∀ later ∈ after, ∀ d', documented? (reports run.config root later) = some d' →
            d'.name ≠ d.name) →
          ∀ here, w'.files.stat here
              (run.outDir.child (d.name ++ "." ++ run.config.extension)).text =
            .ok (.file (Utf8.encode (Page.ofDocument d run.config).body.toList))) ∧
        (∀ d d' : Document, run.outDir.child (d.name ++ "." ++ run.config.extension) =
            run.outDir.child (d'.name ++ "." ++ run.config.extension) ↔ d.name = d'.name) ∧
        (files ≠ [] → ∃ index, result.indexPath = some index ∧ ∀ d : Document,
          run.outDir.child (d.name ++ "." ++ run.config.extension) = index ↔
            d.name = "index") := by
  have hcourse := generateWith_course hfind hlog tree
    (fun root run w₀ hplan => (hordinary root run w₀ hplan).plain) h
  cases hcourse with
  | unplanned hr _ => exact absurd rfl (hr result)
  | unstarted _ _ _ _ hr _ => exact absurd rfl (hr result)
  | started root run w₀ files w₁ hplan hstart _ _ hmade hreached hended =>
      have hp := (Run.isSettled_of_plan hlog tree hplan).2
      have hinjective : ∀ name name', run.outDir.child (run.config.pageFile name) =
          run.outDir.child (run.config.pageFile name') ↔ name = name' := fun name name' =>
        Path.child_inj.trans ⟨run.config.pageFile_injective, fun h => h ▸ rfl⟩
      have hwritten : run.written = [] := by rw [Run.eq_of_start hstart]
      refine ⟨root, run, files, w₁, hstart, ?_⟩
      cases hended with
      | empty hfiles hover =>
          subst hfiles
          refine ⟨by simp [hwritten, documentsOf],
            fun before file after d hsplit => by simp at hsplit,
            fun d d' => hinjective d.name d'.name, fun hne => absurd rfl hne⟩
      | whole w₂ custom hfiles hloop hcustom hallows _ _ _ hover =>
          refine ⟨?_, ?_, fun d d' => hinjective d.name d'.name,
            fun _ => ⟨_, rfl, fun d => hinjective d.name "index"⟩⟩
          · simp [Run.indexed, Run.after, hwritten, documents_map, Config.pageFile]
          · intro before file after d hsplit hd hname hafter here
            have hmem : d ∈ documentsOf (reports run.config root) files :=
              mem_documentsOf.mpr ⟨file, by simp [hsplit], hd⟩
            have haccepts := hover.accepts (run.config.pageOf d)
              (List.mem_append_left _ (List.mem_map_of_mem hmem))
            have hleads := hreached.leads.grows hmade.tree hover.grows
            have htext := (hallows d hmem).path
            have htree := hover.tree
            rw [hsplit] at hover
            have hpage := Run.get?_page (hmade.ordinary (hordinary root run w₀ hplan)) hover hd
              hname hafter
            exact FileSystem.stat_child htree hp (run.config.proper_documentFile hd) hleads htext
              haccepts hpage here

/-- The page of a single component is found where it was written. -/
theorem generateWith_keeps_pages_one_component :
    ∃ result, (Sample.generated Sample.oneComponent [("A.vue", Sample.report "A" "")]).1 =
        .ok result ∧
      (Sample.generated Sample.oneComponent [("A.vue", Sample.report "A" "")]).2.files.stat []
        "/w/o/A.md" = .ok (Sample.page "A" "") := by
  have hok : (Sample.generated Sample.oneComponent [("A.vue", Sample.report "A" "")]).1 =
      .ok (Sample.run.withPage (.ofFields (Sample.fields "A" ""))).indexed := by decide +kernel
  refine ⟨_, hok, ?_⟩
  unfold Sample.generated generate at hok ⊢
  obtain ⟨root, run, files, w₁, hstart, -, hkept, -⟩ := @generateWith_keeps_pages
    Sample.env (discover Sample.env componentSuffix) (fun _ _ => Sample.reports [("A.vue", Sample.report "A" "")]) "." Sample.overrides _ _ _
    (quiet_discover Sample.env componentSuffix) rfl (FileSystem.isTree_of_entries (by decide +kernel))
    (fun _ _ _ hplan => (Sample.ordinary_oneComponent hplan).1) (Action.exec_eq_of_fst hok)
  have hfound : ((Run.start Sample.env (discover Sample.env componentSuffix) "."
      Sample.overrides).exec Sample.oneComponent).1 =
        .ok (⟨.slash, ["w"]⟩, Sample.run, Sample.files ["A.vue"]) := by decide +kernel
  rw [hstart] at hfound
  obtain ⟨rfl, hpair⟩ := Prod.mk.inj (Except.ok.inj hfound)
  obtain ⟨rfl, rfl⟩ := Prod.mk.inj hpair
  exact hkept [] ⟨.slash, ["w", "c", "A.vue"]⟩ [] (.ofFields (Sample.fields "A" "")) rfl
    (by rfl) (by decide +kernel) (by simp) []

/-- Two components of one name share a page, which is that of the second one.  And a
component that is called `index` loses its page to the index. -/
theorem generate_loses_pages :
    let twins := (generateWith Sample.env (fun _ => pure (Sample.files ["A.vue", "B.vue"]))
      (fun _ _ => .fixed (Sample.reports
        [("A.vue", Sample.report "A" "first"), ("B.vue", Sample.report "A" "second")]))
      "." Sample.overrides).exec (Sample.world Sample.directories [])
    let index := Sample.generated Sample.oneComponent [("A.vue", Sample.report "index" "own")]
    twins.1.toOption.map Run.written =
        some [⟨.slash, ["w", "o", "A.md"]⟩, ⟨.slash, ["w", "o", "A.md"]⟩] ∧
      twins.2.files.get? ["w", "o", "A.md"] = some (Sample.page "A" "second") ∧
      twins.2.files.get? ["w", "o", "A.md"] ≠ some (Sample.page "A" "first") ∧
      index.1.toOption.map Run.written = some [⟨.slash, ["w", "o", "index.md"]⟩] ∧
      index.2.files.get? ["w", "o", "index.md"] ≠ some (Sample.page "index" "own") := by
  decide +kernel

end ComponentReference
