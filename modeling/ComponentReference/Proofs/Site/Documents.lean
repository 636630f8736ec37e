import ComponentReference.Proofs.Actions
import ComponentReference.Proofs.Host.PathText
import ComponentReference.Site.Run

/-!
# Documented components

A component gets a page if its report is an object with a display name that can name a
file.  `documented?` says so in one place, and the equations here for writing a page and
for documenting a file split into cases by it: a file is skipped, or its page is written,
or writing stops the run.

The records that are left on the way are never told apart.  They only matter as far as a
log file is open, and are therefore kept as a list that is reported.
-/

namespace ComponentReference

/-! ## Which components get a page -/

/-- The source that has one report for each file, and does nothing but give it. -/
def ReportSource.fixed (report : Path → Except Fault Json) : ReportSource :=
  fun w file => (report file, w)

/-- The name that a document's component goes by. -/
def Document.name (d : Document) : String :=
  d.displayName.getD ""

/-- The component as the index lists it. -/
def Document.entry (d : Document) : IndexEntry :=
  ⟨d.name, d.description.getD ""⟩

/-- The document in a report, if its component gets a page. -/
def documented? (report : Except Fault Json) : Option Document :=
  match Document.ofReport report with
  | .ok d => if Page.isSafeName d.name then some d else none
  | .error _ => none

theorem Document.ofReport_eq_ok_iff {report : Except Fault Json} {d : Document} :
    Document.ofReport report = .ok d ↔
      ∃ fields, report = .ok (.obj fields) ∧ d = .ofFields fields := by
  rcases report with fault | j
  · exact ⟨fun h => (by cases h), fun ⟨_, h, _⟩ => (by cases h)⟩
  cases j with
  | obj fields =>
      refine ⟨fun h => ⟨fields, rfl, (Except.ok.inj h).symm⟩, ?_⟩
      rintro ⟨fields', hfields, rfl⟩
      obtain rfl := Json.obj.inj (Except.ok.inj hfields)
      rfl
  | _ => exact ⟨fun h => (by cases h), fun ⟨_, h, _⟩ => (by cases h)⟩

/-- A component gets a page exactly if its report is an object with a display name, and
that name is safe. -/
theorem documented?_eq_some_iff {report : Except Fault Json} {d : Document} :
    documented? report = some d ↔
      ∃ fields, report = .ok (.obj fields) ∧ d = .ofFields fields ∧
        ∃ name, d.displayName = some name ∧ Page.isSafeName name = true := by
  have hname : Page.isSafeName d.name = true ↔
      ∃ name, d.displayName = some name ∧ Page.isSafeName name = true := by
    unfold Document.name
    cases d.displayName with
    | none => simp [Page.isSafeName]
    | some name => simp
  have hdocument : documented? report = some d ↔
      Document.ofReport report = .ok d ∧ Page.isSafeName d.name = true := by
    unfold documented?
    cases Document.ofReport report with
    | error fault => simp
    | ok d' =>
        by_cases hsafe : Page.isSafeName d'.name = true
        · simp only [hsafe, if_true, Option.some_inj, Except.ok.injEq]
          exact ⟨fun h => ⟨h, h ▸ hsafe⟩, And.left⟩
        · simp only [hsafe, if_false, reduceCtorEq, Except.ok.injEq, false_iff]
          exact fun h => hsafe (h.1 ▸ h.2)
  rw [hdocument, Document.ofReport_eq_ok_iff, hname]
  constructor
  · rintro ⟨⟨fields, hreport, hd⟩, hsafe⟩
    exact ⟨fields, hreport, hd, hsafe⟩
  · rintro ⟨fields, hreport, hd, hsafe⟩
    exact ⟨⟨fields, hreport, hd⟩, hsafe⟩

theorem isSafeName_of_documented? {report : Except Fault Json} {d : Document}
    (h : documented? report = some d) : Page.isSafeName d.name = true := by
  obtain ⟨fields, -, -, name, hname, hsafe⟩ := documented?_eq_some_iff.mp h
  rwa [Document.name, hname]

/-! ## The names of their pages -/

/-- The name of the file for the page of that name. -/
def Config.pageFile (config : Config) (name : String) : String :=
  name ++ "." ++ config.extension

@[simp] theorem Page.filename_ofDocument (d : Document) (config : Config) :
    (Page.ofDocument d config).filename = config.pageFile d.name := rfl

@[simp] theorem Page.filename_index (config : Config) (entries : List IndexEntry)
    (custom : String) :
    (Page.index config entries custom).filename = config.pageFile Page.indexName := rfl

theorem Config.extension_cases (config : Config) :
    config.extension = "md" ∨ config.extension = "html" := by
  unfold Config.extension
  cases config.format with
  | markdown => exact .inl rfl
  | html => exact .inr rfl

theorem Config.pageFile_injective (config : Config) {name name' : String}
    (h : config.pageFile name = config.pageFile name') : name = name' := by
  have hlist := congrArg String.toList h
  simp only [pageFile, String.toList_append, List.append_left_inj] at hlist
  exact String.toList_inj.mp hlist

/-- No text before the dot makes the name of a page lead elsewhere, as long as it has no
slash. -/
theorem Config.proper_pageFile (config : Config) {name : String} (hslash : '/' ∉ name.toList) :
    Path.Proper (config.pageFile name) := by
  have hlength : 3 ≤ (config.pageFile name).toList.length := by
    rcases config.extension_cases with h | h <;> simp [pageFile, h, String.toList_append]
  refine ⟨?_, ?_, ?_, ?_⟩
  · intro h
    simp [h] at hlength
  · intro h
    simp [h] at hlength
  · intro h
    simp [h] at hlength
  · rcases config.extension_cases with h | h <;>
      simp [pageFile, h, String.toList_append, hslash]

theorem Page.not_mem_of_isSafeName {name : String} (h : Page.isSafeName name = true) :
    '/' ∉ name.toList := by
  intro hmem
  simp only [Page.isSafeName, Bool.and_eq_true, List.all_eq_true] at h
  have := h.2 '/' hmem
  simp at this

theorem Config.proper_indexFile (config : Config) :
    Path.Proper (config.pageFile Page.indexName) :=
  config.proper_pageFile (by decide)

theorem Config.proper_documentFile (config : Config) {report : Except Fault Json} {d : Document}
    (h : documented? report = some d) : Path.Proper (config.pageFile d.name) :=
  config.proper_pageFile (Page.not_mem_of_isSafeName (isSafeName_of_documented? h))

/-- A proper name is the path of one name. -/
theorem Path.append_ofString {name : String} (h : Path.Proper name) (p : Path) :
    p ++ Path.ofString name = p.child name := by
  have hnames : Path.namesIn name = [name] := h.namesIn
  have hanchor : (Path.ofString name).anchor = .nothing := by
    have hhead : name.toList.takeWhile (· = '/') = [] := by
      rcases hlist : name.toList with _ | ⟨c, rest⟩
      · rfl
      · have hc : c ≠ '/' := fun hc => h.2.2.2 (by simp [hlist, hc])
        simp [hc]
    simp only [Path.ofString, hhead]
  show Path.append p _ = _
  rw [Path.append, Path.isAbsolute, hanchor]
  simp [Path.ofString, hnames, Path.child]

/-! ## Writing a page -/

namespace Environment

variable {env : Environment} {fs fs' : FileSystem} {here : Location} {path text : String}
  {fault : Fault}

/-- There is no half of a surrogate pair in the text, and none in the path but for those that
stand for bytes of names. -/
structure Encodes (env : Environment) (path text : String) : Prop where
  path : ∀ c ∈ path.toList, ∀ half, env.half? c = some half → isNameByte half = true
  text : ∀ c ∈ text.toList, env.half? c = none

theorem encodes_iff : env.Encodes path text ↔
    env.pathRefusal? path = none ∧ env.textRefusal? text = none := by
  rw [pathRefusal?, textRefusal?, Utf8.refusedFrom_eq_none_iff, Utf8.refusedFrom_eq_none_iff]
  simp only [Bool.false_eq_true, imp_false, ← Option.eq_none_iff_forall_ne_some]
  exact ⟨fun h => ⟨h.path, h.text⟩, fun h => ⟨h.1, h.2⟩⟩

/-- Where no character stands for a half, nothing is in the way. -/
theorem encodes_of_none (h : ∀ c, env.half? c = none) : env.Encodes path text :=
  ⟨fun c _ half hc => absurd hc (by simp [h]), fun c _ => h c⟩

instance : Decidable (env.Encodes path text) :=
  decidable_of_iff _ encodes_iff.symm

/-- A text is written if it has no half in it, and the system lets it be written. -/
theorem writeFile_ok_iff : env.writeFile fs here path text = (.ok (), fs') ↔
    env.Encodes path text ∧ fs.write here path (Utf8.encode text.toList) = .ok fs' := by
  rw [encodes_iff, writeFile]
  cases env.pathRefusal? path with
  | some refusal => simp
  | none =>
      cases env.textRefusal? text with
      | some refusal => cases hwrite : fs.write here path [] <;> simp [hwrite]
      | none => cases hwrite : fs.write here path (Utf8.encode text.toList) <;> simp [hwrite]

/-- What cannot be written leaves the files as they are, or an empty file. -/
theorem writeFile_error (h : env.writeFile fs here path text = (.error fault, fs')) :
    fs' = fs ∨ fs.write here path [] = .ok fs' := by
  rw [writeFile] at h
  cases hpath : env.pathRefusal? path with
  | some refusal => simp_all
  | none =>
      cases htext : env.textRefusal? text with
      | some refusal => cases hwrite : fs.write here path [] <;> simp_all
      | none => cases hwrite : fs.write here path (Utf8.encode text.toList) <;> simp_all

end Environment

/-- Writing a page writes its body to its file, and leaves a record if that went well. -/
theorem exec_writePage (env : Environment) (outDir : Path) {page : Page}
    (h : Path.Proper page.filename) (w : World) :
    ∃ r, (writePage env outDir page).exec w =
      match env.writeFile w.files w.directory (outDir.child page.filename).text page.body with
      | (.ok (), files) => (.ok (outDir.child page.filename), ({ w with files } : World).report r)
      | (.error fault, files) => (.error fault, { w with files }) := by
  refine ⟨⟨.debug, .output, "Wrote " ++ (outDir.child page.filename).text ++ " (" ++
    toString page.body.length ++ " chars)"⟩, ?_⟩
  unfold writePage writeText
  rw [Path.append_ofString h, Action.exec_bind, Action.exec_changePartly]
  rcases env.writeFile w.files w.directory (outDir.child page.filename).text page.body with
    ⟨fault | ⟨⟨⟩⟩, files⟩ <;> rfl

/-! ## Documenting a file -/

namespace Run

/-- The run after the page of a component has been written. -/
def withPage (run : Run) (d : Document) : Run :=
  { run with
    written := run.written ++ [run.outDir.child (run.config.pageFile d.name)]
    entries := run.entries ++ [d.entry] }

variable {env : Environment} {source : ReportSource} {w : World} {file : Path}

/-- A file is skipped whose component gets no page. -/
theorem exec_documentFile_skip (run : Run) (h : documented? (source w file).1 = none) :
    ∃ records : List Record, (documentFile env source run file).exec w =
      (.ok (run.skip file), records.foldl World.report (source w file).2) := by
  unfold documentFile extract
  simp only [Action.exec_bind, Action.exec_get, Action.exec_set]
  unfold documented? at h
  cases hd : Document.ofReport (source w file).1 with
  | error fault =>
      refine ⟨[?failed, ?skipped], ?exec⟩
      case exec =>
        simp only [Action.exec_bind, Action.exec_report, Action.exec_pure]
        rfl
  | ok d =>
      have hsafe : ¬ Page.isSafeName d.name = true := fun hsafe => by simp [hd, hsafe] at h
      cases hname : d.displayName with
      | none =>
          refine ⟨[?nameless, ?skippedNameless], ?execNameless⟩
          case execNameless =>
            simp only [Action.exec_bind, Action.exec_report, Action.exec_pure, hname,
              Option.isNone_none, if_true]
            rfl
      | some name =>
          rw [Document.name, hname] at hsafe
          refine ⟨[?unsafeName], ?execUnsafe⟩
          case execUnsafe =>
            simp only [Action.exec_pure, hname, Option.isNone_some, Bool.false_eq_true, if_false]
            rw [if_neg hsafe, Action.exec_bind, Action.exec_report]
            rfl

/-- Otherwise its page is written, unless a fault stops the run. -/
theorem exec_documentFile_page (run : Run) {d : Document}
    (h : documented? (source w file).1 = some d) :
    ∃ records : List Record, (documentFile env source run file).exec w =
      match env.writeFile (source w file).2.files (source w file).2.directory
        (run.outDir.child (run.config.pageFile d.name)).text
        (Page.ofDocument d run.config).body with
      | (.ok (), files) =>
          (.ok (run.withPage d), records.foldl World.report { (source w file).2 with files })
      | (.error fault, files) => (.error fault, { (source w file).2 with files }) := by
  obtain ⟨fields, hreport, rfl, name, hname, hsafe⟩ := documented?_eq_some_iff.mp h
  have hd : Document.ofReport (source w file).1 = .ok (.ofFields fields) :=
    Document.ofReport_eq_ok_iff.mpr ⟨fields, hreport, rfl⟩
  have hproper : Path.Proper (Page.ofDocument (.ofFields fields) run.config).filename :=
    run.config.proper_documentFile h
  obtain ⟨r, hpage⟩ := exec_writePage env run.outDir hproper (source w file).2
  refine ⟨[r, ?generated], ?exec⟩
  case exec =>
    unfold documentFile extract
    simp only [Action.exec_bind, Action.exec_get, Action.exec_set, hd, hname, Option.isNone_some,
      Bool.false_eq_true, if_false, Action.exec_pure, Option.getD_some]
    rw [if_pos hsafe, Action.exec_bind, hpage, Page.filename_ofDocument]
    rcases env.writeFile (source w file).2.files (source w file).2.directory
      (run.outDir.child (run.config.pageFile (Document.ofFields fields).name)).text
      (Page.ofDocument (.ofFields fields) run.config).body with ⟨fault | ⟨⟨⟩⟩, files⟩
    · rfl
    · simp only [Action.exec_bind, Action.exec_report, Action.exec_pure, withPage, Document.entry,
        Document.name, hname, Option.getD_some]
      rfl

end Run

end ComponentReference
