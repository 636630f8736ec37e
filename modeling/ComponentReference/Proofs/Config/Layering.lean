import ComponentReference.Config.Load
import ComponentReference.Proofs.Actions
import ComponentReference.Proofs.Site.Sample
import ComponentReference.Proofs.Text.Utf8

/-!
# The layers of a configuration

What is loaded for a project is the standard configuration, under the object in the project's
file, under the overrides, and validated at the end.  A file that has no object to offer does
as if it were absent, but for one error that is reported.

## Strategy

Reading the file comes to nothing, to a layer or to a rejection, and loading goes on from
there whatever it is: `exec_load` says once what is loaded and what is reported.  It remains
to tell the three apart by what is at the path (`Layer.read?_of_admissible`), and to see that
of all records only that of a rejection is an error.
-/

namespace ComponentReference.Config

/-! ## What validation and the layers ensure -/

/-- The format has its own name, and the program has a name. -/
structure IsSettled (c : Config) : Prop where
  docType : c.docType ∈ ["html", "md"]
  nodeExecutable : c.nodeExecutable ≠ ""

/-- A layer does not leave the program without a name. -/
theorem nodeExecutable_merge {c : Config} (hnode : c.nodeExecutable ≠ "") (layer : Json.Fields) :
    (c.merge layer).nodeExecutable ≠ "" := by
  show nodeOr layer c.nodeExecutable ≠ ""
  unfold nodeOr
  split
  · split
    · exact hnode
    · next s hempty =>
        rintro rfl
        exact hempty rfl
  · exact hnode

theorem nodeExecutable_foldl_merge {c : Config} (hnode : c.nodeExecutable ≠ "")
    (layers : List Json.Fields) : (layers.foldl merge c).nodeExecutable ≠ "" := by
  induction layers generalizing c with
  | nil => exact hnode
  | cons layer rest ih => exact ih (nodeExecutable_merge hnode layer)

theorem isSettled_validate {c : Config} (hnode : c.nodeExecutable ≠ "") :
    c.validate.IsSettled := by
  refine ⟨?_, hnode⟩
  show ((format? c.docType).getD .html).extension ∈ ["html", "md"]
  cases (format? c.docType).getD .html <;> decide

/-- What layers on the standard configuration lead to is settled once it is validated. -/
theorem isSettled_layers (layers : List Json.Fields) :
    (layers.foldl merge standard).validate.IsSettled :=
  isSettled_validate (nodeExecutable_foldl_merge (by decide) layers)

/-! ## Loading, whatever the file comes to -/

/-- The configuration under the layer of a file. -/
def withFile (c : Config) : Option Layer → Config
  | some (.given fields) => c.merge fields
  | some (.rejected _) | none => c

/-- What is reported of a file. -/
def Layer.records : Option Layer → List Record
  | some (.given fields) => mergeRecords fields
  | some (.rejected reason) =>
    [⟨.error, .config, "Failed to load configuration file: " ++ reason⟩]
  | none => []

theorem exec_applyFile (c : Config) (file : Option Layer) (w : World) :
    (applyFile c file).exec w =
      (.ok (c.withFile file), (Layer.records file).foldl World.report w) := by
  rcases file with _ | (fields | reason)
  · rfl
  · rw [applyFile, Action.exec_bind_of_ok (Action.exec_reportAll _ _)]
    rfl
  · rfl

variable {w : World} {root : Path} {overrides : Json.Fields}

/-- What is loaded, and what is said on the way. -/
theorem exec_load {file : Option Layer}
    (hread : Layer.read? w.files w.directory (root ++ Path.ofString filename).text = .ok file) :
    (load root overrides).exec w =
      (.ok ((standard.withFile file).merge overrides).validate,
        (Layer.records file ++ mergeRecords overrides ++
          ((standard.withFile file).merge overrides).validateRecords).foldl World.report w) := by
  unfold load
  simp only [Action.exec_bind, Action.exec_look, hread, exec_applyFile, Action.exec_reportAll,
    Action.exec_pure, List.foldl_append]

theorem isSettled_withFile (file : Option Layer) :
    ((standard.withFile file).merge overrides).validate.IsSettled := by
  rcases file with _ | (fields | reason)
  · exact isSettled_layers [overrides]
  · exact isSettled_layers [fields, overrides]
  · exact isSettled_layers [overrides]

/-! ## Errors among the records -/

/-- How many of the records are errors. -/
def errorCount (records : List Record) : Nat :=
  records.countP (·.level = .error)

theorem errorCount_mergeRecords (layer : Json.Fields) : errorCount (mergeRecords layer) = 0 := by
  unfold mergeRecords
  split <;> rfl

theorem errorCount_validateRecords (c : Config) : errorCount c.validateRecords = 0 := by
  unfold validateRecords
  split <;> rfl

/-- What is reported apart from the file is no error. -/
theorem errorCount_load (file : Option Layer) (layer : Json.Fields) (c : Config) :
    errorCount (Layer.records file ++ mergeRecords layer ++ c.validateRecords) =
      errorCount (Layer.records file) := by
  have hmerge := errorCount_mergeRecords layer
  have hvalidate := errorCount_validateRecords c
  unfold errorCount at *
  rw [List.countP_append, List.countP_append, hmerge, hvalidate]
  rfl

end ComponentReference.Config

namespace ComponentReference

/-- What can be read is there. -/
theorem FileSystem.stat?_of_read {fs : FileSystem} {here : Location} {path : String}
    {bytes : Bytes} (h : fs.read here path = .ok bytes) :
    ∃ e, fs.stat? here path = .ok (some e) := by
  rw [FileSystem.read] at h
  rw [FileSystem.stat?, FileSystem.stat]
  split at h
  · cases h
  · cases h
  · next e hlocate =>
      rw [hlocate]
      exact ⟨e, rfl⟩

namespace Config

/-! ## What may be at the path -/

/-- The file at the path offers the fields: they are those of the object that its text is. -/
def Offers (fs : FileSystem) (here : Location) (path : String) (fields : Json.Fields) : Prop :=
  ∃ bytes text, fs.read here path = .ok bytes ∧ Text.ofBytes bytes = .ok text ∧
    Json.parse text = .ok (.obj fields)

/-- There is something at the path, but no object that it could offer. -/
def Rejected (fs : FileSystem) (here : Location) (path : String) : Prop :=
  (∃ e, fs.stat? here path = .ok (some e)) ∧ ∀ fields, ¬ Offers fs here path fields

/-- At the path there is nothing, or something that cannot be read, or a text in UTF-8 in
which no whole number has too many digits to be read. -/
inductive Admissible (fs : FileSystem) (here : Location) (path : String) : Prop
  | absent (hstat : fs.stat? here path = .ok none)
  | unreadable (e : Entry) (fault : Fault) (hstat : fs.stat? here path = .ok (some e))
      (hread : fs.read here path = .error fault)
  | text (bytes : Bytes) (text : List Char) (hread : fs.read here path = .ok bytes)
      (htext : Text.ofBytes bytes = .ok text)
      (hnumbers : ∀ digits, Json.parse text ≠ .error (.longInteger digits))

variable {fs : FileSystem} {here : Location} {path : String} {fields : Json.Fields}

theorem Offers.unique {fields' : Json.Fields} (h : Offers fs here path fields)
    (h' : Offers fs here path fields') : fields = fields' := by
  obtain ⟨bytes, text, hread, htext, hparse⟩ := h
  obtain ⟨bytes', text', hread', htext', hparse'⟩ := h'
  obtain rfl := Except.ok.inj (hread.symm.trans hread')
  obtain rfl := Except.ok.inj (htext.symm.trans htext')
  exact Json.obj.inj (Except.ok.inj (hparse.symm.trans hparse'))

theorem not_offers_of_absent (hstat : fs.stat? here path = .ok none) :
    ¬ Offers fs here path fields := by
  rintro ⟨bytes, text, hread, -⟩
  obtain ⟨e, he⟩ := FileSystem.stat?_of_read hread
  rw [hstat] at he
  cases he

theorem Layer.read?_of_text {bytes : Bytes} {text : List Char}
    (hread : fs.read here path = .ok bytes) (htext : Text.ofBytes bytes = .ok text) :
    Layer.read? fs here path = (Layer.ofText text).map some := by
  obtain ⟨e, hstat⟩ := FileSystem.stat?_of_read hread
  unfold Layer.read?
  simp only [hstat, hread, htext, bind, Except.bind]
  cases Layer.ofText text <;> rfl

/-- What cannot be read is reported, and does not stop the loading. -/
theorem Layer.read?_of_unreadable {e : Entry} {refusal : Fault}
    (hstat : fs.stat? here path = .ok (some e)) (hread : fs.read here path = .error refusal) :
    Layer.read? fs here path =
      .ok (some (.rejected ("Unable to read " ++ filename ++ ": " ++ refusal.message))) := by
  simp only [Layer.read?, hstat, hread, bind, Except.bind]
  rfl

theorem Layer.ofText_of_not_object {text : List Char}
    (hnumbers : ∀ digits, Json.parse text ≠ .error (.longInteger digits))
    (hobject : ∀ fields, Json.parse text ≠ .ok (.obj fields)) :
    ∃ reason, Layer.ofText text = .ok (.rejected reason) := by
  unfold Layer.ofText
  split
  · next hparse => exact absurd hparse (hobject _)
  · exact ⟨_, rfl⟩
  · next hparse => exact absurd hparse (hnumbers _)
  · exact ⟨_, rfl⟩

/-- What reading the file comes to: nothing, the layer that it offers, or its rejection. -/
inductive Layer.Read (fs : FileSystem) (here : Location) (path : String) : Option Layer → Prop
  | absent (hstat : fs.stat? here path = .ok none) : Read fs here path none
  | given (fields : Json.Fields) (hoffers : Offers fs here path fields) :
      Read fs here path (some (.given fields))
  | rejected (reason : String) (hrejected : Rejected fs here path) :
      Read fs here path (some (.rejected reason))

theorem Layer.read?_of_admissible (h : Admissible fs here path) :
    ∃ file, Layer.read? fs here path = .ok file ∧ Layer.Read fs here path file := by
  cases h with
  | absent hstat =>
      refine ⟨none, ?_, .absent hstat⟩
      unfold Layer.read?
      rw [hstat]
      rfl
  | unreadable e fault hstat hread =>
      refine ⟨_, Layer.read?_of_unreadable hstat hread, .rejected _ ⟨⟨e, hstat⟩, ?_⟩⟩
      rintro fields ⟨bytes, text, hbytes, -⟩
      rw [hread] at hbytes
      cases hbytes
  | text bytes text hread htext hnumbers =>
      have hlayer := Layer.read?_of_text hread htext
      by_cases hobject : ∃ fields, Json.parse text = .ok (.obj fields)
      · obtain ⟨fields, hparse⟩ := hobject
        refine ⟨some (.given fields), ?_, .given fields ⟨bytes, text, hread, htext, hparse⟩⟩
        rw [hlayer, Layer.ofText, hparse]
        rfl
      · obtain ⟨reason, hreason⟩ :=
          Layer.ofText_of_not_object hnumbers fun fields hparse => hobject ⟨fields, hparse⟩
        refine ⟨some (.rejected reason), by rw [hlayer, hreason]; rfl,
          .rejected reason ⟨FileSystem.stat?_of_read hread, ?_⟩⟩
        rintro fields ⟨bytes', text', hread', htext', hparse⟩
        obtain rfl := Except.ok.inj (hread.symm.trans hread')
        obtain rfl := Except.ok.inj (htext.symm.trans htext')
        exact hobject ⟨fields, hparse⟩

section Read

variable {file : Option Layer} (h : Layer.Read fs here path file)
include h

theorem Layer.Read.withFile_of_offers (hoffers : Offers fs here path fields) (c : Config) :
    c.withFile file = c.merge fields := by
  cases h with
  | absent hstat => exact absurd hoffers (not_offers_of_absent hstat)
  | given fields' hoffers' => rw [hoffers.unique hoffers', withFile]
  | rejected reason hrejected => exact absurd hoffers (hrejected.2 fields)

theorem Layer.Read.withFile_of_not_offers (hnone : ∀ fields, ¬ Offers fs here path fields)
    (c : Config) : c.withFile file = c := by
  cases h with
  | absent hstat => rfl
  | given fields hoffers => exact absurd hoffers (hnone fields)
  | rejected reason hrejected => rfl

theorem Layer.Read.errorCount_of_rejected (hrejected : Rejected fs here path) :
    errorCount (Layer.records file) = 1 := by
  cases h with
  | absent hstat =>
      obtain ⟨⟨e, he⟩, -⟩ := hrejected
      rw [hstat] at he
      cases he
  | given fields hoffers => exact absurd hoffers (hrejected.2 fields)
  | rejected reason _ => rfl

theorem Layer.Read.errorCount_of_not_rejected (hnot : ¬ Rejected fs here path) :
    errorCount (Layer.records file) = 0 := by
  cases h with
  | absent hstat => rfl
  | given fields hoffers => exact errorCount_mergeRecords fields
  | rejected reason hrejected => exact absurd hrejected hnot

end Read

/-! ## What is loaded -/

/-- The configuration that is loaded has the layers of the file and of the overrides on the
standard one, and is validated.  A file that offers no layer does as if it were absent; it
is reported by one error, and there is no other error.  What is loaded has a format by its
own name, and a program with a name. -/
theorem exec_load_layers
    (hfile : Admissible w.files w.directory (root ++ Path.ofString filename).text) :
    let path := (root ++ Path.ofString filename).text
    ∃ c w' new, (load root overrides).exec w = (.ok c, w') ∧ w'.records = w.records ++ new ∧
      (∀ fields, Offers w.files w.directory path fields →
        c = ((standard.merge fields).merge overrides).validate) ∧
      ((∀ fields, ¬ Offers w.files w.directory path fields) →
        ∀ v : World, v.files.stat? v.directory path = .ok none →
          ((load root overrides).exec v).1 = .ok c) ∧
      (Rejected w.files w.directory path → errorCount new = 1) ∧
      (¬ Rejected w.files w.directory path → errorCount new = 0) ∧
      c.docType ∈ ["html", "md"] ∧ c.nodeExecutable ≠ "" := by
  intro path
  obtain ⟨file, hread, hcomes⟩ := Layer.read?_of_admissible hfile
  have hsettled := @isSettled_withFile overrides file
  refine ⟨_, _, _, exec_load hread, World.records_foldl_report _ _, ?_, ?_, ?_, ?_,
    hsettled.docType, hsettled.nodeExecutable⟩
  · intro fields hoffers
    rw [hcomes.withFile_of_offers hoffers]
  · intro hnone v hstat
    obtain ⟨file', hread', hcomes'⟩ := Layer.read?_of_admissible (.absent hstat)
    rw [exec_load hread', hcomes.withFile_of_not_offers hnone,
      hcomes'.withFile_of_not_offers fun fields => not_offers_of_absent hstat]
  · intro hrejected
    rw [errorCount_load, hcomes.errorCount_of_rejected hrejected]
  · intro hnot
    rw [errorCount_load, hcomes.errorCount_of_not_rejected hnot]

end Config

/-! ## A broken file -/

/-- The text of a configuration file that breaks off before its end. -/
def Sample.brokenText : String := "\x7b\"docType\":"

/-- A project with this file. -/
def Sample.broken : World :=
  Sample.world (Sample.directories ++ [(["w", Config.filename], Sample.file Sample.brokenText)]) []

/-- The overrides are applied as if there were no file, and one error is reported. -/
theorem Config.exec_load_layers_broken :
    ∃ c w', (load ⟨.slash, ["w"]⟩ [("outDir", .str "o")]).exec Sample.broken = (.ok c, w') ∧
      errorCount w'.records = 1 ∧
      ((load ⟨.slash, ["w"]⟩ [("outDir", .str "o")]).exec (Sample.world Sample.directories [])).1 =
        .ok c := by
  have hread : Sample.broken.files.read ["w"] "/w/component.doc.json" =
      .ok (Utf8.encode Sample.brokenText.toList) := by rfl
  have htext : Text.ofBytes (Utf8.encode Sample.brokenText.toList) =
      .ok Sample.brokenText.toList := Text.ofBytes_encode (by decide)
  have hparse : Json.parse Sample.brokenText.toList = .error (.malformed .value 1 12 11) := by rfl
  have hnone : ∀ fields, ¬ Offers Sample.broken.files ["w"] "/w/component.doc.json" fields := by
    rintro fields ⟨bytes, text, hbytes, htext', hobject⟩
    obtain rfl := Except.ok.inj (hread.symm.trans hbytes)
    obtain rfl := Except.ok.inj (htext.symm.trans htext')
    rw [hparse] at hobject
    cases hobject
  have hadmissible : Admissible Sample.broken.files ["w"] "/w/component.doc.json" :=
    .text _ _ hread htext fun digits hlong => by
      rw [hparse] at hlong
      cases hlong
  have hpath : ((⟨.slash, ["w"]⟩ : Path) ++ Path.ofString filename).text =
      "/w/component.doc.json" := by decide +kernel
  obtain ⟨c, w', new, hexec, hrecords, -, habsent, herror, -, -, -⟩ :=
    @exec_load_layers ⟨.slash, ["w"]⟩ [("outDir", .str "o")] Sample.broken (hpath ▸ hadmissible)
  rw [hpath] at habsent herror
  refine ⟨c, w', hexec, ?_, habsent hnone (Sample.world Sample.directories []) (by rfl)⟩
  rw [hrecords]
  exact herror ⟨FileSystem.stat?_of_read hread, hnone⟩

end ComponentReference
