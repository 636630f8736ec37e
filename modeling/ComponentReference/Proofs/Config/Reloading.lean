import ComponentReference.Proofs.Config.Layering
import ComponentReference.Proofs.Json.RoundTrip
import ComponentReference.Proofs.Text.Utf8

/-!
# A configuration is loaded from its own text

A configuration that layers on the standard one have led to, and that has been validated,
is loaded again from a file that holds its JSON text.  There is nothing to report then.

## Strategy

The text is read back as the configuration's own JSON object: it has no carriage return,
its characters are read back from their bytes, and the object from its characters
(`ofText_toJson`).  As a layer the object replaces every setting, whatever is below it
(`merge_toJson`).  Only the program could be kept from below, if it had no name.  No layer
takes its name away, so this does not happen, and validating does nothing a second time.
-/

namespace ComponentReference.Config

/-! ## Configurations that do not change -/

section Settled

variable {c : Config} (hc : c.IsSettled)
include hc

theorem IsSettled.validate : c.validate = c := by
  obtain ⟨docType, docName, docDescription, componentsDir, outDir, customContent, node⟩ := c
  have hdoc := hc.docType
  simp only [List.mem_cons, List.not_mem_nil, or_false] at hdoc
  obtain rfl | rfl := hdoc <;> rfl

theorem IsSettled.validateRecords : c.validateRecords = [] := by
  have hdoc := hc.docType
  simp only [List.mem_cons, List.not_mem_nil, or_false] at hdoc
  unfold Config.validateRecords
  obtain hdoc | hdoc := hdoc <;> rw [hdoc] <;> rfl

/-- As a layer the settings replace all those below. -/
theorem IsSettled.merge_toJson (below : Config) : below.merge c.toJson.fields = c := by
  have hnode : nodeOr c.toJson.fields below.nodeExecutable = c.nodeExecutable := by
    show (if c.nodeExecutable.isEmpty then below.nodeExecutable else c.nodeExecutable) = _
    rw [if_neg fun hempty => hc.nodeExecutable (String.isEmpty_iff.mp hempty)]
  show (⟨c.docType, c.docName, c.docDescription, c.componentsDir, c.outDir, c.customContent,
    nodeOr c.toJson.fields below.nodeExecutable⟩ : Config) = c
  rw [hnode]

end Settled

theorem mergeRecords_toJson (c : Config) : mergeRecords c.toJson.fields = [] := rfl

/-! ## The text of a configuration -/

theorem plain_toJson (c : Config) : c.toJson.Plain := by
  have hfiles : (Json.obj [("md", .str c.customContent.md),
      ("html", .str c.customContent.html)]).Plain := by
    refine .obj (by simp) ?_
    simp [Json.Plain.str]
  refine .obj (by simp) ?_
  simp [Json.Plain.str, hfiles]

/-- The text of a configuration offers its layer. -/
theorem ofText_toJson (c : Config) :
    Layer.ofText c.toJson.print.toList = .ok (.given c.toJson.fields) := by
  rw [Layer.ofText, Json.parse_print c.plain_toJson]
  rfl

end ComponentReference.Config

namespace ComponentReference

variable {w : World} {root : Path} {overrides : Json.Fields}

namespace Config

/-- A file with the text of a configuration offers its layer. -/
theorem Layer.read?_toJson {fs : FileSystem} {here : Location} {path : String} (c : Config)
    (hfile : fs.read here path = .ok (Utf8.encode c.toJson.print.toList)) :
    Layer.read? fs here path = .ok (some (.given c.toJson.fields)) := by
  obtain ⟨e, hstat⟩ := FileSystem.stat?_of_read hfile
  unfold Layer.read?
  rw [hstat]
  simp only [bind, Except.bind]
  rw [hfile]
  dsimp only
  rw [Text.ofBytes_encode c.plain_toJson.return_not_mem_print]
  dsimp only
  rw [c.ofText_toJson]
  rfl

/-- What is loaded where the file offers a layer, and what is said on the way. -/
theorem exec_load_of_given {fields : Json.Fields}
    (hread : Layer.read? w.files w.directory (root ++ Path.ofString filename).text =
      .ok (some (.given fields))) :
    (load root overrides).exec w =
      (.ok ((standard.merge fields).merge overrides).validate,
        (mergeRecords fields ++ mergeRecords overrides ++
          ((standard.merge fields).merge overrides).validateRecords).foldl World.report w) :=
  exec_load hread

/-- A configuration that layers have led to is loaded again from its own text, with nothing
to report. -/
theorem exec_load_toJson (layers : List Json.Fields)
    (hfile : w.files.read w.directory (root ++ Path.ofString filename).text =
      .ok (Utf8.encode (layers.foldl merge standard).validate.toJson.print.toList)) :
    (load root []).exec w = (.ok (layers.foldl merge standard).validate, w) := by
  have hsettled := isSettled_layers layers
  generalize (layers.foldl merge standard).validate = c at hsettled hfile ⊢
  have hmerged : (standard.merge c.toJson.fields).merge [] = c := hsettled.merge_toJson standard
  rw [exec_load_of_given (Layer.read?_toJson c hfile), hmerged, hsettled.validate,
    hsettled.validateRecords, mergeRecords_toJson]
  rfl

end Config

namespace Sample

/-- Layers with another name for a format, a name for the documentation that is full of
characters to escape, and a file with custom content. -/
def layers : List Json.Fields :=
  [[("docType", .str "markdown"), ("docName", .str "\"C:\\\"\r\n\tÜ")],
    [("docDescription", .str ""), ("customContent", .obj [("html", .str "a.html")])]]

/-- A project whose configuration file holds the text of a configuration. -/
def configured (c : Config) : World :=
  world (directories ++ [(["w", Config.filename], file c.toJson.print)]) []

end Sample

theorem Config.exec_load_toJson_escapes :
    (Config.load ⟨.slash, ["w"]⟩ []).exec
        (Sample.configured (Sample.layers.foldl merge standard).validate) =
      (.ok (Sample.layers.foldl merge standard).validate,
        Sample.configured (Sample.layers.foldl merge standard).validate) :=
  Config.exec_load_toJson Sample.layers (by rfl)

end ComponentReference
