import ComponentReference.Proofs.Config.Layering
import ComponentReference.Proofs.Json.LongNumbers

/-!
# Configuration files that stop the loading

Of all that can be wrong with a configuration file, two things are not reported but stop the
loading: bytes that are no UTF-8, and a whole number with more digits than are read.  Any
other file, whatever is in it, leads to a configuration.

## Strategy

Loading stops only where reading the file does (`exec_load_error_iff`), for what it comes to
otherwise is reported at most.  Of a file that may be read, reading decodes and parses the
bytes, and `Spoiled` names what it can stop at then.  A number at which it does stands in the
text with all its digits (`Json.hasDigits_of_parse`).
-/

namespace ComponentReference

/-- What is known to be a file is read with its content, if it may be read. -/
theorem FileSystem.read_of_stat? {fs : FileSystem} {here : Location} {path : String}
    {bytes : Bytes} (hstat : fs.stat? here path = .ok (some (.file bytes))) :
    fs.read here path = .ok bytes ∨ ∃ fault, fs.read here path = .error fault := by
  rw [FileSystem.stat?, FileSystem.stat] at hstat
  rw [FileSystem.read]
  rcases hlocate : fs.locate here {} path with fault | ⟨place, _ | e⟩
  · exact .inr ⟨fault, rfl⟩
  · exact .inr ⟨_, rfl⟩
  · obtain rfl : e = .file bytes := by simpa [hlocate] using hstat
    dsimp only
    split
    · exact .inr ⟨_, rfl⟩
    · exact .inl rfl

theorem Text.ofBytes_error_iff {bytes : Bytes} {fault : Fault} :
    Text.ofBytes bytes = .error fault ↔
      ∃ reason, Utf8.decode bytes = .error reason ∧ .undecodable reason = fault := by
  unfold Text.ofBytes
  cases Utf8.decode bytes <;> simp

namespace Config

variable {fs : FileSystem} {here : Location} {path : String} {bytes : Bytes} {fault : Fault}

/-! ## What reading the file stops at -/

/-- What is wrong with the bytes of a file that stops the loading. -/
inductive Spoiled (bytes : Bytes) : Fault → Prop
  | undecodable (fault : Utf8.Fault) (hdecode : Utf8.decode bytes = .error fault) :
      Spoiled bytes (.undecodable fault)
  | longInteger (text : List Char) (digits : Nat) (htext : Text.ofBytes bytes = .ok text)
      (hparse : Json.parse text = .error (.longInteger digits)) :
      Spoiled bytes (.longInteger digits)

theorem Layer.ofText_error_iff {text : List Char} :
    Layer.ofText text = .error fault ↔
      ∃ digits, Json.parse text = .error (.longInteger digits) ∧ .longInteger digits = fault := by
  unfold Layer.ofText
  split
  · next hparse => simp [hparse]
  · next hparse => simp [hparse]
  · next digits hparse => simp [hparse]
  · next refusal hlong hparse =>
      have hnot : ∀ digits, refusal ≠ .longInteger digits := fun digits h => hlong digits h
      simp [hparse, hnot]

/-- The bytes are spoiled if they cannot be decoded, or if their text stops the reading. -/
theorem spoiled_iff : Spoiled bytes fault ↔
    Text.ofBytes bytes = .error fault ∨
      ∃ text, Text.ofBytes bytes = .ok text ∧ Layer.ofText text = .error fault := by
  rw [Text.ofBytes_error_iff]
  simp only [Layer.ofText_error_iff]
  constructor
  · intro h
    cases h with
    | undecodable reason hdecode => exact .inl ⟨reason, hdecode, rfl⟩
    | longInteger text digits htext hparse => exact .inr ⟨text, htext, digits, hparse, rfl⟩
  · rintro (⟨reason, hdecode, rfl⟩ | ⟨text, htext, digits, hparse, rfl⟩)
    · exact .undecodable reason hdecode
    · exact .longInteger text digits htext hparse

/-- A text in which no run of digits is too long is not spoiled. -/
theorem not_spoiled {text : List Char} (htext : Text.ofBytes bytes = .ok text)
    (hdigits : ∀ n, Json.maxDigits < n → ¬ Json.HasDigits n text) : ¬ Spoiled bytes fault := by
  intro h
  rcases spoiled_iff.mp h with hrefused | ⟨text', htext', hstops⟩
  · rw [htext] at hrefused
    cases hrefused
  · obtain rfl := Except.ok.inj (htext.symm.trans htext')
    obtain ⟨digits, hparse, -⟩ := Layer.ofText_error_iff.mp hstops
    obtain ⟨hlong, hhas⟩ := Json.hasDigits_of_parse hparse
    exact hdigits digits hlong hhas

/-- What can be read stops the loading if it is spoiled. -/
theorem Layer.read?_error_iff (hread : fs.read here path = .ok bytes) :
    Layer.read? fs here path = .error fault ↔ Spoiled bytes fault := by
  obtain ⟨e, hstat⟩ := FileSystem.stat?_of_read hread
  rw [spoiled_iff]
  simp only [Layer.read?, hstat, hread, bind, Except.bind]
  cases Text.ofBytes bytes with
  | error refusal => simp
  | ok text => cases hlayer : Layer.ofText text <;> simp [hlayer, pure, Except.pure]

/-! ## What loading stops at -/

variable {w : World} {root : Path} {overrides : Json.Fields}

/-- Loading stops where reading the file does. -/
theorem exec_load_error_iff : ((load root overrides).exec w).1 = .error fault ↔
    Layer.read? w.files w.directory (root ++ Path.ofString filename).text = .error fault := by
  rcases hread : Layer.read? w.files w.directory (root ++ Path.ofString filename).text
    with refusal | file
  · have hstops : (load root overrides).exec w = (.error refusal, w) := by
      unfold load
      rw [Action.exec_bind, Action.exec_look, hread]
    rw [hstops]
    simp
  · rw [exec_load hread]
    simp

/-- Whatever is in a configuration file, and whatever the overrides, a configuration is
loaded, unless the file can be read and its bytes are no UTF-8 or hold a whole number with
more digits than are read.  A configuration that is loaded is settled. -/
theorem exec_load_of_file {bytes : Bytes}
    (hfile : w.files.stat? w.directory (root ++ Path.ofString filename).text =
      .ok (some (.file bytes))) :
    (∀ fault, ((load root overrides).exec w).1 = .error fault ↔
      w.files.read w.directory (root ++ Path.ofString filename).text = .ok bytes ∧
        Spoiled bytes fault) ∧
    ((∀ fault, ¬ Spoiled bytes fault) →
      ∃ c, ((load root overrides).exec w).1 = .ok c ∧ c.IsSettled) ∧
    (∀ text, Text.ofBytes bytes = .ok text →
      (∀ n, Json.maxDigits < n → ¬ Json.HasDigits n text) → ∀ fault, ¬ Spoiled bytes fault) := by
  have hstops : ∀ fault, ((load root overrides).exec w).1 = .error fault ↔
      w.files.read w.directory (root ++ Path.ofString filename).text = .ok bytes ∧
        Spoiled bytes fault := by
    intro fault
    rw [exec_load_error_iff]
    rcases FileSystem.read_of_stat? hfile with hread | ⟨refusal, hread⟩
    · rw [Layer.read?_error_iff hread, hread]
      simp
    · rw [Layer.read?_of_unreadable hfile hread, hread]
      simp
  refine ⟨hstops, fun hsound => ?_, fun text htext hdigits fault => not_spoiled htext hdigits⟩
  rcases hread : Layer.read? w.files w.directory (root ++ Path.ofString filename).text
    with fault | file
  · exact absurd ((hstops fault).mp (exec_load_error_iff.mpr hread)).2 (hsound fault)
  · exact ⟨_, by rw [exec_load hread], isSettled_withFile file⟩

theorem text_filename : ((⟨.slash, ["w"]⟩ : Path) ++ Path.ofString filename).text =
    "/w/component.doc.json" := by
  decide +kernel

/-- A file that breaks off is no reason to stop. -/
theorem exec_load_of_file_broken :
    Sample.broken.files.stat? ["w"] "/w/component.doc.json" =
        .ok (some (Sample.file Sample.brokenText)) ∧
      ∃ c, ((load ⟨.slash, ["w"]⟩ [("outDir", .str "o")]).exec Sample.broken).1 = .ok c ∧
        c.IsSettled := by
  have hfile : Sample.broken.files.stat? ["w"] "/w/component.doc.json" =
      .ok (some (Sample.file Sample.brokenText)) := by rfl
  have htext : Text.ofBytes (Utf8.encode Sample.brokenText.toList) =
      .ok Sample.brokenText.toList := Text.ofBytes_encode (by decide)
  have hdigits : ∀ n, Json.maxDigits < n → ¬ Json.HasDigits n Sample.brokenText.toList := by
    rintro n hn ⟨digits, hinfix, rfl, -⟩
    have hlength : Sample.brokenText.toList.length = 11 := by decide
    have := hinfix.length_le
    have : Json.maxDigits = 4300 := rfl
    omega
  obtain ⟨-, hloads, hsound⟩ := @exec_load_of_file Sample.broken ⟨.slash, ["w"]⟩
    [("outDir", .str "o")] (Utf8.encode Sample.brokenText.toList) (text_filename ▸ hfile)
  exact ⟨hfile, hloads (hsound _ htext hdigits)⟩

end Config

/-- A project whose configuration file holds the bytes. -/
def Sample.withConfig (bytes : Bytes) : World :=
  world (directories ++ [(["w", Config.filename], .file bytes)]) []

/-- Nothing is loaded where the file is no UTF-8, or holds a number of 4301 digits. -/
theorem Config.exec_load_stops :
    ((load ⟨.slash, ["w"]⟩ []).exec (Sample.withConfig [0x22, 0xFF, 0x22])).1 =
        .error (.undecodable ⟨.startByte, 1, 1, 0xFF⟩) ∧
      ((load ⟨.slash, ["w"]⟩ []).exec
        (Sample.withConfig (Utf8.encode (List.replicate 4301 '9')))).1 =
          .error (.longInteger 4301) := by
  refine ⟨by rfl, exec_load_error_iff.mpr ?_⟩
  have hread : (Sample.withConfig (Utf8.encode (List.replicate 4301 '9'))).files.read ["w"]
      "/w/component.doc.json" = .ok (Utf8.encode (List.replicate 4301 '9')) := by rfl
  have htext : Text.ofBytes (Utf8.encode (List.replicate 4301 '9')) =
      .ok (List.replicate 4301 '9') :=
    Text.ofBytes_encode fun h => absurd (List.eq_of_mem_replicate h) (by decide)
  rw [text_filename]
  exact (Layer.read?_error_iff hread).mpr
    (.longInteger _ 4301 htext (Json.parse_replicate (by decide)))

end ComponentReference
