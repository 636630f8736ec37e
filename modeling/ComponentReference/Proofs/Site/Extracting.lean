import ComponentReference.Proofs.Site.Documents
import ComponentReference.Proofs.Text.Utf8
import ComponentReference.Site.Parser

/-!
# What an extraction comes to

The parser may not start at all, or end with any status and leave any bytes in its two streams.
Whatever becomes of it, an extraction does not stop at a fault.  It comes to a document exactly
if the parser has ended well with both streams in UTF-8, and its output is the JSON text of an
object with a display name.  Nothing is said then, and otherwise there is one record: a warning
where only the name is missing, an error in all other cases.

## Strategy

Two stages turn what they are given into a fault or pass it on.  `Json.ofEnding_ok_iff` says
when the first of them comes to a report, and then it is the report of an object, which the
second never refuses.  What an extraction does with the outcome is one equation
(`exec_extract`), so that three cases are left.
-/

namespace ComponentReference

/-! ## Good reports -/

/-- The value is one that a component can be called by. -/
def Json.IsName : Json → Prop
  | .str s => s ≠ ""
  | .int _ | .double _ | .bool _ => True
  | .null | .arr _ | .obj _ => False

theorem Json.isSome_text?_iff (j : Json) : j.text?.isSome ↔ j.IsName := by
  cases j with
  | str s =>
      by_cases hs : s = ""
      · simp [text?, IsName, hs]
      · simp [text?, IsName, hs]
  | _ => simp [text?, IsName]

/-- The parser has ended well, with both of its streams in UTF-8, and its output is the text of
the object with these fields once its line breaks are unified. -/
structure Ending.Reports (ending : Ending) (fields : Json.Fields) : Prop where
  status : ending.status = 0
  errors : ∃ s, ending.errors = Utf8.encode s
  output : ∃ s, ending.output = Utf8.encode s ∧
    Json.parse (Text.unifyBreaks s) = .ok (.obj fields)

/-- The parser has run and reports the fields. -/
def Reported (outcome : Except Fault Ending) (fields : Json.Fields) : Prop :=
  ∃ ending, outcome = .ok ending ∧ ending.Reports fields

/-! ## The first stage -/

variable {program : String} {outcome : Except Fault Ending} {path : Path} {w : World}

/-- What becomes of the parser comes to a report exactly if it has run and reports something. -/
theorem Json.ofEnding_ok_iff {j : Json} : Json.ofEnding program outcome = .ok j ↔
    ∃ fields, Reported outcome fields ∧ j = .obj fields := by
  constructor
  · intro h
    unfold Json.ofEnding at h
    split at h
    · cases h
    · cases h
    · next ending =>
        obtain ⟨_, hread, h⟩ := exists_ok_of_bind h
        obtain ⟨_, hreadErrors, h⟩ := exists_ok_of_bind h
        obtain ⟨output, houtput, rfl⟩ := Text.ofBytes_eq_ok_iff.mp hread
        obtain ⟨errors, herrors, rfl⟩ := Text.ofBytes_eq_ok_iff.mp hreadErrors
        split at h
        · split at h <;> cases h
        · next hstatus =>
            split at h
            · next fields hparse =>
                refine ⟨fields, ⟨ending, rfl, ?_, ⟨errors, herrors⟩, output, houtput, hparse⟩,
                  (Except.ok.inj h).symm⟩
                exact not_not.mp hstatus
            all_goals cases h
  · rintro ⟨fields, ⟨ending, rfl, hstatus, ⟨errors, herrors⟩, output, houtput, hparse⟩, rfl⟩
    have hread := Text.ofBytes_eq_ok_iff.mpr ⟨output, houtput, rfl⟩
    have hreadErrors := Text.ofBytes_eq_ok_iff.mpr ⟨errors, herrors, rfl⟩
    simp only [Json.ofEnding, bind, Except.bind, hread, hreadErrors, hparse, hstatus]
    rfl

/-- There is no other object that is reported. -/
theorem Reported.unique {fields fields' : Json.Fields} (h : Reported outcome fields)
    (h' : Reported outcome fields') : fields = fields' := by
  have hcomes := (@Json.ofEnding_ok_iff "" outcome _).mpr ⟨fields, h, rfl⟩
  have hcomes' := (@Json.ofEnding_ok_iff "" outcome _).mpr ⟨fields', h', rfl⟩
  exact Json.obj.inj (Except.ok.inj (hcomes.symm.trans hcomes'))

/-! ## The whole extraction -/

/-- What is said of a file whose component has no display name. -/
def namelessRecord (path : Path) : Record :=
  ⟨.warning, .extraction, "Skipping component without a display name: " ++ path.text⟩

/-- What is said of a file on which there is no report. -/
def failureRecord (path : Path) (fault : Fault) : Record :=
  ⟨.error, .extraction, "Failed to parse component " ++ path.text ++ ": " ++ fault.message⟩

/-- What an extraction comes to, whatever the report. -/
theorem exec_extract (source : ReportSource) (path : Path) (w : World) :
    (extract source path).exec w =
      match Document.ofReport (source w path).1 with
      | .error fault => (.ok none, (source w path).2.report (failureRecord path fault))
      | .ok d =>
        if d.displayName.isNone then (.ok none, (source w path).2.report (namelessRecord path))
        else (.ok (some d), (source w path).2) := by
  unfold extract
  simp only [Action.exec_bind, Action.exec_get, Action.exec_set]
  cases Document.ofReport (source w path).1 with
  | error fault => rfl
  | ok d =>
      dsimp only
      split <;> rfl

theorem isNone_displayName_iff (fields : Json.Fields) :
    (Document.ofFields fields).displayName.isNone ↔ ¬ (fields.get "displayName").IsName := by
  have hdisplay : (Document.ofFields fields).displayName = (fields.get "displayName").text? := rfl
  rw [hdisplay, ← Json.isSome_text?_iff]
  simp

/-- An extraction by the parser does not stop at a fault, whatever becomes of the parser.  It
comes to a document exactly if the parser reports an object with a display name, and the
document is the one that the object describes.  Then nothing is said; otherwise there is one
record, a warning where only the name is missing, and an error in every other case. -/
theorem extract_parserReports (call : Caller) (program : String) (directory : Option String)
    (path : Path) (w : World) :
    let called := call w ⟨program, ["-e", parserScript, path.text], directory⟩
    ∃ d? records, (extract (parserReports call program directory) path).exec w =
        (.ok d?, records.foldl World.report called.2) ∧
      (∀ d, d? = some d ↔ ∃ fields, Reported called.1 fields ∧
        (fields.get "displayName").IsName ∧ Document.ofJson (.obj fields) = .ok d) ∧
      (d?.isSome → records = []) ∧
      (∀ fields, Reported called.1 fields → ¬ (fields.get "displayName").IsName →
        records = [namelessRecord path]) ∧
      ((∀ fields, ¬ Reported called.1 fields) → ∃ fault,
        Json.ofEnding program called.1 = .error fault ∧ records = [failureRecord path fault]) := by
  intro called
  have hsource : parserReports call program directory w path =
      (Json.ofEnding program called.1, called.2) := rfl
  rw [exec_extract, hsource]
  dsimp only
  cases hreport : Json.ofEnding program called.1 with
  | error fault =>
      have hnone : ∀ fields, ¬ Reported called.1 fields := by
        intro fields hreported
        rw [Json.ofEnding_ok_iff.mpr ⟨fields, hreported, rfl⟩] at hreport
        cases hreport
      refine ⟨none, [failureRecord path fault], rfl, ?_, by simp, ?_, fun _ => ⟨fault, rfl, rfl⟩⟩
      · simp [hnone]
      · exact fun fields hreported => absurd hreported (hnone fields)
  | ok j =>
      obtain ⟨fields, hreported, rfl⟩ := Json.ofEnding_ok_iff.mp hreport
      have hdocument : Document.ofReport (.ok (.obj fields)) = .ok (.ofFields fields) := rfl
      rw [hdocument]
      dsimp only
      by_cases hname : (fields.get "displayName").IsName
      · rw [if_neg fun hnone => (isNone_displayName_iff fields).mp hnone hname]
        refine ⟨some (.ofFields fields), [], rfl, fun d => ⟨?_, ?_⟩, fun _ => rfl, ?_,
          fun hnone => absurd hreported (hnone fields)⟩
        · intro hd
          exact ⟨fields, hreported, hname, congrArg Except.ok (Option.some.inj hd)⟩
        · rintro ⟨fields', hreported', -, hd⟩
          obtain rfl := hreported.unique hreported'
          exact congrArg some (Except.ok.inj hd)
        · intro fields' hreported' hnameless
          exact absurd (hreported.unique hreported' ▸ hname) hnameless
      · rw [if_pos ((isNone_displayName_iff fields).mpr hname)]
        refine ⟨none, [namelessRecord path], rfl, fun d => ⟨fun hd => (by cases hd), ?_⟩, by simp,
          fun _ _ _ => rfl, fun hnone => absurd hreported (hnone fields)⟩
        rintro ⟨fields', hreported', hname', -⟩
        exact absurd (hreported.unique hreported' ▸ hname') hname

end ComponentReference
