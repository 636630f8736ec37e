import ComponentReference.Config.Basic

/-!
# Where the settings of a configuration come from

A configuration has layers on it, applied one after the other.  Each setting comes from the
last layer that has something to offer for it, and from below all of them if there is none;
what counts as an offer is a matter of the setting.  Validating after each layer comes to the
same as validating at the end.

## Strategy

A setting is governed by its offers if a layer that has one replaces it, and a layer that has
none keeps it (`Governed`).  This is to be seen of each setting for one layer; that the last
offer stands after any number of them is one induction (`Governed.foldl_merge`).  Validation
before a layer cannot be told once one validates after it (`validate_merge_validate`): it
changes the format alone, which a layer either replaces or keeps, and a format that is kept
has its own name by then.
-/

namespace ComponentReference.Config

variable {α : Type}

/-! ## Offers -/

/-- The layer has a string under the key. -/
def HasString (key : String) (layer : Json.Fields) (s : String) : Prop :=
  layer.get? key = some (.str s)

/-- The layer has a format: the string under `docType`, or HTML for anything else that is
there. -/
inductive HasFormat (layer : Json.Fields) : String → Prop
  | named (s : String) (hstring : HasString "docType" layer s) : HasFormat layer s
  | fallback (value : Json) (hvalue : layer.get? "docType" = some value)
      (hstring : ∀ s, value ≠ .str s) : HasFormat layer "html"

/-- The layer has a program with a name. -/
def HasProgram (layer : Json.Fields) (s : String) : Prop :=
  HasString "nodeExecutable" layer s ∧ s ≠ ""

/-- The layer has an object with a string under the key for its custom content. -/
def HasCustomFile (key : String) (layer : Json.Fields) (s : String) : Prop :=
  ∃ files, layer.get? "customContent" = some (.obj files) ∧ HasString key files s

/-- The value is that of the last layer with an offer, or that from below if there is no
such layer. -/
inductive LastOffer (Offer : Json.Fields → α → Prop) (layers : List Json.Fields) (below : α) :
    α → Prop
  | offered (before : List Json.Fields) (layer : Json.Fields) (after : List Json.Fields)
      (value : α) (hlayers : layers = before ++ layer :: after) (hoffer : Offer layer value)
      (hafter : ∀ later ∈ after, ∀ other, ¬ Offer later other) :
      LastOffer Offer layers below value
  | below (hnone : ∀ layer ∈ layers, ∀ value, ¬ Offer layer value) :
      LastOffer Offer layers below below

/-! ## A setting under any number of layers -/

/-- A layer with an offer replaces the setting, and a layer without one keeps it. -/
structure Governed (Offer : Json.Fields → α → Prop) (setting : Config → α) : Prop where
  replaced (c : Config) (layer : Json.Fields) (value : α) (hoffer : Offer layer value) :
    setting (c.merge layer) = value
  kept (c : Config) (layer : Json.Fields) (hnone : ∀ value, ¬ Offer layer value) :
    setting (c.merge layer) = setting c

/-- Of a setting that is governed by its offers, the last one stands. -/
theorem Governed.foldl_merge {Offer : Json.Fields → α → Prop} {setting : Config → α}
    (h : Governed Offer setting) (c : Config) (layers : List Json.Fields) :
    LastOffer Offer layers (setting c) (setting (layers.foldl merge c)) := by
  induction layers generalizing c with
  | nil => exact .below (by simp)
  | cons layer rest ih =>
      rw [List.foldl_cons]
      generalize hvalue : setting (rest.foldl merge (c.merge layer)) = value
      cases hvalue ▸ ih (c.merge layer) with
      | offered before last after _ hrest hoffer hafter =>
          exact .offered (layer :: before) last after value (by rw [hrest]; rfl) hoffer hafter
      | below hnone =>
          by_cases hoffer : ∃ value, Offer layer value
          · obtain ⟨value, hoffer⟩ := hoffer
            rw [h.replaced c layer value hoffer]
            exact .offered [] layer rest value rfl hoffer hnone
          · have hlayer : ∀ value, ¬ Offer layer value := fun value hv => hoffer ⟨value, hv⟩
            rw [h.kept c layer hlayer]
            refine .below fun other hother => ?_
            rcases List.mem_cons.mp hother with rfl | hrest
            · exact hlayer
            · exact hnone other hrest

/-! ## What governs each setting -/

section Strings

variable {key s : String} {layer : Json.Fields}

theorem stringOr_of_hasString (h : HasString key layer s) (below : String) :
    stringOr layer key below = s := by
  rw [stringOr, Json.Fields.get, h]
  rfl

theorem stringOr_of_not_hasString (h : ∀ s, ¬ HasString key layer s) (below : String) :
    stringOr layer key below = below := by
  unfold HasString at h
  rw [stringOr, Json.Fields.get]
  cases hvalue : layer.get? key with
  | none => rfl
  | some value =>
      cases value with
      | str s => exact absurd hvalue (h s)
      | _ => rfl

/-- Only an object has a string under a key. -/
theorem hasString_fields {j : Json} (h : HasString key j.fields s) :
    ∃ files, j = .obj files ∧ HasString key files s := by
  cases j with
  | obj files => exact ⟨files, rfl, h⟩
  | _ => cases h

theorem get?_of_get {value : Json} (h : layer.get key = value) (hnull : value ≠ .null) :
    layer.get? key = some value := by
  rw [Json.Fields.get] at h
  cases hfound : layer.get? key with
  | none => exact absurd (by rw [← h, hfound]; rfl) hnull
  | some found => rw [← h, hfound]; rfl

/-- A setting that is the string under a key is governed by the strings there. -/
theorem governed_hasString (setting : Config → String)
    (hmerge : ∀ c layer, setting (merge c layer) = stringOr layer key (setting c)) :
    Governed (HasString key) setting where
  replaced c layer s h := by rw [hmerge, stringOr_of_hasString h]
  kept c layer h := by rw [hmerge, stringOr_of_not_hasString h]

/-- A setting that is the string under a key of the custom content is governed by the strings
there. -/
theorem governed_hasCustomFile (setting : Config → String)
    (hmerge : ∀ c layer,
      setting (merge c layer) = stringOr (layer.get "customContent").fields key (setting c)) :
    Governed (HasCustomFile key) setting where
  replaced c layer s h := by
    obtain ⟨files, hfiles, hstring⟩ := h
    rw [hmerge, Json.Fields.get, hfiles]
    exact stringOr_of_hasString hstring _
  kept c layer h := by
    rw [hmerge]
    refine stringOr_of_not_hasString (fun s hstring => ?_) _
    obtain ⟨files, hfiles, hstring⟩ := hasString_fields hstring
    exact h s ⟨files, get?_of_get hfiles (by simp), hstring⟩

end Strings

theorem governed_hasFormat : Governed HasFormat docType where
  replaced c layer s h := by
    show docTypeOr layer c.docType = s
    unfold docTypeOr
    cases h with
    | named _ hstring => rw [show layer.get? "docType" = some (.str s) from hstring]
    | fallback value hvalue hstring =>
        rw [hvalue]
        cases value with
        | str s => exact absurd rfl (hstring s)
        | _ => rfl
  kept c layer h := by
    show docTypeOr layer c.docType = c.docType
    unfold docTypeOr
    split
    · next s hstring => exact absurd (.named s hstring) (h s)
    · next value hstring hvalue =>
        exact absurd (.fallback value hvalue fun s hs => hstring s hs) (h "html")
    · rfl

theorem governed_hasProgram : Governed HasProgram nodeExecutable where
  replaced c layer s h := by
    obtain ⟨hstring, hname⟩ := h
    show nodeOr layer c.nodeExecutable = s
    rw [nodeOr, Json.Fields.get, hstring]
    exact if_neg fun hempty => hname (String.isEmpty_iff.mp hempty)
  kept c layer h := by
    show nodeOr layer c.nodeExecutable = c.nodeExecutable
    rw [nodeOr, Json.Fields.get]
    cases hvalue : layer.get? "nodeExecutable" with
    | none => rfl
    | some value =>
        cases value with
        | str s =>
            refine if_pos (String.isEmpty_iff.mpr ?_)
            exact Classical.byContradiction fun hname => h s ⟨hvalue, hname⟩
        | _ => rfl

/-! ## Validation between the layers -/

theorem format?_extension (f : Format) : format? f.extension = some f := by
  cases f <;> rfl

/-- A layer that keeps the format keeps what it validates to. -/
theorem format?_docTypeOr_validate (c : Config) (layer : Json.Fields) :
    (format? (docTypeOr layer c.validate.docType)).getD .html =
      (format? (docTypeOr layer c.docType)).getD .html := by
  unfold docTypeOr
  split
  · rfl
  · rfl
  · show (format? ((format? c.docType).getD .html).extension).getD .html = _
    rw [format?_extension, Option.getD_some]

/-- Validating before a layer makes no difference once one validates after it. -/
theorem validate_merge_validate (c : Config) (layer : Json.Fields) :
    (c.validate.merge layer).validate = (c.merge layer).validate :=
  congrArg (fun format : Format => { c.merge layer with docType := format.extension })
    (format?_docTypeOr_validate c layer)

theorem foldl_validate (c : Config) (layers : List Json.Fields) :
    layers.foldl (fun c layer => (c.merge layer).validate) c.validate =
      (layers.foldl merge c).validate := by
  induction layers generalizing c with
  | nil => rfl
  | cons layer rest ih => rw [List.foldl_cons, validate_merge_validate, ih, List.foldl_cons]

/-! ## The settings under their layers -/

/-- Every setting is the last one that the layers offer for it, or else that from below.
Validating after each layer leads to what validating at the end leads to, if there is a
layer; with none it leaves what is below as it is. -/
theorem foldl_merge_lastOffer (c : Config) (layers : List Json.Fields) :
    let merged := layers.foldl merge c
    LastOffer (HasString "docName") layers c.docName merged.docName ∧
    LastOffer (HasString "docDescription") layers c.docDescription merged.docDescription ∧
    LastOffer (HasString "componentsDir") layers c.componentsDir merged.componentsDir ∧
    LastOffer (HasString "outDir") layers c.outDir merged.outDir ∧
    LastOffer HasFormat layers c.docType merged.docType ∧
    LastOffer HasProgram layers c.nodeExecutable merged.nodeExecutable ∧
    LastOffer (HasCustomFile "md") layers c.customContent.md merged.customContent.md ∧
    LastOffer (HasCustomFile "html") layers c.customContent.html merged.customContent.html ∧
    (layers.foldl (fun c layer => (c.merge layer).validate) c = merged.validate ↔
      layers ≠ [] ∨ c = c.validate) := by
  intro merged
  have hmd := governed_hasCustomFile (fun c => c.customContent.md) fun _ _ => rfl
  have hhtml := governed_hasCustomFile (fun c => c.customContent.html) fun _ _ => rfl
  refine ⟨(governed_hasString docName fun _ _ => rfl).foldl_merge c layers,
    (governed_hasString docDescription fun _ _ => rfl).foldl_merge c layers,
    (governed_hasString componentsDir fun _ _ => rfl).foldl_merge c layers,
    (governed_hasString outDir fun _ _ => rfl).foldl_merge c layers,
    governed_hasFormat.foldl_merge c layers, governed_hasProgram.foldl_merge c layers,
    hmd.foldl_merge c layers, hhtml.foldl_merge c layers, ?_⟩
  cases layers with
  | nil => simp [merged]
  | cons layer rest =>
      have hsame := foldl_validate (c.merge layer) rest
      simpa [merged] using hsame

/-- With no layer there is nothing to validate after, and an alias stays. -/
theorem foldl_validate_nil :
    ([] : List Json.Fields).foldl (fun c layer => (c.merge layer).validate)
        { docType := "markdown" } ≠
      (([] : List Json.Fields).foldl merge { docType := "markdown" }).validate := by
  decide

end ComponentReference.Config
