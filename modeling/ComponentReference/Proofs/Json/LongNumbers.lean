import ComponentReference.Json.Reader

/-!
# Whole numbers that are too long

A text is refused because of a whole number only if it has that many digits in a row: where
no more digits stand in a row than are read, whatever else is wrong with the text is placed.

## Strategy

Each reading function leaves an end of the text that it is given, and whatever number it
refuses stands in that text (`Reading.Within`).  Since an end of an end is an end, the
functions that read the parts of a value pass this on; for the values themselves it is an
induction on the steps.
-/

namespace ComponentReference.Json

/-- There are `n` digits in a row in the text. -/
def HasDigits (n : Nat) (text : List Char) : Prop :=
  ∃ digits, digits <:+: text ∧ digits.length = n ∧ ∀ c ∈ digits, c.isDigit

theorem HasDigits.mono {n : Nat} {text text' : List Char} (h : HasDigits n text)
    (hend : text <:+ text') : HasDigits n text' := by
  obtain ⟨digits, hinfix, hlength, hdigits⟩ := h
  exact ⟨digits, hinfix.trans hend.isInfix, hlength, hdigits⟩

/-- What is left is an end of the text, and a number that is refused is one of the text. -/
def Reading.Within {α : Type} (text : List Char) : Reading α → Prop
  | .ok (_, rest) => rest <:+ text
  | .error (.longInteger n) => maxDigits < n ∧ HasDigits n text
  | .error (.here _ _) => True

section Within

variable {α β : Type} {text text' : List Char} {r : Reading α}

theorem Reading.Within.mono (h : r.Within text) (hend : text <:+ text') : r.Within text' := by
  rcases r with (_ | n) | ⟨_, rest⟩
  · trivial
  · exact ⟨h.1, h.2.mono hend⟩
  · exact List.IsSuffix.trans h hend

theorem Reading.Within.map (h : r.Within text) (f : α → β) :
    Reading.Within text (r.map fun (a, rest) => (f a, rest)) := by
  rcases r with (_ | n) | ⟨_, rest⟩ <;> exact h

/-- A stop on the way is one of the whole. -/
theorem Reading.Within.stop {s : Stop} (h : Within text (.error s : Reading α)) :
    Within text (.error s : Reading β) := by
  cases s <;> exact h

end Within

/-! ## The parts of values -/

theorem skipGap_suffix (text : List Char) : skipGap text <:+ text :=
  List.dropWhile_suffix _

theorem fraction_suffix (text : List Char) : (fraction text).2 <:+ text := by
  unfold fraction
  split
  · next rest =>
      split
      · exact List.suffix_rfl
      · exact (List.dropWhile_suffix _).trans (List.suffix_cons _ _)
  · exact List.suffix_rfl

theorem exponent?_suffix {text rest : List Char} {e : Int}
    (h : exponent? text = some (e, rest)) : rest <:+ text := by
  unfold exponent? at h
  split at h
  · next mark behind =>
      split at h
      · split at h
        -- the text behind the mark, and behind the sign if there is one
        next negative digits hsign =>
        have hbehind : digits <:+ behind := by
          split at hsign <;> obtain ⟨-, rfl⟩ := Prod.mk.inj hsign
          · exact List.suffix_cons _ _
          · exact List.suffix_cons _ _
          · exact List.suffix_rfl
        split at h
        · cases h
        · obtain ⟨-, rfl⟩ := Prod.mk.inj (Option.some.inj h)
          exact (List.dropWhile_suffix _).trans (hbehind.trans (List.suffix_cons _ _))
      · cases h
  · cases h

theorem within_number {start text : List Char} (negative : Bool) :
    (number start negative text).Within text := by
  unfold number
  extract_lets whole
  have hwhole : whole <+: text ∧ ∀ c ∈ whole, c.isDigit := by
    unfold whole
    split
    · exact ⟨⟨_, rfl⟩, List.forall_mem_singleton.mpr rfl⟩
    · exact ⟨List.takeWhile_prefix _, List.all_eq_true.mp List.all_takeWhile⟩
  clear_value whole
  split
  · trivial
  · have hfraction : (fraction (text.drop whole.length)).2 <:+ text :=
      (fraction_suffix _).trans (List.drop_suffix _ _)
    dsimp only
    split
    · next hexponent => exact (exponent?_suffix hexponent).trans hfraction
    · split
      · exact hfraction
      · split
        · next hlong => exact ⟨hlong, whole, hwhole.1.isInfix, rfl, hwhole.2⟩
        · exact hfraction

/-! ## Strings -/

theorem codeUnit?_suffix {text rest : List Char} {n : Nat}
    (h : codeUnit? text = some (n, rest)) : rest <:+ text := by
  unfold codeUnit? at h
  split at h
  · next a b c d next behind =>
      simp only [Option.bind_eq_bind, Option.bind_eq_some_iff] at h
      obtain ⟨_, -, _, -, _, -, _, -, h⟩ := h
      obtain ⟨-, rfl⟩ := Prod.mk.inj (Option.some.inj h)
      exact List.suffix_append [a, b, c, d] _
  · cases h

theorem within_unicodeEscape (text : List Char) : (unicodeEscape text).Within text := by
  unfold unicodeEscape
  split
  · trivial
  · next unit rest hunit =>
      have hrest := codeUnit?_suffix hunit
      split
      · next more _ =>
          split
          · trivial
          · next low rest' hlow =>
              split
              · exact ((codeUnit?_suffix hlow).trans (List.suffix_append ['\\', 'u'] _)).trans hrest
              · exact hrest
      · exact hrest

theorem within_escape (opening text : List Char) : (escape opening text).Within text := by
  unfold escape
  split
  case h_1 | h_11 => trivial
  case h_10 rest => exact (within_unicodeEscape rest).mono (List.suffix_cons _ _)
  all_goals exact List.suffix_cons _ _

theorem within_string (opening : List Char) :
    ∀ (steps : Nat) (text : List Char), (string opening steps text).Within text
  | 0, _ => by
      unfold string
      trivial
  | _ + 1, [] => by
      unfold string
      trivial
  | steps + 1, c :: rest => by
      rw [string]
      split
      · exact List.suffix_cons _ _
      · split
        · have hescape := within_escape opening rest
          split
          · next stop hstop =>
              rw [hstop] at hescape
              exact hescape.stop.mono (List.suffix_cons _ _)
          · next c' rest' hread =>
              rw [hread] at hescape
              exact ((within_string opening steps rest').map _).mono
                (List.IsSuffix.trans hescape (List.suffix_cons _ _))
        · split
          · trivial
          · exact ((within_string opening steps rest).map _).mono (List.suffix_cons _ _)

theorem within_stringAfterQuote (steps : Nat) (rest : List Char) :
    (stringAfterQuote steps rest).Within rest :=
  (within_string ('"' :: rest) steps rest).map _

/-! ## Values -/

theorem named?_suffix {text rest : List Char} {j : Json} (h : named? text = some (j, rest)) :
    rest <:+ text := by
  obtain ⟨⟨name, value⟩, -, hfound⟩ := List.exists_of_findSome?_eq_some h
  dsimp only at hfound
  split at hfound
  · obtain ⟨-, rfl⟩ := Prod.mk.inj (Option.some.inj hfound)
    exact List.drop_suffix _ _
  · cases hfound

mutual

theorem within_value : ∀ (steps : Nat) (text : List Char), (value steps text).Within text
  | 0, text => by
      rw [value]
      trivial
  | steps + 1, text => by
      unfold value
      split
      · next hnamed => exact named?_suffix hnamed
      · split
        · next rest _ =>
            exact ((within_stringAfterQuote steps rest).map _).mono (List.suffix_cons _ _)
        · next rest _ =>
            have hgap := (skipGap_suffix rest).trans (List.suffix_cons '[' rest)
            split
            · next hclosed => exact (List.suffix_cons _ _).trans (hclosed ▸ hgap)
            · exact ((within_list steps _).map _).mono hgap
        · next rest _ =>
            have hgap := (skipGap_suffix rest).trans (List.suffix_cons '{' rest)
            split
            · next hclosed => exact (List.suffix_cons _ _).trans (hclosed ▸ hgap)
            · exact ((within_members steps [] _).map _).mono hgap
        · exact (within_number true).mono (List.suffix_cons _ _)
        · exact within_number false

theorem within_list : ∀ (steps : Nat) (text : List Char), (list steps text).Within text
  | 0, text => by
      rw [list]
      trivial
  | steps + 1, text => by
      have hvalue := within_value steps text
      rw [list]
      split
      · next stop hstop =>
          rw [hstop] at hvalue
          exact hvalue.stop
      · next item rest hread =>
          rw [hread] at hvalue
          have hgap := (skipGap_suffix rest).trans hvalue
          split
          · next hclosed => exact (List.suffix_cons _ _).trans (hclosed ▸ hgap)
          · next more hmore =>
              rw [hmore] at hgap
              exact ((within_list steps _).map _).mono
                ((skipGap_suffix more).trans ((List.suffix_cons _ _).trans hgap))
          · trivial

theorem within_members : ∀ (steps : Nat) (sofar : Fields) (text : List Char),
    (members steps sofar text).Within text
  | 0, sofar, text => by
      rw [members]
      trivial
  | steps + 1, sofar, text => by
      unfold members
      split
      · next rest =>
          have hkey := (within_stringAfterQuote steps rest).mono (List.suffix_cons '"' rest)
          split
          · next stop hstop =>
              rw [hstop] at hkey
              exact hkey.stop
          · next key behind hread =>
              rw [hread] at hkey
              have hgap := (skipGap_suffix behind).trans hkey
              split
              · next field hcolon =>
                  rw [hcolon] at hgap
                  have hfield := (skipGap_suffix field).trans ((List.suffix_cons _ _).trans hgap)
                  have hvalue := (within_value steps (skipGap field)).mono hfield
                  split
                  · next stop hstop =>
                      rw [hstop] at hvalue
                      exact hvalue.stop
                  · next j after hread =>
                      rw [hread] at hvalue
                      have hgap := (skipGap_suffix after).trans hvalue
                      dsimp only
                      split
                      · next hclosed => exact (List.suffix_cons _ _).trans (hclosed ▸ hgap)
                      · next more hmore =>
                          rw [hmore] at hgap
                          exact (within_members steps _ _).mono
                            ((skipGap_suffix more).trans ((List.suffix_cons _ _).trans hgap))
                      · trivial
              · trivial
      · trivial

end

theorem within_parseText (text : List Char) {n : Nat}
    (h : parseText text = .error (.longInteger n)) : maxDigits < n ∧ HasDigits n text := by
  have hvalue := (within_value (2 * text.length + 2) (skipGap text)).mono (skipGap_suffix text)
  unfold parseText at h
  split at h
  · cases h
  · split at h
    · next stop hstop =>
        obtain rfl := Except.error.inj h
        rw [hstop] at hvalue
        exact hvalue
    · split at h <;> cases h

/-- Only digits that stand in a row make a text be refused for a number. -/
theorem hasDigits_of_parse {text : List Char} {n : Nat}
    (h : parse text = .error (.longInteger n)) : maxDigits < n ∧ HasDigits n text := by
  unfold parse at h
  rcases hstop : parseText text with (_ | digits) | j <;> rw [hstop] at h
  · cases h
  · obtain rfl := ReadFault.longInteger.inj (Except.error.inj h)
    exact within_parseText text hstop
  · cases h

/-- As many digits as are too many are refused for that. -/
theorem parse_replicate {n : Nat} (hn : maxDigits < n) :
    parse (List.replicate n '9') = .error (.longInteger n) := by
  obtain ⟨m, rfl⟩ : ∃ m, n = m + 1 := ⟨n - 1, by omega⟩
  have hnumber : number ('9' :: List.replicate m '9') false ('9' :: List.replicate m '9') =
      .error (.longInteger (m + 1)) := by
    have hwhole : ('9' :: List.replicate m '9').takeWhile Char.isDigit =
        '9' :: List.replicate m '9' := by
      rw [← List.replicate_succ]
      simp
    unfold number
    simp only [hwhole]
    simp [fraction, exponent?, hn]
  have hvalue : value (2 * (m + 1) + 2) ('9' :: List.replicate m '9') =
      .error (.longInteger (m + 1)) := by
    unfold value
    simp [named?, hnumber]
  have htext : parseText ('9' :: List.replicate m '9') = .error (.longInteger (m + 1)) := by
    unfold parseText
    simp [hvalue, skipGap, isGap]
  rw [List.replicate_succ, parse, htext]
  rfl

end ComponentReference.Json
