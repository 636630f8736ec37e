import ComponentReference.Json.Basic

/-!
# Texts of scalars

The text that a scalar stands for is never empty.  Numbers have at least one digit, or are
written as a word.  They are written with few characters (`Layout.Lacks`), so that no number
is taken for the word `union`.
-/

namespace ComponentReference

theorem Layout.exponentText_ne_empty (l : Layout) (e : Int) : l.exponentText e ≠ "" := by
  have hsign : (if e < 0 then "-" else "+") ≠ "" := by
    split <;> decide
  unfold exponentText
  simp [String.append_eq_empty_iff, hsign]

theorem Layout.decimalText_ne_empty (l : Layout) (d : Decimal) : l.decimalText d ≠ "" := by
  have hdigits : Nat.toDigits 10 d.digits ≠ [] := Nat.toDigits_ne_nil
  unfold decimalText
  dsimp only
  split
  · split
    · simp [String.append_eq_empty_iff]
    split
    · simp [String.append_eq_empty_iff, hdigits]
    · simp [String.append_eq_empty_iff]
  · simp [String.append_eq_empty_iff, l.exponentText_ne_empty]

theorem Layout.text_ne_empty {l : Layout} (hnumber : l.notNumber ≠ "") (hinfinity : l.infinity ≠ "")
    (x : Double) : l.text x ≠ "" := by
  cases x with
  | nan negative => exact hnumber
  | infinite negative => simp [text, String.append_eq_empty_iff, hinfinity]
  | finite negative significand exponent =>
      have hbody : (if significand = 0 then "0" ++ l.wholeEnding
          else l.decimalText (Double.shortest significand exponent)) ≠ "" := by
        split
        · simp [String.append_eq_empty_iff]
        · exact l.decimalText_ne_empty _
      simp [text, String.append_eq_empty_iff, hbody]

/-- The text that a scalar stands for is not empty. -/
theorem Json.text?_ne_empty (j : Json) : j.text? ≠ some "" := by
  cases j with
  | null => decide
  | bool b => cases b <;> decide
  | int n =>
      have hn : n.repr ≠ "" := by
        cases n with
        | ofNat m => exact Nat.repr_ne_empty
        | negSucc m => simp [Int.repr, String.append_eq_empty_iff]
      exact fun heq => hn (Option.some.inj heq)
  | double x =>
      exact fun heq =>
        Layout.text_ne_empty (show numberLayout.notNumber ≠ "" by decide) (by decide) x
          (Option.some.inj heq)
  | str s =>
      rw [text?]
      split
      · exact fun heq => nomatch heq
      · next hs =>
          rintro heq
          obtain rfl := Option.some.inj heq
          exact hs rfl
  | arr items => exact fun heq => nomatch heq
  | obj fields => exact fun heq => nomatch heq

/-! ## Characters of numbers -/

variable {c : Char}

/-- No number is written with the character: it is no digit, sign or point, and stands in no
word or mark of the layout. -/
structure Layout.Lacks (l : Layout) (c : Char) : Prop where
  digit : c.isDigit = false
  sign : c ≠ '-' ∧ c ≠ '+'
  point : c ≠ '.'
  wholeEnding : c ∉ l.wholeEnding.toList
  exponentMark : c ∉ l.exponentMark.toList
  infinity : c ∉ l.infinity.toList
  notNumber : c ∉ l.notNumber.toList

theorem not_mem_toDigits (hc : c.isDigit = false) (n : Nat) : c ∉ Nat.toDigits 10 n := by
  intro hmem
  rw [Nat.isDigit_of_mem_toDigits (by decide) (by decide) hmem] at hc
  cases hc

theorem not_mem_intRepr (hc : c.isDigit = false) (hsign : c ≠ '-') (n : Int) :
    c ∉ n.repr.toList := by
  have hnat : ∀ m : Nat, c ∉ m.repr.toList := by
    intro m
    rw [Nat.repr, String.toList_ofList]
    exact not_mem_toDigits hc m
  cases n with
  | ofNat m => exact hnat m
  | negSucc m =>
      show c ∉ ("-" ++ m.succ.repr).toList
      simpa [hsign] using hnat m.succ

namespace Layout.Lacks

variable {l : Layout} (h : l.Lacks c)
include h

theorem ne_zero : c ≠ '0' := by
  rintro rfl
  cases h.digit

theorem not_mem_zeros (n : Nat) : c ∉ List.replicate n '0' :=
  fun hmem => h.ne_zero (List.eq_of_mem_replicate hmem)

theorem not_mem_exponentText (e : Int) : c ∉ (l.exponentText e).toList := by
  have hsign : c ∉ (if e < 0 then "-" else "+").toList := by
    split
    · simpa using h.sign.1
    · simpa using h.sign.2
  unfold exponentText
  simp only [String.toList_append, String.toList_ofList, List.mem_append, not_or]
  exact ⟨⟨h.exponentMark, hsign⟩, h.not_mem_zeros _, not_mem_toDigits h.digit _⟩

theorem not_mem_decimalText (d : Decimal) : c ∉ (l.decimalText d).toList := by
  have hdigits := not_mem_toDigits h.digit d.digits
  have htake : ∀ n, c ∉ (Nat.toDigits 10 d.digits).take n :=
    fun n hmem => hdigits (List.mem_of_mem_take hmem)
  have hdrop : ∀ n, c ∉ (Nat.toDigits 10 d.digits).drop n :=
    fun n hmem => hdigits (List.mem_of_mem_drop hmem)
  unfold decimalText
  dsimp only
  split
  · split
    · simp [h.not_mem_zeros, hdigits, h.ne_zero, h.point]
    split
    · simp [h.not_mem_zeros, hdigits, h.wholeEnding]
    · simp [htake, hdrop, h.point]
  · have hone := hdrop 1
    simp only [String.toList_append, String.toList_ofList, List.mem_append, not_or]
    refine ⟨⟨htake 1, ?_⟩, h.not_mem_exponentText _⟩
    split
    · simp
    · simpa [h.point] using hone

theorem not_mem_text (x : Double) : c ∉ (l.text x).toList := by
  have hsign : ∀ negative : Bool, c ∉ (if negative then "-" else "").toList := by
    intro negative
    cases negative <;> simp [h.sign.1]
  cases x with
  | nan negative => exact h.notNumber
  | infinite negative =>
      simp only [text, String.toList_append, List.mem_append, not_or]
      exact ⟨hsign negative, h.infinity⟩
  | finite negative significand exponent =>
      simp only [text, String.toList_append, List.mem_append, not_or]
      refine ⟨hsign negative, ?_⟩
      split
      · simpa [h.ne_zero] using h.wholeEnding
      · exact h.not_mem_decimalText _

end Layout.Lacks

theorem Json.lacks_numberLayout : numberLayout.Lacks 'u' := by
  constructor <;> decide

/-- Only the string itself stands for the word by which unions are named. -/
theorem Json.text?_eq_union_iff (j : Json) : j.text? = some "union" ↔ j = .str "union" := by
  have hmem : 'u' ∈ "union".toList := by decide
  constructor
  · intro h
    cases j with
    | bool b => cases b <;> simp [text?] at h
    | int n =>
        rw [← Option.some.inj h] at hmem
        exact absurd hmem (not_mem_intRepr (by decide) (by decide) n)
    | double x =>
        rw [← Option.some.inj h] at hmem
        exact absurd hmem (lacks_numberLayout.not_mem_text x)
    | str s =>
        rw [text?] at h
        split at h
        · cases h
        · rw [Option.some.inj h]
    | null => cases h
    | arr items => cases h
    | obj fields => cases h
  · rintro rfl
    rfl

end ComponentReference
