import ComponentReference.Page.Format
import Mathlib.Algebra.Group.Nat.Even
import Mathlib.Data.List.Induction

/-!
# Default values as spans of code

In Markdown a default value stands between two backticks, with a backslash before each backtick
of its own.  Read with backslashes that escape what is behind them, this should be one span of
code, which the backticks at its ends alone delimit, and the value should be what is in it.

The backslashes of the value itself are left as they are, though.  One that stands before a
backtick escapes the backslash that is put between them, and not the backtick; one at the end of
the value escapes the backtick that should end the span.  So the value is a span of code exactly
if its backslashes come in pairs wherever a backtick or the end of the value is behind them.

## Strategy

Nothing but the last character decides what is escaped behind a backtick, with or without a
backslash before it.  Hence every character of the value is read as if there were no backslashes
between (`escapesNext_escapeBackticks`), and a backtick of the span is bare exactly if the same
one is escaped in the value (`bare_mem_reading_iff`).  What is escaped in the value is a matter
of the run of backslashes in front of it (`escapesNext_run`).
-/

namespace ComponentReference

/-! ## Reading with escapes -/

namespace Text

/-- Whether the character behind a text is escaped, when the first of the text is or is not: a
backslash escapes what is behind it, unless it is escaped itself. -/
def escapesNext : (escaped : Bool) → List Char → Bool
  | escaped, [] => escaped
  | escaped, c :: rest => escapesNext (!escaped && c = '\\') rest

/-- The characters of a text, each with whether it is escaped. -/
def reading : (escaped : Bool) → List Char → List (Char × Bool)
  | _, [] => []
  | escaped, c :: rest => (c, escaped) :: reading (!escaped && c = '\\') rest

variable {escaped : Bool} {c : Char} {s front : List Char}

theorem escapesNext_append (escaped : Bool) (s t : List Char) :
    escapesNext escaped (s ++ t) = escapesNext (escapesNext escaped s) t := by
  induction s generalizing escaped with
  | nil => rfl
  | cons c rest ih => rw [List.cons_append, escapesNext, escapesNext, ih]

theorem reading_append (escaped : Bool) (s t : List Char) :
    reading escaped (s ++ t) = reading escaped s ++ reading (escapesNext escaped s) t := by
  induction s generalizing escaped with
  | nil => rfl
  | cons c rest ih => rw [List.cons_append, reading, reading, escapesNext, ih, List.cons_append]

@[simp] theorem length_reading (escaped : Bool) (s : List Char) :
    (reading escaped s).length = s.length := by
  induction s generalizing escaped with
  | nil => rfl
  | cons c rest ih => rw [reading, List.length_cons, List.length_cons, ih]

/-- What is read of a character is decided by what stands before it. -/
theorem mem_reading_iff {read : Bool} : (c, read) ∈ reading escaped s ↔
    ∃ before after, s = before ++ c :: after ∧ escapesNext escaped before = read := by
  constructor
  · intro h
    induction s generalizing escaped with
    | nil => cases h
    | cons x rest ih =>
        rw [reading, List.mem_cons, Prod.mk.injEq] at h
        obtain ⟨rfl, rfl⟩ | h := h
        · exact ⟨[], rest, rfl, rfl⟩
        · obtain ⟨before, after, rfl, hread⟩ := ih h
          exact ⟨x :: before, after, rfl, hread⟩
  · rintro ⟨before, after, rfl, rfl⟩
    rw [reading_append, reading]
    exact List.mem_append_right _ List.mem_cons_self

/-! ## Runs of backslashes -/

/-- The text has an even number of backslashes in a row wherever a backtick is behind them, and
at its end. -/
def EvenRuns (s : List Char) : Prop :=
  ∀ front n back, s = front ++ List.replicate n '\\' ++ back → front.getLast? ≠ some '\\' →
    (back = [] ∨ ∃ rest, back = '`' :: rest) → Even n

theorem escapesNext_eq_false_of_getLast? (h : s.getLast? ≠ some '\\') :
    escapesNext false s = false := by
  induction s using List.reverseRecOn with
  | nil => rfl
  | append_singleton front c =>
      rw [List.getLast?_concat, Ne, Option.some_inj] at h
      simp [escapesNext_append, escapesNext, h]

/-- Of backslashes in a row every other one is escaped. -/
theorem escapesNext_run (h : front.getLast? ≠ some '\\') (n : ℕ) :
    escapesNext false (front ++ List.replicate n '\\') = false ↔ Even n := by
  rw [escapesNext_append, escapesNext_eq_false_of_getLast? h]
  induction n with
  | zero => simp [escapesNext]
  | succ n ih =>
      rw [List.replicate_succ', escapesNext_append, Nat.even_add_one, ← ih]
      simp [escapesNext]

/-- The run of backslashes at the end of a text, which may be empty. -/
theorem exists_run (s : List Char) :
    ∃ front n, s = front ++ List.replicate n '\\' ∧ front.getLast? ≠ some '\\' := by
  induction s using List.reverseRecOn with
  | nil => exact ⟨[], 0, rfl, by simp⟩
  | append_singleton before c ih =>
      by_cases hc : c = '\\'
      · obtain ⟨front, n, rfl, hfront⟩ := ih
        exact ⟨front, n + 1, by rw [hc, List.replicate_succ', List.append_assoc], hfront⟩
      · exact ⟨before ++ [c], 0, by simp, by simpa using hc⟩

theorem evenRuns_iff : EvenRuns s ↔
    ('`', true) ∉ reading false s ∧ escapesNext false s = false := by
  constructor
  · intro h
    refine ⟨fun hmem => ?_, ?_⟩
    · obtain ⟨before, after, hs, hread⟩ := mem_reading_iff.mp hmem
      obtain ⟨front, n, rfl, hfront⟩ := exists_run before
      have heven := h front n _ hs hfront (.inr ⟨after, rfl⟩)
      exact absurd hread (by simp [(escapesNext_run hfront n).mpr heven])
    · obtain ⟨front, n, rfl, hfront⟩ := exists_run s
      exact (escapesNext_run hfront n).mpr (h front n [] (List.append_nil _).symm hfront (.inl rfl))
  · rintro ⟨hmem, hend⟩ front n back rfl hfront (rfl | ⟨rest, rfl⟩)
    · rw [List.append_nil] at hend
      exact (escapesNext_run hfront n).mp hend
    · refine (escapesNext_run hfront n).mp (Bool.eq_false_iff.mpr fun hread => hmem ?_)
      exact mem_reading_iff.mpr ⟨_, rest, rfl, hread⟩

end Text

namespace Markdown

/-! ## Escaped backticks -/

/-- The text with a backslash before every backtick. -/
def escapeBackticks (s : List Char) : List Char :=
  s.flatMap fun c => if c = '`' then ['\\', '`'] else [c]

/-- The text with a backtick for every one that is escaped.  Other escapes are left as they
are. -/
def unescapeBackticks : List Char → List Char
  | '\\' :: '`' :: rest => '`' :: unescapeBackticks rest
  | '\\' :: c :: rest => '\\' :: c :: unescapeBackticks rest
  | c :: rest => c :: unescapeBackticks rest
  | [] => []

theorem toList_quoteMarkdownCode (value : String) :
    (quoteMarkdownCode value).toList = '`' :: (escapeBackticks value.toList ++ ['`']) := by
  rw [quoteMarkdownCode, String.toList_append, String.toList_append, Text.toList_substitute]
  rfl

@[simp] theorem escapeBackticks_backtick (rest : List Char) :
    escapeBackticks ('`' :: rest) = '\\' :: '`' :: escapeBackticks rest := rfl

theorem escapeBackticks_cons {c : Char} (h : c ≠ '`') (rest : List Char) :
    escapeBackticks (c :: rest) = c :: escapeBackticks rest := by
  rw [escapeBackticks, List.flatMap_cons, if_neg h]
  rfl

/-- The backslashes that are put into a text have no effect behind its backticks. -/
theorem escapesNext_escapeBackticks (escaped : Bool) (s : List Char) :
    Text.escapesNext escaped (escapeBackticks s) = Text.escapesNext escaped s := by
  induction s generalizing escaped with
  | nil => rfl
  | cons c rest ih =>
      by_cases hc : c = '`'
      · subst hc
        simp [Text.escapesNext, ih]
      · rw [escapeBackticks_cons hc, Text.escapesNext, Text.escapesNext, ih]

/-- A backtick with a backslash put before it is bare exactly if it was escaped without. -/
theorem bare_mem_reading_iff (escaped : Bool) (s : List Char) :
    ('`', false) ∈ Text.reading escaped (escapeBackticks s) ↔
      ('`', true) ∈ Text.reading escaped s := by
  induction s generalizing escaped with
  | nil => exact iff_of_false List.not_mem_nil List.not_mem_nil
  | cons c rest ih =>
      by_cases hc : c = '`'
      · subst hc
        cases escaped <;> simp [Text.reading, ih]
      · rw [escapeBackticks_cons hc, Text.reading, Text.reading, List.mem_cons, List.mem_cons, ih]
        simp [Ne.symm hc]

theorem unescapeBackticks_cons {c : Char} (h : c ≠ '\\') (rest : List Char) :
    unescapeBackticks (c :: rest) = c :: unescapeBackticks rest := by
  rw [unescapeBackticks]
  · rintro _ rfl
    exact absurd rfl h
  · rintro _ _ rfl
    exact absurd rfl h

/-- The backslashes that are put into a text are undone, unless it has escaped backticks
itself. -/
theorem unescapeBackticks_escapeBackticks {s : List Char} (h : ('`', true) ∉ Text.reading false s) :
    unescapeBackticks (escapeBackticks s) = s := by
  induction s using unescapeBackticks.induct with
  | case1 rest ih => simp [Text.reading] at h
  | case2 c rest hc ih =>
      have hrest : ('`', true) ∉ Text.reading false rest := by
        simp_all [Text.reading]
      rw [escapeBackticks_cons (by decide), escapeBackticks_cons hc, unescapeBackticks, ih hrest]
      exact hc
  | case3 c rest _ hlast ih =>
      by_cases hslash : c = '\\'
      · -- a backslash with nothing behind it is the end of the text
        cases rest with
        | nil => rw [hslash]; rfl
        | cons x more => exact (hlast x more hslash rfl).elim
      · have hrest : ('`', true) ∉ Text.reading false rest := by
          simp_all [Text.reading]
        by_cases hc : c = '`'
        · rw [hc, escapeBackticks_backtick, unescapeBackticks, ih hrest]
        · rw [escapeBackticks_cons hc, unescapeBackticks_cons hslash, ih hrest]
  | case4 => rfl

/-! ## Spans of code -/

/-- The text is a span of code that shows the value: it has a backtick that is not escaped at
either end and nowhere else, and between them the value is found when the backticks that are
escaped there are read. -/
structure IsCodeSpan (value : String) (span : String) : Prop where
  bare_iff : ∀ i, (Text.reading false span.toList)[i]? = some ('`', false) ↔
    i = 0 ∨ i + 1 = span.toList.length
  inside : unescapeBackticks span.toList.tail.dropLast = value.toList

/-- A text between backticks has no other bare ones than these if there is none in it and
nothing escapes the last one. -/
theorem bare_ends_iff (s : List Char) :
    (∀ i, (Text.reading false ('`' :: (s ++ ['`'])))[i]? = some ('`', false) ↔
        i = 0 ∨ i + 1 = ('`' :: (s ++ ['`'])).length) ↔
      ('`', false) ∉ Text.reading false s ∧ Text.escapesNext false s = false := by
  have hread : Text.reading false ('`' :: (s ++ ['`'])) =
      ('`', false) :: (Text.reading false s ++ [('`', Text.escapesNext false s)]) := by
    rw [Text.reading, Text.reading_append]
    rfl
  rw [hread, List.length_cons, List.length_append, List.length_singleton]
  constructor
  · intro h
    refine ⟨fun hmem => ?_, ?_⟩
    · obtain ⟨i, hi, hbare⟩ := List.mem_iff_getElem.mp hmem
      have hinside := (h (i + 1)).mp <| by
        rw [List.getElem?_cons_succ, List.getElem?_append_left hi, List.getElem?_eq_getElem hi,
          hbare]
      rw [Text.length_reading] at hi
      omega
    · have hlast := (h (s.length + 1)).mpr (.inr rfl)
      rw [List.getElem?_cons_succ, ← Text.length_reading false s,
        List.getElem?_concat_length] at hlast
      simpa using hlast
  · rintro ⟨hinside, hlast⟩ i
    rw [hlast]
    cases i with
    | zero => simp
    | succ i =>
        rw [List.getElem?_cons_succ]
        obtain hi | hi := lt_or_ge i s.length
        · rw [List.getElem?_append_left (by simpa using hi)]
          refine iff_of_false (fun hbare => hinside (List.mem_of_getElem? hbare)) ?_
          omega
        · have hplace : i - s.length = 0 ↔ i + 1 = 0 ∨ i + 1 + 1 = s.length + 1 + 1 := by omega
          rw [List.getElem?_append_right (by simpa using hi), Text.length_reading,
            List.getElem?_singleton, ← hplace]
          simp

/-- A default value is shown as one span of code exactly if an even number of backslashes in a
row stands before each of its backticks and at its end. -/
theorem isCodeSpan_quoteMarkdownCode_iff (value : String) :
    IsCodeSpan value (quoteMarkdownCode value) ↔ Text.EvenRuns value.toList := by
  have hbare : (∀ i, (Text.reading false (quoteMarkdownCode value).toList)[i]? = some ('`', false) ↔
      i = 0 ∨ i + 1 = (quoteMarkdownCode value).toList.length) ↔ Text.EvenRuns value.toList := by
    rw [toList_quoteMarkdownCode, bare_ends_iff, bare_mem_reading_iff, escapesNext_escapeBackticks,
      Text.evenRuns_iff]
  refine ⟨fun h => hbare.mp h.bare_iff, fun h => ⟨hbare.mpr h, ?_⟩⟩
  rw [toList_quoteMarkdownCode, List.tail_cons, List.dropLast_concat]
  exact unescapeBackticks_escapeBackticks (Text.evenRuns_iff.mp h).1

/-- A backslash at the end of a value escapes the backtick that should end the span, and one
before a backtick escapes the backslash that is put between them. -/
theorem not_isCodeSpan_backslash : ¬IsCodeSpan "\\" (quoteMarkdownCode "\\") ∧
    ¬IsCodeSpan "\\`" (quoteMarkdownCode "\\`") := by
  constructor
  · intro h
    have hend := (h.bare_iff 2).mpr (by decide +kernel)
    revert hend
    decide +kernel
  · intro h
    have hinside := (h.bare_iff 3).mp (by decide +kernel)
    revert hinside
    decide +kernel

end Markdown

end ComponentReference
