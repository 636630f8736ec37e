import ComponentReference.Text.Decoded

/-!
# Stored text is read back

A text that is written as UTF-8 and read again is the same text, as long as it has no
carriage return: line breaks are unified on reading.  Bytes that no text is written as are
not read (`Utf8.decode_eq_ok_iff`).

The first byte of a character tells how many bytes follow, which is a matter of few
values and checked for each of them (`lead?_two`, `lead?_three`, `lead?_four`).  The bytes
that follow add six bits each.  Only the second byte is restricted, and only behind the
first bytes `E0`, `ED`, `F0` and `F4`: what a character has to be for these is what keeps
its second byte inside the narrower range.  The other way round, a second byte inside it
makes a character that is written in as many bytes as were read.
-/

namespace ComponentReference

namespace Utf8

/-! ## First bytes -/

theorem lead?_one : ∀ n < 0x80, lead? n.toUInt8 = some (n, []) := by
  decide

theorem lead?_two :
    ∀ k : Fin 0x20, 2 ≤ k.val → lead? (0xC0 + k.val).toUInt8 = some (k.val, [anyTail]) := by
  decide

/-- Where the second of three bytes lies. -/
def secondOfThree (k : Nat) : Range :=
  if k = 0 then (0xA0, 0xBF) else if k = 0xD then (0x80, 0x9F) else anyTail

theorem lead?_three :
    ∀ k < 0x10, lead? (0xE0 + k).toUInt8 = some (k, [secondOfThree k, anyTail]) := by
  decide

/-- Where the second of four bytes lies. -/
def secondOfFour (k : Nat) : Range :=
  if k = 0 then (0x90, 0xBF) else if k = 4 then (0x80, 0x8F) else anyTail

theorem lead?_four :
    ∀ k < 5, lead? (0xF0 + k).toUInt8 = some (k, [secondOfFour k, anyTail, anyTail]) := by
  decide

/-! ## Bytes that follow -/

theorem toNat_continuation (n : Nat) : (continuation n).toNat = 0x80 + n % 0x40 := by
  have hlt : n % 0x40 < 0x40 := Nat.mod_lt _ (by decide)
  unfold continuation
  rw [Nat.toUInt8_eq, UInt8.toNat_ofNat']
  omega

/-- The byte lies in the range. -/
def Range.Holds (r : Range) (b : UInt8) : Prop :=
  r.1 ≤ b ∧ b ≤ r.2

theorem holds_continuation {r : Range} {n : Nat} (hlow : r.1.toNat ≤ 0x80 + n % 0x40)
    (hhigh : 0x80 + n % 0x40 ≤ r.2.toNat) : r.Holds (continuation n) := by
  rw [← toNat_continuation] at hlow hhigh
  exact ⟨UInt8.le_iff_toNat_le.mpr hlow, UInt8.le_iff_toNat_le.mpr hhigh⟩

theorem holds_anyTail (n : Nat) : anyTail.Holds (continuation n) := by
  have hlt : n % 0x40 < 0x40 := Nat.mod_lt _ (by decide)
  refine holds_continuation ?_ ?_
  · show 0x80 ≤ _
    omega
  · show _ ≤ 0xBF
    omega

section Following

variable {position first : Nat} {byte : UInt8} {bits n : Nat} {next : Range} {rest : Bytes}

/-- The last byte of a character completes it. -/
theorem decodeFrom_last (h : next.Holds (continuation n)) :
    decodeFrom position (.inside first byte bits next []) (continuation n :: rest) =
      (decodeFrom (position + 1) .between rest).map (Char.ofNat (bits * 0x40 + n % 0x40) :: ·) := by
  have hbits : (continuation n).toNat - 0x80 = n % 0x40 := by
    rw [toNat_continuation]
    omega
  rw [decodeFrom, if_pos ⟨h.1, h.2⟩, hbits]

/-- A byte before that adds its bits. -/
theorem decodeFrom_inner {next' : Range} {later : List Range} (h : next.Holds (continuation n)) :
    decodeFrom position (.inside first byte bits next (next' :: later)) (continuation n :: rest) =
      decodeFrom (position + 1) (.inside first byte (bits * 0x40 + n % 0x40) next' later) rest := by
  have hbits : (continuation n).toNat - 0x80 = n % 0x40 := by
    rw [toNat_continuation]
    omega
  rw [decodeFrom, if_pos ⟨h.1, h.2⟩, hbits]

end Following

/-! ## Characters -/

/-- The code points that are no characters are those of surrogates. -/
theorem toNat_cases (c : Char) : c.toNat < 0xD800 ∨ 0xE000 ≤ c.toNat ∧ c.toNat < 0x110000 := by
  have hvalid := c.valid
  simp only [UInt32.isValidChar, Nat.isValidChar] at hvalid
  have hnat : c.val.toNat = c.toNat := rfl
  omega

/-- The bytes of a character are read as that character. -/
theorem decodeFrom_encodeChar (c : Char) (position : Nat) (rest : Bytes) :
    ∃ position', decodeFrom position .between (encodeChar c ++ rest) =
      (decodeFrom position' .between rest).map (c :: ·) := by
  have hcases := toNat_cases c
  have hchar : Char.ofNat c.toNat = c := Char.ofNat_toNat c
  generalize hn : c.toNat = n at hcases hchar
  unfold encodeChar
  rw [hn]
  dsimp only
  split
  · next hone =>
      refine ⟨position + 1, ?_⟩
      rw [List.singleton_append, decodeFrom, lead?_one n hone]
      dsimp only
      rw [hchar]
  split
  · next htwo =>
      have hbits : n / 0x40 * 0x40 + n % 0x40 = n := by omega
      refine ⟨position + 1 + 1, ?_⟩
      rw [List.cons_append, List.singleton_append, decodeFrom,
        lead?_two ⟨n / 0x40, by omega⟩ (show 2 ≤ n / 0x40 by omega)]
      dsimp only
      rw [decodeFrom_last (holds_anyTail n), hbits, hchar]
  split
  · next hthree =>
      have hbits : (n / 0x1000 * 0x40 + n / 0x40 % 0x40) * 0x40 + n % 0x40 = n := by omega
      -- overlong forms and surrogates are what the range keeps out
      have hsecond : (secondOfThree (n / 0x1000)).Holds (continuation (n / 0x40)) := by
        unfold secondOfThree
        split
        · refine holds_continuation ?_ ?_
          · show 0xA0 ≤ _
            omega
          · show _ ≤ 0xBF
            omega
        split
        · refine holds_continuation ?_ ?_
          · show 0x80 ≤ _
            omega
          · show _ ≤ 0x9F
            omega
        · exact holds_anyTail _
      refine ⟨position + 1 + 1 + 1, ?_⟩
      rw [List.cons_append, List.cons_append, List.singleton_append, decodeFrom,
        lead?_three (n / 0x1000) (by omega)]
      dsimp only
      rw [decodeFrom_inner hsecond, decodeFrom_last (holds_anyTail n), hbits, hchar]
  · have hbits : ((n / 0x40000 * 0x40 + n / 0x1000 % 0x40) * 0x40 + n / 0x40 % 0x40) * 0x40 +
        n % 0x40 = n := by omega
    -- overlong forms and code points past the last one are what the range keeps out
    have hsecond : (secondOfFour (n / 0x40000)).Holds (continuation (n / 0x1000)) := by
      unfold secondOfFour
      split
      · refine holds_continuation ?_ ?_
        · show 0x90 ≤ _
          omega
        · show _ ≤ 0xBF
          omega
      split
      · refine holds_continuation ?_ ?_
        · show 0x80 ≤ _
          omega
        · show _ ≤ 0x8F
          omega
      · exact holds_anyTail _
    refine ⟨position + 1 + 1 + 1 + 1, ?_⟩
    rw [List.cons_append, List.cons_append, List.cons_append, List.singleton_append, decodeFrom,
      lead?_four (n / 0x40000) (by omega)]
    dsimp only
    rw [decodeFrom_inner hsecond, decodeFrom_inner (holds_anyTail _),
      decodeFrom_last (holds_anyTail n), hbits, hchar]

/-! ## Texts -/

theorem decodeFrom_encode (s : List Char) (position : Nat) :
    decodeFrom position .between (encode s) = .ok s := by
  induction s generalizing position with
  | nil => rfl
  | cons c rest ih =>
      obtain ⟨position', hchar⟩ := decodeFrom_encodeChar c position (encode rest)
      rw [encode, List.flatMap_cons, ← encode, hchar, ih]
      rfl

/-- Every text is what its bytes stand for. -/
theorem decode_encode (s : List Char) : decode (encode s) = .ok s :=
  decodeFrom_encode s 0

/-! ## Nothing else is read -/

theorem range_of_lead? :
    ∀ n < 0x100, lead? n.toUInt8 ≠ none → n < 0x80 ∨ 0xC2 ≤ n ∧ n < 0xF5 := by
  decide +kernel

theorem continuation_congr {n m : Nat} (h : n % 0x40 = m % 0x40) :
    continuation n = continuation m := by
  unfold continuation
  rw [h]

/-- The range lies among the bytes that follow a first one. -/
def Range.IsTail (r : Range) : Prop :=
  0x80 ≤ r.1.toNat ∧ r.2.toNat ≤ 0xBF

theorem isTail_anyTail : anyTail.IsTail :=
  ⟨by decide, by decide⟩

theorem isTail_secondOfThree (k : Nat) : (secondOfThree k).IsTail := by
  unfold secondOfThree
  split
  · exact ⟨by decide, by decide⟩
  split <;> exact ⟨by decide, by decide⟩

theorem isTail_secondOfFour (k : Nat) : (secondOfFour k).IsTail := by
  unfold secondOfFour
  split
  · exact ⟨by decide, by decide⟩
  split <;> exact ⟨by decide, by decide⟩

/-- The six bits of a byte that follows lie in the range. -/
def Range.Allows (r : Range) (n : Nat) : Prop :=
  r.1.toNat ≤ 0x80 + n ∧ 0x80 + n ≤ r.2.toNat

theorem bounds_secondOfThree {k m : Nat} (h : (secondOfThree k).Allows m) :
    (k = 0 → 0x20 ≤ m) ∧ (k = 0xD → m < 0x20) := by
  obtain ⟨hlow, hhigh⟩ := h
  refine ⟨?_, ?_⟩ <;> rintro rfl
  · change 0xA0 ≤ 0x80 + m at hlow
    omega
  · change 0x80 + m ≤ 0x9F at hhigh
    omega

theorem bounds_secondOfFour {k m : Nat} (h : (secondOfFour k).Allows m) :
    (k = 0 → 0x10 ≤ m) ∧ (k = 4 → m < 0x10) := by
  obtain ⟨hlow, hhigh⟩ := h
  refine ⟨?_, ?_⟩ <;> rintro rfl
  · change 0x90 ≤ 0x80 + m at hlow
    omega
  · change 0x80 + m ≤ 0x8F at hhigh
    omega

theorem Range.IsTail.exists_continuation {r : Range} (hr : r.IsTail) {b : UInt8}
    (h : r.Holds b) : ∃ n < 0x40, b = continuation n ∧ b.toNat - 0x80 = n ∧ r.Allows n := by
  obtain ⟨hlow, hhigh⟩ := hr
  have hleast := UInt8.le_iff_toNat_le.mp h.1
  have hgreatest := UInt8.le_iff_toNat_le.mp h.2
  have hlt : b.toNat - 0x80 < 0x40 := by omega
  refine ⟨b.toNat - 0x80, hlt, UInt8.toNat_inj.mp ?_, rfl, by omega, by omega⟩
  rw [toNat_continuation, Nat.mod_eq_of_lt hlt]
  omega

section Refused

variable {position first : Nat} {byte : UInt8} {bits : Nat} {next : Range} {bytes : Bytes}
  {s : List Char}

theorem decodeFrom_map_ok {c : Char}
    (h : (decodeFrom position .between bytes).map (c :: ·) = .ok s) :
    ∃ s', s = c :: s' ∧ decodeFrom position .between bytes = .ok s' := by
  cases hrest : decodeFrom position .between bytes with
  | error fault => simp [hrest, Except.map] at h
  | ok s' =>
      rw [hrest] at h
      exact ⟨s', (Except.ok.inj h).symm, rfl⟩

/-- What is read inside a character goes on with its last byte, -/
theorem ok_of_decodeFrom_last (hnext : next.IsTail)
    (h : decodeFrom position (.inside first byte bits next []) bytes = .ok s) :
    ∃ n < 0x40, ∃ rest s', bytes = continuation n :: rest ∧
      s = Char.ofNat (bits * 0x40 + n) :: s' ∧
      decodeFrom (position + 1) .between rest = .ok s' := by
  rcases bytes with _ | ⟨b, rest⟩
  · cases h
  rw [decodeFrom] at h
  split at h
  · next hb =>
      obtain ⟨n, hn, rfl, hbits, -⟩ := hnext.exists_continuation hb
      rw [hbits] at h
      obtain ⟨s', rfl, hrest⟩ := decodeFrom_map_ok h
      exact ⟨n, hn, rest, s', rfl, rfl, hrest⟩
  · cases h

/-- or with one that adds its bits. -/
theorem ok_of_decodeFrom_inner {next' : Range} {later : List Range} (hnext : next.IsTail)
    (h : decodeFrom position (.inside first byte bits next (next' :: later)) bytes = .ok s) :
    ∃ n < 0x40, ∃ rest, bytes = continuation n :: rest ∧ next.Allows n ∧
      decodeFrom (position + 1) (.inside first byte (bits * 0x40 + n) next' later) rest =
        .ok s := by
  rcases bytes with _ | ⟨b, rest⟩
  · cases h
  rw [decodeFrom] at h
  split at h
  · next hb =>
      obtain ⟨n, hn, rfl, hbits, hallows⟩ := hnext.exists_continuation hb
      rw [hbits] at h
      exact ⟨n, hn, rest, rfl, hallows, h⟩
  · cases h

end Refused

theorem toNat_charOfNat {n : Nat} (h : n < 0xD800 ∨ 0xE000 ≤ n ∧ n < 0x110000) :
    (Char.ofNat n).toNat = n := by
  have hvalid : n.isValidChar := by
    unfold Nat.isValidChar
    omega
  unfold Char.ofNat
  rw [dif_pos hvalid]
  rfl

theorem encodeChar_one {n : Nat} (h : n < 0x80) : encodeChar (Char.ofNat n) = [n.toUInt8] := by
  rw [encodeChar, toNat_charOfNat (by omega), if_pos h]

theorem encodeChar_two {k l : Nat} (hk : 2 ≤ k) (hk' : k < 0x20) (hl : l < 0x40) :
    encodeChar (Char.ofNat (k * 0x40 + l)) = [(0xC0 + k).toUInt8, continuation l] := by
  have hfirst : (k * 0x40 + l) / 0x40 = k := by omega
  have hlast : continuation (k * 0x40 + l) = continuation l := continuation_congr (by omega)
  rw [encodeChar, toNat_charOfNat (by omega), if_neg (by omega), if_pos (by omega), hfirst, hlast]

theorem encodeChar_three {k m l : Nat} (hk : k < 0x10) (hm : m < 0x40) (hl : l < 0x40)
    (hsecond : (secondOfThree k).Allows m) :
    encodeChar (Char.ofNat ((k * 0x40 + m) * 0x40 + l)) =
      [(0xE0 + k).toUInt8, continuation m, continuation l] := by
  obtain ⟨hoverlong, hsurrogate⟩ := bounds_secondOfThree hsecond
  have hfirst : ((k * 0x40 + m) * 0x40 + l) / 0x1000 = k := by omega
  have hinner : continuation (((k * 0x40 + m) * 0x40 + l) / 0x40) = continuation m :=
    continuation_congr (by omega)
  have hlast : continuation ((k * 0x40 + m) * 0x40 + l) = continuation l :=
    continuation_congr (by omega)
  rw [encodeChar, toNat_charOfNat (by omega), if_neg (by omega), if_neg (by omega),
    if_pos (by omega), hfirst, hinner, hlast]

theorem encodeChar_four {k m l i : Nat} (hk : k < 5) (hm : m < 0x40) (hl : l < 0x40)
    (hi : i < 0x40) (hsecond : (secondOfFour k).Allows m) :
    encodeChar (Char.ofNat (((k * 0x40 + m) * 0x40 + l) * 0x40 + i)) =
      [(0xF0 + k).toUInt8, continuation m, continuation l, continuation i] := by
  obtain ⟨hoverlong, hlargest⟩ := bounds_secondOfFour hsecond
  have hfirst : (((k * 0x40 + m) * 0x40 + l) * 0x40 + i) / 0x40000 = k := by omega
  have hinner : continuation ((((k * 0x40 + m) * 0x40 + l) * 0x40 + i) / 0x1000) =
      continuation m := continuation_congr (by omega)
  have hthird : continuation ((((k * 0x40 + m) * 0x40 + l) * 0x40 + i) / 0x40) =
      continuation l := continuation_congr (by omega)
  have hlast : continuation (((k * 0x40 + m) * 0x40 + l) * 0x40 + i) = continuation i :=
    continuation_congr (by omega)
  rw [encodeChar, toNat_charOfNat (by omega), if_neg (by omega), if_neg (by omega),
    if_neg (by omega), hfirst, hinner, hthird, hlast]

/-- What is read begins with the bytes of a character. -/
theorem exists_encodeChar_of_ok {position : Nat} {b : UInt8} {rest : Bytes} {s : List Char}
    (h : decodeFrom position .between (b :: rest) = .ok s) :
    ∃ c rest' s' position', b :: rest = encodeChar c ++ rest' ∧ s = c :: s' ∧
      decodeFrom position' .between rest' = .ok s' := by
  obtain ⟨n, hn, rfl⟩ : ∃ n < 0x100, b = n.toUInt8 :=
    ⟨b.toNat, b.toNat_lt, UInt8.ofNat_toNat.symm⟩
  have hlead : lead? n.toUInt8 ≠ none := by
    intro hnone
    rw [decodeFrom, hnone] at h
    cases h
  rw [decodeFrom] at h
  obtain hone | ⟨hleast, hgreatest⟩ := range_of_lead? n hn hlead
  · rw [lead?_one n hone] at h
    obtain ⟨s', rfl, hrest⟩ := decodeFrom_map_ok h
    exact ⟨_, rest, s', _, by rw [encodeChar_one hone]; rfl, rfl, hrest⟩
  by_cases htwo : n < 0xE0
  · obtain ⟨k, rfl⟩ : ∃ k, n = 0xC0 + k := ⟨n - 0xC0, by omega⟩
    have hfirst : lead? (0xC0 + k).toUInt8 = some (k, [anyTail]) :=
      lead?_two ⟨k, by omega⟩ (show 2 ≤ k by omega)
    rw [hfirst] at h
    obtain ⟨l, hl, rest, s', rfl, rfl, hrest⟩ := ok_of_decodeFrom_last isTail_anyTail h
    exact ⟨_, rest, s', _, by rw [encodeChar_two (by omega) (by omega) hl]; rfl, rfl, hrest⟩
  by_cases hthree : n < 0xF0
  · obtain ⟨k, rfl⟩ : ∃ k, n = 0xE0 + k := ⟨n - 0xE0, by omega⟩
    rw [lead?_three k (by omega)] at h
    obtain ⟨m, hm, rest, rfl, hsecond, h⟩ := ok_of_decodeFrom_inner (isTail_secondOfThree k) h
    obtain ⟨l, hl, rest, s', rfl, rfl, hrest⟩ := ok_of_decodeFrom_last isTail_anyTail h
    exact ⟨_, rest, s', _, by rw [encodeChar_three (by omega) hm hl hsecond]; rfl, rfl, hrest⟩
  · obtain ⟨k, rfl⟩ : ∃ k, n = 0xF0 + k := ⟨n - 0xF0, by omega⟩
    rw [lead?_four k (by omega)] at h
    obtain ⟨m, hm, rest, rfl, hsecond, h⟩ := ok_of_decodeFrom_inner (isTail_secondOfFour k) h
    obtain ⟨l, hl, rest, rfl, -, h⟩ := ok_of_decodeFrom_inner isTail_anyTail h
    obtain ⟨i, hi, rest, s', rfl, rfl, hrest⟩ := ok_of_decodeFrom_last isTail_anyTail h
    exact ⟨_, rest, s', _, by rw [encodeChar_four (by omega) hm hl hi hsecond]; rfl, rfl, hrest⟩

theorem eq_encode_of_decodeFrom {s : List Char} : ∀ {position : Nat} {bytes : Bytes},
    decodeFrom position .between bytes = .ok s → bytes = encode s := by
  induction s with
  | nil =>
      intro position bytes h
      rcases bytes with _ | ⟨b, rest⟩
      · rfl
      · obtain ⟨c, _, s', _, -, hs, -⟩ := exists_encodeChar_of_ok h
        cases hs
  | cons c s' ih =>
      intro position bytes h
      rcases bytes with _ | ⟨b, rest⟩
      · cases h
      · obtain ⟨c', rest', s'', position', hbytes, hs, hrest⟩ := exists_encodeChar_of_ok h
        obtain ⟨rfl, rfl⟩ := List.cons.inj hs
        rw [hbytes, ih hrest]
        rfl

/-- The bytes that stand for a text are those that it is written as, and no others. -/
theorem decode_eq_ok_iff {bytes : Bytes} {s : List Char} :
    decode bytes = .ok s ↔ bytes = encode s := by
  constructor
  · exact eq_encode_of_decodeFrom
  · rintro rfl
    exact decode_encode s

end Utf8

namespace Text

theorem unifyBreaks_of_not_mem {s : List Char} (h : '\r' ∉ s) : unifyBreaks s = s := by
  induction s with
  | nil => rfl
  | cons c rest ih =>
      rw [List.mem_cons, not_or] at h
      have hc : ¬ c = '\r' := fun heq => h.1 heq.symm
      rw [unifyBreaks, if_neg hc, ih h.2]
      intro tail heq
      exact absurd heq hc

/-- Bytes are read if they are those of a text, and then with its line breaks unified. -/
theorem ofBytes_eq_ok_iff {bytes : Bytes} {text : List Char} :
    ofBytes bytes = .ok text ↔ ∃ s, bytes = Utf8.encode s ∧ text = unifyBreaks s := by
  simp only [← Utf8.decode_eq_ok_iff]
  unfold ofBytes
  cases Utf8.decode bytes with
  | error fault => simp
  | ok s => simp [eq_comm]

/-- A text without carriage returns is read back from a file. -/
theorem ofBytes_encode {s : List Char} (h : '\r' ∉ s) : ofBytes (Utf8.encode s) = .ok s := by
  rw [ofBytes, Utf8.decode_encode]
  dsimp only
  rw [unifyBreaks_of_not_mem h]

end Text

end ComponentReference
