import ComponentReference.Json.Printer
import ComponentReference.Json.Reader
import ComponentReference.Proofs.Text.Lines

/-!
# Printed values are read back

A value that holds no number, and no object in which a key occurs twice, is read back from
its printed form.

## Strategy

What is read is followed by other text, so each statement is about a printed form with
anything behind it, which is what the reading function leaves.  A reading function takes
as many steps as it is given; the length of the printed form is always enough, and the
reader starts with about twice the length of its text.

* A character is read back from its escaped form (`string_escapedChar`), so a string is.
* A list is read back if its items are, item by item (`list_intercalate`), and an object if
  its values are (`members_intercalate`).  Every field goes to the end of those before it,
  since its key is new.
* The printed form of a value begins with a character that is no gap, so that the gap
  behind a comma ends where it should.
-/

namespace ComponentReference

namespace Text

theorem hexValue?_hexDigit : ∀ n : Fin 16, hexValue? (hexDigit n.val) = some n.val := by
  decide

end Text

namespace Json

/-! ## Strings -/

section Strings

variable {opening : List Char} {steps : Nat} {next : Char} {rest : List Char}

/-- Four digits are read as the number that they write. -/
theorem codeUnit?_hex {n : Nat} (hn : n < 0x10000) :
    codeUnit? (Text.hex 4 n ++ next :: rest) = some (n, next :: rest) := by
  have hdigit : ∀ m : Nat, Text.hexValue? (Text.hexDigit (m % 16)) = some (m % 16) :=
    fun m => Text.hexValue?_hexDigit ⟨m % 16, Nat.mod_lt _ (by decide)⟩
  have hsum : ((n / 16 / 16 / 16 % 16 * 16 + n / 16 / 16 % 16) * 16 + n / 16 % 16) * 16 + n % 16 =
      n := by
    omega
  simp only [Text.hex, List.nil_append, List.cons_append, codeUnit?, hdigit, Option.bind_eq_bind,
    Option.bind_some, hsum]

/-- A control character is read back from the digits of its escaped form. -/
theorem unicodeEscape_hex {c : Char} (hc : c.toNat < 0x20) :
    unicodeEscape (Text.hex 4 c.toNat ++ next :: rest) = .ok (c, next :: rest) := by
  have hhigh : isHighUnit c.toNat = false := by
    rw [isHighUnit, decide_eq_false (by omega), Bool.false_and]
  have hlow : isLowUnit c.toNat = false := by
    rw [isLowUnit, decide_eq_false (by omega), Bool.false_and]
  have hchar : unitChar c.toNat = c := by
    rw [unitChar, hhigh, hlow, if_neg (by decide), Char.ofNat_toNat]
  rw [unicodeEscape, codeUnit?_hex (by omega)]
  simp only [hhigh, hchar]

/-- What an escape stands for is the next character of the string. -/
theorem string_escape {c : Char} {text after : List Char}
    (h : escape opening text = .ok (c, after)) :
    string opening (steps + 1) ('\\' :: text) =
      (string opening steps after).map fun (s, rest) => (c :: s, rest) := by
  rw [string, if_neg (by decide), if_pos rfl, h]

/-- A character is read back from its escaped form, behind which the string goes on. -/
theorem string_escapedChar (c : Char) :
    string opening (steps + 1) (escapedChar c ++ next :: rest) =
      (string opening steps (next :: rest)).map fun (s, rest) => (c :: s, rest) := by
  unfold escapedChar
  split
  · next h =>
      obtain rfl | rfl := h
      · exact string_escape rfl
      · exact string_escape rfl
  next hplain =>
  rw [not_or] at hplain
  split
  · next h => exact h ▸ string_escape rfl
  split
  · next h => exact h ▸ string_escape rfl
  split
  · next h => exact h ▸ string_escape rfl
  split
  · next h =>
      have hc : c = Char.ofNat 0x8 := by rw [← h, Char.ofNat_toNat]
      exact hc ▸ string_escape rfl
  split
  · next h =>
      have hc : c = Char.ofNat 0xC := by rw [← h, Char.ofNat_toNat]
      exact hc ▸ string_escape rfl
  split
  · next h => exact string_escape (unicodeEscape_hex h)
  · next h =>
      rw [List.singleton_append, string, if_neg hplain.1, if_neg hplain.2, if_neg h]

/-- A string is read back up to its closing quote, one step for every character. -/
theorem string_flatMap_escapedChar (s : List Char) (hsteps : s.length < steps) :
    string opening steps (s.flatMap escapedChar ++ '"' :: rest) = .ok (s, rest) := by
  induction s generalizing steps with
  | nil =>
      obtain ⟨steps, rfl⟩ := Nat.exists_eq_add_one.mpr hsteps
      rw [List.flatMap_nil, List.nil_append, string, if_pos rfl]
  | cons c s ih =>
      obtain ⟨steps, rfl⟩ := Nat.exists_eq_add_one.mpr (Nat.zero_lt_of_lt hsteps)
      obtain ⟨next, more, hmore⟩ : ∃ next more, s.flatMap escapedChar ++ '"' :: rest =
          next :: more := by
        cases s.flatMap escapedChar with
        | nil => exact ⟨_, _, rfl⟩
        | cons next more => exact ⟨_, _, rfl⟩
      rw [List.flatMap_cons, List.append_assoc, hmore, string_escapedChar, ← hmore,
        ih (Nat.lt_of_succ_lt_succ hsteps)]
      rfl

theorem toList_printString (s : String) :
    (printString s).toList = '"' :: (s.toList.flatMap escapedChar ++ ['"']) :=
  String.toList_ofList

theorem length_le_length_flatMap_escapedChar (s : List Char) :
    s.length ≤ (s.flatMap escapedChar).length := by
  induction s with
  | nil => exact Nat.le_refl _
  | cons c s ih =>
      have hpos : 1 ≤ (escapedChar c).length := by
        unfold escapedChar
        repeat' split
        all_goals exact Nat.succ_le_succ (Nat.zero_le _)
      rw [List.flatMap_cons, List.length_append, List.length_cons]
      omega

/-- A printed string is read back once its opening quote has been read. -/
theorem stringAfterQuote_printString (s : String) (rest : List Char)
    (hsteps : (printString s).toList.length ≤ steps + 1) :
    ∃ text, (printString s).toList ++ rest = '"' :: text ∧
      stringAfterQuote steps text = .ok (s, rest) := by
  refine ⟨s.toList.flatMap escapedChar ++ '"' :: rest, ?_, ?_⟩
  · rw [toList_printString, List.cons_append, List.append_assoc, List.singleton_append]
  · have hlength := length_le_length_flatMap_escapedChar s.toList
    rw [toList_printString, List.length_cons, List.length_append, List.length_singleton] at hsteps
    rw [stringAfterQuote, string_flatMap_escapedChar _ (by omega)]
    simp only [Except.map, String.ofList_toList]

end Strings

/-! ## Values -/

/-- The value holds no number, and no object in which a key occurs twice. -/
inductive Plain : Json → Prop where
  | null : Plain .null
  | bool (b : Bool) : Plain (.bool b)
  | str (s : String) : Plain (.str s)
  | arr {items : List Json} (h : ∀ j ∈ items, Plain j) : Plain (.arr items)
  | obj {fields : Fields} (hkeys : (fields.map Prod.fst).Nodup)
      (h : ∀ field ∈ fields, Plain field.2) : Plain (.obj fields)

/-- The characters with which the printed form of a value begins that is no number. -/
def openings : List Char :=
  ['n', 't', 'f', '"', '[', '\x7b']

theorem Plain.print_eq_cons {j : Json} (hj : j.Plain) :
    ∃ c text, (print j).toList = c :: text ∧ c ∈ openings := by
  cases hj with
  | null => exact ⟨'n', ['u', 'l', 'l'], by rw [print]; rfl, by decide⟩
  | bool b =>
      cases b with
      | true => exact ⟨'t', ['r', 'u', 'e'], by rw [print]; rfl, by decide⟩
      | false => exact ⟨'f', ['a', 'l', 's', 'e'], by rw [print]; rfl, by decide⟩
  | str s => exact ⟨'"', _, by rw [print, toList_printString], by decide⟩
  | arr h =>
      exact ⟨'[', _, by rw [print, String.toList_append, String.toList_append]; rfl, by decide⟩
  | obj hkeys h =>
      exact ⟨'\x7b', _, by rw [print, String.toList_append, String.toList_append]; rfl, by decide⟩

theorem skipGap_cons {c : Char} (hc : isGap c = false) (rest : List Char) :
    skipGap (c :: rest) = c :: rest := by
  rw [skipGap, List.dropWhile_cons_of_neg (by rw [hc]; decide)]

/-- A value that begins with a bracket, a brace or a quote has no name. -/
theorem named?_eq_none {c : Char} (hc : c ∈ ['"', '[', '\x7b']) (rest : List Char) :
    named? (c :: rest) = none := by
  simp only [List.mem_cons, List.not_mem_nil, or_false] at hc
  obtain rfl | rfl | rfl := hc <;> rfl

/-- The value is read back from its printed form with anything behind it. -/
def ReadBack (j : Json) : Prop :=
  ∀ steps rest, (print j).toList.length ≤ steps →
    value steps ((print j).toList ++ rest) = .ok (j, rest)


theorem readBack_null : ReadBack .null := by
  intro steps rest hsteps
  obtain ⟨steps, rfl⟩ := Nat.exists_eq_add_one.mpr (Nat.lt_of_lt_of_le (by decide) hsteps)
  rfl

theorem readBack_bool (b : Bool) : ReadBack (.bool b) := by
  intro steps rest hsteps
  have hpos : 0 < (print (.bool b)).toList.length := by
    cases b <;> decide
  obtain ⟨steps, rfl⟩ := Nat.exists_eq_add_one.mpr (Nat.lt_of_lt_of_le hpos hsteps)
  cases b <;> rfl

theorem readBack_str (s : String) : ReadBack (.str s) := by
  intro steps rest hsteps
  rw [print] at hsteps ⊢
  have hpos : 0 < (printString s).toList.length := by
    rw [toList_printString]
    exact Nat.succ_pos _
  obtain ⟨steps, rfl⟩ := Nat.exists_eq_add_one.mpr (Nat.lt_of_lt_of_le hpos hsteps)
  obtain ⟨text, htext, hread⟩ := stringAfterQuote_printString s rest hsteps
  rw [htext, value, named?_eq_none (by decide)]
  dsimp only
  rw [hread]
  rfl

/-! ## Lists -/

/-- The printed items of a list, as they stand between its brackets. -/
def itemsText (items : List Json) : List Char :=
  [',', ' '].intercalate (items.map fun j => (print j).toList)

theorem printItems_eq_map (items : List Json) : printItems items = items.map print := by
  induction items with
  | nil => rw [printItems, List.map_nil]
  | cons j rest ih => rw [printItems, ih, List.map_cons]

theorem toList_print_arr (items : List Json) :
    (print (.arr items)).toList = '[' :: (itemsText items ++ [']']) := by
  rw [print, String.toList_append, String.toList_append, String.toList_intercalate,
    printItems_eq_map, List.map_map]
  rfl

theorem itemsText_singleton (j : Json) : itemsText [j] = (print j).toList :=
  List.append_nil _

theorem itemsText_cons_cons (j j' : Json) (more : List Json) :
    itemsText (j :: j' :: more) = (print j).toList ++ ',' :: ' ' :: itemsText (j' :: more) := by
  rw [itemsText, List.map_cons, List.map_cons, List.intercalate_cons_cons, List.append_assoc]
  rfl

/-- The items begin with the first of them, and so with no gap and no bracket that closes. -/
theorem itemsText_eq_cons {j : Json} (hj : j.Plain) (more : List Json) (rest : List Char) :
    ∃ c text, itemsText (j :: more) ++ rest = c :: text ∧ c ∈ openings := by
  obtain ⟨c, text, htext, hc⟩ := hj.print_eq_cons
  cases more with
  | nil => exact ⟨c, text ++ rest, by rw [itemsText_singleton, htext, List.cons_append], hc⟩
  | cons j' more =>
      refine ⟨c, text ++ (',' :: ' ' :: itemsText (j' :: more)) ++ rest, ?_, hc⟩
      rw [itemsText_cons_cons, htext, List.cons_append, List.cons_append]

theorem isGap_of_mem_openings : ∀ c ∈ openings, isGap c = false := by
  simp [openings, isGap]

/-- Items that are read back one by one are read back as the items of a list. -/
theorem list_itemsText {items : List Json} (hplain : ∀ j ∈ items, j.Plain)
    (hback : ∀ j ∈ items, j.ReadBack) (hne : items ≠ []) {steps : Nat}
    (hsteps : (itemsText items).length < steps) (rest : List Char) :
    list steps (itemsText items ++ ']' :: rest) = .ok (items, rest) := by
  induction items generalizing steps with
  | nil => exact absurd rfl hne
  | cons j more ih =>
      obtain ⟨steps, rfl⟩ := Nat.exists_eq_add_one.mpr (Nat.zero_lt_of_lt hsteps)
      cases more with
      | nil =>
          rw [itemsText_singleton] at hsteps ⊢
          rw [list, hback j (List.mem_singleton_self j) _ _ (by omega)]
          rfl
      | cons j' more =>
          rw [itemsText_cons_cons, List.length_append, List.length_cons, List.length_cons] at hsteps
          have hmore := ih (fun i hi => hplain i (List.mem_cons_of_mem j hi))
            (fun i hi => hback i (List.mem_cons_of_mem j hi)) (List.cons_ne_nil j' more)
            (show _ < steps by omega)
          obtain ⟨c, text, htext, hc⟩ := itemsText_eq_cons
            (hplain j' (List.mem_cons_of_mem j (List.mem_cons_self ..))) more (']' :: rest)
          have hgap : skipGap (' ' :: (itemsText (j' :: more) ++ ']' :: rest)) =
              itemsText (j' :: more) ++ ']' :: rest := by
            rw [htext]
            exact skipGap_cons (isGap_of_mem_openings c hc) text
          rw [itemsText_cons_cons, List.append_assoc, list,
            hback j (List.mem_cons_self ..) _ _ (by omega)]
          dsimp only [List.cons_append]
          rw [skipGap_cons rfl]
          simp only
          rw [hgap, hmore]
          rfl

theorem readBack_arr {items : List Json} (hplain : ∀ j ∈ items, j.Plain)
    (hback : ∀ j ∈ items, j.ReadBack) : ReadBack (.arr items) := by
  intro steps rest hsteps
  rw [toList_print_arr, List.length_cons, List.length_append, List.length_singleton] at hsteps
  rw [toList_print_arr, List.cons_append, List.append_assoc, List.singleton_append]
  obtain ⟨steps, rfl⟩ := Nat.exists_eq_add_one.mpr (Nat.zero_lt_of_lt hsteps)
  rw [value, named?_eq_none (by decide)]
  dsimp only
  cases items with
  | nil => rfl
  | cons j more =>
      obtain ⟨c, text, htext, hc⟩ := itemsText_eq_cons
        (hplain j (List.mem_cons_self ..)) more (']' :: rest)
      have hclose : ∀ c ∈ openings, c ≠ ']' := by
        simp [openings]
      have hlist := list_itemsText hplain hback (List.cons_ne_nil j more)
        (show _ < steps by omega) rest
      rw [htext] at hlist ⊢
      rw [skipGap_cons (isGap_of_mem_openings c hc)]
      split
      · next heq => exact absurd (List.cons.inj heq).1 (hclose c hc)
      · rw [hlist]
        rfl

/-! ## Objects -/

/-- A printed field of an object. -/
def fieldText (field : String × Json) : List Char :=
  (printString field.1).toList ++ ':' :: ' ' :: (print field.2).toList

/-- The printed fields of an object, as they stand between its braces. -/
def fieldsText (fields : Fields) : List Char :=
  [',', ' '].intercalate (fields.map fieldText)

theorem map_toList_printFields (fields : Fields) :
    (printFields fields).map String.toList = fields.map fieldText := by
  induction fields with
  | nil => rw [printFields, List.map_nil, List.map_nil]
  | cons field rest ih =>
      have hfield : (printString field.1 ++ ": " ++ print field.2).toList = fieldText field := by
        rw [String.toList_append, String.toList_append, List.append_assoc]
        rfl
      rw [printFields, List.map_cons, ih, hfield, List.map_cons]

theorem toList_print_obj (fields : Fields) :
    (print (.obj fields)).toList = '\x7b' :: (fieldsText fields ++ ['\x7d']) := by
  rw [print, String.toList_append, String.toList_append, String.toList_intercalate,
    map_toList_printFields]
  rfl

theorem fieldsText_singleton (field : String × Json) : fieldsText [field] = fieldText field :=
  List.append_nil _

theorem fieldsText_cons_cons (field field' : String × Json) (more : Fields) :
    fieldsText (field :: field' :: more) =
      fieldText field ++ ',' :: ' ' :: fieldsText (field' :: more) := by
  rw [fieldsText, List.map_cons, List.map_cons, List.intercalate_cons_cons, List.append_assoc]
  rfl

/-- The fields begin with the quote of the first key. -/
theorem fieldsText_eq_cons (field : String × Json) (more : Fields) (rest : List Char) :
    ∃ text, fieldsText (field :: more) ++ rest = '"' :: text := by
  cases more with
  | nil => exact ⟨_, by rw [fieldsText_singleton, fieldText, toList_printString]; rfl⟩
  | cons field' more =>
      exact ⟨_, by rw [fieldsText_cons_cons, fieldText, toList_printString]; rfl⟩

/-- One field is read and entered, whatever follows it. -/
theorem members_fieldText {field : String × Json} (hplain : field.2.Plain)
    (hback : field.2.ReadBack) {steps : Nat} (hsteps : (fieldText field).length ≤ steps)
    (sofar : Fields) (rest : List Char) :
    members (steps + 1) sofar (fieldText field ++ rest) =
      match skipGap rest with
      | '\x7d' :: rest => .ok (sofar.put field.1 field.2, rest)
      | ',' :: rest => members steps (sofar.put field.1 field.2) (skipGap rest)
      | rest => .error (.here .comma rest) := by
  rw [fieldText, List.length_append, List.length_cons, List.length_cons] at hsteps
  obtain ⟨text, htext, hkey⟩ := stringAfterQuote_printString field.1
    (':' :: ' ' :: ((print field.2).toList ++ rest)) (show _ ≤ steps + 1 by omega)
  obtain ⟨c, more, hmore, hc⟩ := hplain.print_eq_cons
  have hgap : skipGap (' ' :: ((print field.2).toList ++ rest)) =
      (print field.2).toList ++ rest := by
    rw [hmore]
    exact skipGap_cons (isGap_of_mem_openings c hc) _
  rw [fieldText, List.append_assoc, List.cons_append, List.cons_append, htext, members]
  dsimp only
  rw [hkey]
  dsimp only
  rw [skipGap_cons rfl]
  simp only
  rw [hgap]
  generalize hvalue : value steps ((print field.2).toList ++ rest) = outcome
  rw [hback _ _ (by omega)] at hvalue
  subst hvalue
  rfl

/-- Fields whose values are read back are read back as the fields of an object, and are
entered behind those that have been read. -/
theorem members_fieldsText {fields : Fields} (hplain : ∀ field ∈ fields, field.2.Plain)
    (hback : ∀ field ∈ fields, field.2.ReadBack) (hne : fields ≠ []) (sofar : Fields)
    (hkeys : ((sofar ++ fields).map Prod.fst).Nodup) {steps : Nat}
    (hsteps : (fieldsText fields).length < steps) (rest : List Char) :
    members steps sofar (fieldsText fields ++ '\x7d' :: rest) = .ok (sofar ++ fields, rest) := by
  induction fields generalizing sofar steps with
  | nil => exact absurd rfl hne
  | cons field more ih =>
      obtain ⟨steps, rfl⟩ := Nat.exists_eq_add_one.mpr (Nat.zero_lt_of_lt hsteps)
      have hfresh : field.1 ∉ sofar.map Prod.fst := by
        rw [List.map_append, List.map_cons] at hkeys
        exact fun hmem => (List.nodup_append.mp hkeys).2.2 _ hmem _ (List.mem_cons_self ..) rfl
      have hput : sofar.put field.1 field.2 = sofar ++ [field] :=
        Keyed.put_of_not_mem Prod.fst hfresh
      have hhead : field ∈ field :: more := List.mem_cons_self ..
      cases more with
      | nil =>
          rw [fieldsText_singleton] at hsteps ⊢
          rw [members_fieldText (hplain field hhead) (hback field hhead) (by omega), hput]
          rfl
      | cons field' more =>
          rw [fieldsText_cons_cons, List.length_append, List.length_cons,
            List.length_cons] at hsteps
          have hmore := ih (fun f hf => hplain f (List.mem_cons_of_mem field hf))
            (fun f hf => hback f (List.mem_cons_of_mem field hf)) (List.cons_ne_nil field' more)
            (sofar ++ [field]) (by rwa [List.append_assoc]) (show _ < steps by omega)
          obtain ⟨text, htext⟩ := fieldsText_eq_cons field' more ('\x7d' :: rest)
          have hgap : skipGap (' ' :: (fieldsText (field' :: more) ++ '\x7d' :: rest)) =
              fieldsText (field' :: more) ++ '\x7d' :: rest := by
            rw [htext]
            exact skipGap_cons (by decide : isGap '"' = false) text
          rw [fieldsText_cons_cons, List.append_assoc,
            members_fieldText (hplain field hhead) (hback field hhead) (by omega), hput]
          dsimp only [List.cons_append]
          rw [skipGap_cons rfl]
          simp only
          rw [hgap, hmore, List.append_assoc]
          rfl

theorem readBack_obj {fields : Fields} (hkeys : (fields.map Prod.fst).Nodup)
    (hplain : ∀ field ∈ fields, field.2.Plain) (hback : ∀ field ∈ fields, field.2.ReadBack) :
    ReadBack (.obj fields) := by
  intro steps rest hsteps
  rw [toList_print_obj, List.length_cons, List.length_append, List.length_singleton] at hsteps
  rw [toList_print_obj, List.cons_append, List.append_assoc, List.singleton_append]
  obtain ⟨steps, rfl⟩ := Nat.exists_eq_add_one.mpr (Nat.zero_lt_of_lt hsteps)
  rw [value, named?_eq_none (by decide)]
  dsimp only
  cases fields with
  | nil => rfl
  | cons field more =>
      obtain ⟨text, htext⟩ := fieldsText_eq_cons field more ('\x7d' :: rest)
      have hmembers := members_fieldsText hplain hback (List.cons_ne_nil field more)
        [] hkeys (show _ < steps by omega) rest
      rw [htext] at hmembers ⊢
      rw [skipGap_cons (by decide)]
      split
      · next heq => exact absurd (List.cons.inj heq).1 (by decide)
      · rw [hmembers]
        rfl

/-! ## All values -/

theorem Plain.readBack {j : Json} (hj : j.Plain) : j.ReadBack := by
  induction hj with
  | null => exact readBack_null
  | bool b => exact readBack_bool b
  | str s => exact readBack_str s
  | arr h ih => exact readBack_arr h ih
  | obj hkeys h ih => exact readBack_obj hkeys h ih

/-- A plain value is what its printed form holds. -/
theorem parse_print {j : Json} (hj : j.Plain) : parse (print j).toList = .ok j := by
  obtain ⟨c, text, htext, hc⟩ := hj.print_eq_cons
  have hmark : ∀ c ∈ openings, c ≠ Char.ofNat 0xFEFF := by
    simp [openings]
  have hgap : skipGap (print j).toList = (print j).toList := by
    rw [htext, skipGap_cons (isGap_of_mem_openings c hc)]
  have hvalue := hj.readBack (2 * (print j).toList.length + 2) [] (by omega)
  rw [List.append_nil] at hvalue
  rw [parse, parseText, hgap, hvalue, if_neg]
  · rfl
  · rw [htext, List.head?_cons]
    exact fun heq => hmark c hc (Option.some.inj heq)

/-! ## Carriage returns -/

/-- A character is escaped without a carriage return. -/
theorem return_not_mem_escapedChar (c : Char) : '\r' ∉ escapedChar c := by
  have hhex : ∀ n : Fin 16, '\r' ≠ Text.hexDigit n.val := by
    decide
  have hdigit : ∀ n : Nat, '\r' ≠ Text.hexDigit (n % 16) :=
    fun n => hhex ⟨n % 16, Nat.mod_lt _ (by decide)⟩
  unfold escapedChar
  split
  · next h =>
      obtain rfl | rfl := h
      · decide
      · decide
  split
  · decide
  split
  · decide
  next hreturn =>
  split
  · decide
  split
  · decide
  split
  · decide
  split
  · simp [Text.hex, hdigit]
  · rw [List.mem_singleton]
    exact fun heq => hreturn heq.symm

theorem return_not_mem_printString (s : String) : '\r' ∉ (printString s).toList := by
  rw [toList_printString, List.mem_cons, List.mem_append, List.mem_flatMap]
  rintro (hquote | ⟨c, -, hc⟩ | hquote)
  · exact absurd hquote (by decide)
  · exact return_not_mem_escapedChar c hc
  · exact absurd hquote (by decide)

/-- The printed form of a plain value has no carriage return. -/
theorem Plain.return_not_mem_print {j : Json} (hj : j.Plain) : '\r' ∉ (print j).toList := by
  induction hj with
  | null => decide
  | bool b => cases b <;> decide
  | str s =>
      rw [print]
      exact return_not_mem_printString s
  | arr h ih =>
      have hitems := Text.not_mem_intercalate (show '\r' ∉ [',', ' '] by decide)
        (List.forall_mem_map.mpr ih)
      rw [toList_print_arr, List.mem_cons, List.mem_append]
      rintro (hopen | hmem | hclose)
      · exact absurd hopen (by decide)
      · exact hitems hmem
      · exact absurd hclose (by decide)
  | @obj fields hkeys h ih =>
      have hfield : ∀ field ∈ fields, '\r' ∉ fieldText field := by
        intro field hmem
        rw [fieldText, List.mem_append, List.mem_cons, List.mem_cons]
        rintro (hkey | hcolon | hblank | hvalue)
        · exact return_not_mem_printString field.1 hkey
        · exact absurd hcolon (by decide)
        · exact absurd hblank (by decide)
        · exact ih field hmem hvalue
      have hfields := Text.not_mem_intercalate (show '\r' ∉ [',', ' '] by decide)
        (List.forall_mem_map.mpr hfield)
      rw [toList_print_obj, List.mem_cons, List.mem_append]
      rintro (hopen | hmem | hclose)
      · exact absurd hopen (by decide)
      · exact hfields hmem
      · exact absurd hclose (by decide)

end Json

end ComponentReference
