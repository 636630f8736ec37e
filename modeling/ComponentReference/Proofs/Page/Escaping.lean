import ComponentReference.Page.Format
import Mathlib.Data.List.Basic

/-!
# Escaped text

In HTML five characters cannot stand for themselves.  Escaping replaces them in five passes
over the whole text, each of which also goes over what the passes before it have put in.
Still it comes to writing every character of the text by itself, and what is written can be
read back.

## Strategy

Passes one after the other come to a single one if none of them replaces a character that an
earlier one has put in (`Text.toList_foldl_substitute`).  That is so for the five of escaping
because the ampersand, with which all entities begin, is replaced first.  Reading back is
followed character by character: an ampersand in escaped text always begins an entity, and the
entities differ in their second characters, or in the third.
-/

namespace ComponentReference

/-! ## Several substitutions -/

/-- What stands for a character after the substitutions of a table. -/
def Text.substituted (table : List (Char × String)) (c : Char) : List Char :=
  ((table.lookup c).map String.toList).getD [c]

theorem Text.substituted_of_not_mem {table : List (Char × String)} {c : Char}
    (h : c ∉ table.map Prod.fst) : substituted table c = [c] := by
  have hlookup : table.lookup c = none := by
    refine List.lookup_eq_none_iff.mpr fun p hp => bne_iff_ne.mpr fun heq => h ?_
    exact heq ▸ List.mem_map_of_mem hp
  rw [substituted, hlookup]
  rfl

/-- A text without characters of the table stays as it is. -/
theorem Text.flatMap_substituted_of_disjoint {table : List (Char × String)} {s : List Char}
    (h : ∀ p ∈ table, p.1 ∉ s) : s.flatMap (substituted table) = s := by
  have hself : ∀ c ∈ s, substituted table c = [c] := by
    intro c hc
    refine substituted_of_not_mem fun hmem => ?_
    obtain ⟨p, hp, rfl⟩ := List.mem_map.mp hmem
    exact h p hp hc
  rw [List.flatMap_congr hself, List.flatMap_singleton']

/-- One substitution after the other over a whole text comes to one pass over its characters,
if no substitution replaces what an earlier one has put in. -/
theorem Text.toList_foldl_substitute {table : List (Char × String)}
    (h : table.Pairwise fun p q => q.1 ∉ p.2.toList) (s : String) :
    (table.foldl (fun s (c, replacement) => substitute c replacement s) s).toList =
      s.toList.flatMap (substituted table) := by
  induction table generalizing s with
  | nil => exact (List.flatMap_singleton' s.toList).symm
  | cons p table ih =>
      obtain ⟨hfirst, hrest⟩ := List.pairwise_cons.mp h
      rw [List.foldl_cons, ih hrest, toList_substitute, List.flatMap_assoc]
      refine List.flatMap_congr fun c _ => ?_
      by_cases hc : c = p.1
      · rw [if_pos hc, flatMap_substituted_of_disjoint hfirst, substituted, List.lookup_cons,
          beq_iff_eq.mpr hc]
        rfl
      · rw [if_neg hc, List.flatMap_singleton, substituted, substituted, List.lookup_cons,
          beq_eq_false_iff_ne.mpr hc]

/-! ## The entities of HTML -/

/-- What stands for a character in escaped text. -/
def htmlEntity (c : Char) : List Char :=
  Text.substituted htmlEntities c

/-- The characters that are replaced. -/
def htmlReplaced : List Char := htmlEntities.map Prod.fst

theorem mem_htmlReplaced_iff {c : Char} :
    c ∈ htmlReplaced ↔ c = '&' ∨ c = '<' ∨ c = '>' ∨ c = '"' ∨ c = '\'' := by
  simp [htmlReplaced, htmlEntities]

theorem htmlEntity_of_not_mem {c : Char} (h : c ∉ htmlReplaced) : htmlEntity c = [c] :=
  Text.substituted_of_not_mem h

/-- One pass over the text would do: no pass touches what an earlier one has put in. -/
theorem toList_escapeHtml (s : String) : (escapeHtml s).toList = s.toList.flatMap htmlEntity :=
  Text.toList_foldl_substitute (by decide) s

namespace Html

/-- How a character of a text is written in HTML. -/
def written : Char → String
  | '&' => "&amp;"
  | '<' => "&lt;"
  | '>' => "&gt;"
  | '"' => "&quot;"
  | '\'' => "&#039;"
  | c => String.singleton c

theorem toList_written (c : Char) : (written c).toList = htmlEntity c := by
  by_cases hc : c ∈ htmlReplaced
  · obtain rfl | rfl | rfl | rfl | rfl := mem_htmlReplaced_iff.mp hc
    all_goals rfl
  · rw [htmlEntity_of_not_mem hc, written]
    · exact String.toList_singleton c
    all_goals
      rintro rfl
      exact hc (by decide)

/-! ## Reading escaped text -/

/-- The text that is read in HTML from left to right: an entity is its character, and all else
stands for itself. -/
def unescape : List Char → List Char
  | '&' :: 'a' :: 'm' :: 'p' :: ';' :: rest => '&' :: unescape rest
  | '&' :: 'l' :: 't' :: ';' :: rest => '<' :: unescape rest
  | '&' :: 'g' :: 't' :: ';' :: rest => '>' :: unescape rest
  | '&' :: 'q' :: 'u' :: 'o' :: 't' :: ';' :: rest => '"' :: unescape rest
  | '&' :: '#' :: '0' :: '3' :: '9' :: ';' :: rest => '\'' :: unescape rest
  | c :: rest => c :: unescape rest
  | [] => []

/-- Nothing but an ampersand begins an entity. -/
theorem unescape_cons_of_ne {c : Char} (h : c ≠ '&') (rest : List Char) :
    unescape (c :: rest) = c :: unescape rest := by
  rw [unescape] <;> (rintro _ rfl; exact absurd rfl h)

theorem unescape_htmlEntity_append (c : Char) (rest : List Char) :
    unescape (htmlEntity c ++ rest) = c :: unescape rest := by
  by_cases hc : c ∈ htmlReplaced
  · obtain rfl | rfl | rfl | rfl | rfl := mem_htmlReplaced_iff.mp hc
    all_goals rfl
  · rw [htmlEntity_of_not_mem hc, List.singleton_append]
    exact unescape_cons_of_ne (fun hamp => hc (mem_htmlReplaced_iff.mpr (.inl hamp))) rest

theorem unescape_flatMap_htmlEntity (s : List Char) : unescape (s.flatMap htmlEntity) = s := by
  induction s with
  | nil => rfl
  | cons c rest ih => rw [List.flatMap_cons, unescape_htmlEntity_append, ih]

/-- Escaping writes every character by itself, and what it writes is read back as the text that
it was, so that different texts are escaped differently. -/
theorem unescape_escapeHtml :
    (∀ s : String, escapeHtml s = String.join (s.toList.map written) ∧
      unescape (escapeHtml s).toList = s.toList) ∧
    Function.Injective escapeHtml := by
  have hback : ∀ s : String, unescape (escapeHtml s).toList = s.toList := by
    intro s
    rw [toList_escapeHtml, unescape_flatMap_htmlEntity]
  refine ⟨fun s => ⟨?_, hback s⟩, fun s t heq => ?_⟩
  · rw [← String.toList_inj, toList_escapeHtml, String.toList_join, List.flatMap_map,
      funext toList_written]
  · rw [← String.toList_inj, ← hback s, heq, hback t]

/-- Entities in a text are escaped like all else. -/
example : escapeHtml "&lt;<&amp" = "&amp;lt;&lt;&amp;amp" ∧
    unescape "&amp;lt;&lt;&amp;amp".toList = "&lt;<&amp".toList := by
  decide +kernel

end Html

end ComponentReference
