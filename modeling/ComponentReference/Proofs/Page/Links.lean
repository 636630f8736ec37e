import ComponentReference.Proofs.Page.IndexLayout
import Mathlib.Data.List.Forall2
import Mathlib.Data.List.Infix
import Mathlib.Data.List.TakeWhile

/-!
# The links of the index page

The index page has an item for each component, and in it a link to the component's page.
What a link leads to is said here without regard to how it was written: it is read back
from the text of the item, up to the mark that ends it in the format.  Names stand in links
as they are.  So reading back gives the name of the page's file exactly if the
component's name has none of the marks that the format reads a link by (`Format.Linkable`).

## Strategy

Reading a target is finding the first occurrence of a mark and going on up to a character.
Both are said by what the text then is made up of (`Text.behind?_eq_some_iff`,
`Text.upTo?_eq_some_iff`).  In Markdown the name stands before the mark as well as behind
it.  If an earlier mark is found inside the name, then what is read has a name and one more
mark in it, and is too long.
-/

namespace ComponentReference

/-! ## Reading between marks -/

namespace Text

/-- The text behind the first occurrence of the mark. -/
def behind? (mark : List Char) : List Char → Option (List Char)
  | [] => none
  | c :: rest =>
    if mark <+: c :: rest then some ((c :: rest).drop mark.length) else behind? mark rest

/-- The text before the first `stop`. -/
def upTo? (stop : Char) : List Char → Option (List Char)
  | [] => none
  | c :: rest => if c = stop then some [] else (upTo? stop rest).map (c :: ·)

variable {mark s t : List Char} {stop : Char}

/-- An occurrence is the first one if no other ends before it does. -/
theorem behind?_eq_some_iff (hmark : mark ≠ []) :
    behind? mark s = some t ↔
      ∃ before, s = before ++ mark ++ t ∧ ¬mark <:+: before ++ mark.dropLast := by
  have hlength : 0 < mark.length := List.length_pos_iff.mpr hmark
  have hwithin : ∀ before, before ++ mark.dropLast <+: before ++ mark ++ t := by
    intro before
    rw [List.append_assoc]
    exact (List.prefix_append_right_inj before).mpr
      ((List.dropLast_prefix mark).trans (List.prefix_append mark t))
  induction s with
  | nil =>
      refine iff_of_false (fun h => nomatch h) ?_
      rintro ⟨before, h, -⟩
      exact hmark (by simp_all)
  | cons c rest ih =>
      rw [behind?]
      by_cases hfirst : mark <+: c :: rest
      · rw [if_pos hfirst, Option.some_inj]
        obtain ⟨more, hmore⟩ := hfirst
        rw [← hmore, List.drop_left]
        constructor
        · rintro rfl
          refine ⟨[], rfl, fun hinfix => ?_⟩
          have := hinfix.length_le
          rw [List.nil_append, List.length_dropLast] at this
          omega
        · rintro ⟨before, heq, hnone⟩
          cases before with
          | nil => exact List.append_cancel_left heq
          | cons x before =>
              -- the mark at the very beginning ends before the one behind `before` does
              refine absurd (List.IsPrefix.isInfix ?_) hnone
              refine List.prefix_of_prefix_length_le ⟨more, rfl⟩ (heq ▸ hwithin (x :: before)) ?_
              simp only [List.length_append, List.length_cons, List.length_dropLast]
              omega
      · rw [if_neg hfirst]
        refine ih.trans ?_
        constructor
        · rintro ⟨before, rfl, hnone⟩
          refine ⟨c :: before, rfl, fun hinfix => ?_⟩
          obtain hbegins | hinfix := List.infix_cons_iff.mp hinfix
          · exact hfirst (hbegins.trans (hwithin (c :: before)))
          · exact hnone hinfix
        · rintro ⟨before, heq, hnone⟩
          cases before with
          | nil => exact absurd ⟨t, heq.symm⟩ hfirst
          | cons x before =>
              obtain ⟨rfl, rfl⟩ := List.cons.inj heq
              exact ⟨before, rfl, fun hinfix => hnone (List.infix_cons hinfix)⟩

theorem upTo?_eq_some_iff : upTo? stop s = some t ↔ stop ∉ t ∧ ∃ rest, s = t ++ stop :: rest := by
  induction s generalizing t with
  | nil => simp [upTo?]
  | cons c rest ih =>
      rw [upTo?]
      by_cases hc : c = stop
      · subst hc
        rw [if_pos rfl, Option.some_inj]
        constructor
        · rintro rfl
          exact ⟨List.not_mem_nil, rest, rfl⟩
        · rintro ⟨hnone, more, heq⟩
          cases t with
          | nil => rfl
          | cons x t =>
              obtain ⟨rfl, -⟩ := List.cons.inj heq
              exact absurd List.mem_cons_self hnone
      · rw [if_neg hc, Option.map_eq_some_iff]
        constructor
        · rintro ⟨t, hread, rfl⟩
          obtain ⟨hnone, more, rfl⟩ := ih.mp hread
          exact ⟨List.not_mem_cons_of_ne_of_not_mem (Ne.symm hc) hnone, more, rfl⟩
        · rintro ⟨hnone, more, heq⟩
          cases t with
          | nil => exact absurd (List.cons.inj heq).1 hc
          | cons x t =>
              obtain ⟨rfl, rfl⟩ := List.cons.inj heq
              exact ⟨t, ih.mpr ⟨fun hmem => hnone (List.mem_cons_of_mem _ hmem), more, rfl⟩, rfl⟩

end Text

/-! ## The items of the index page -/

namespace Format

/-- The lines of the item for a component. -/
def indexItem : Format → IndexEntry → List String
  | .markdown => Markdown.indexItem
  | .html => Html.indexItem

/-- The item for a component as it stands on the index page. -/
def itemText (f : Format) (e : IndexEntry) : String :=
  "\n".intercalate (f.indexItem e)

/-- What the link in an item leads to.  In HTML it is the value of the attribute `href`, up
to the quote that ends it.  In Markdown it stands between parentheses on the item's first
line. -/
def linkTarget? : Format → String → Option String
  | .markdown, item =>
    ((Text.behind? [']', '('] (item.toList.takeWhile (· ≠ '\n'))).bind (Text.upTo? ')')).map
      String.ofList
  | .html, item =>
    ((Text.behind? ['h', 'r', 'e', 'f', '=', '"'] item.toList).bind (Text.upTo? '"')).map
      String.ofList

/-- The name has no mark in it that a link is read by. -/
def Linkable : Format → String → Prop
  | .markdown, name => ')' ∉ name.toList ∧ '\n' ∉ name.toList ∧ ¬[']', '('] <:+: name.toList
  | .html, name => '"' ∉ name.toList

instance (f : Format) (name : String) : Decidable (f.Linkable name) :=
  match f with
  | .markdown => inferInstanceAs (Decidable (_ ∧ _ ∧ _))
  | .html => inferInstanceAs (Decidable (_ ∉ _))

end Format

theorem exists_intercalate_cons (separator s : String) (texts : List String) :
    ∃ rest : String, separator.intercalate (s :: texts) = s ++ rest := by
  cases texts with
  | nil => exact ⟨"", by rw [String.intercalate_singleton, String.append_empty]⟩
  | cons s' more =>
      refine ⟨separator ++ separator.intercalate (s' :: more), ?_⟩
      rw [String.intercalate_cons_of_ne_nil (List.cons_ne_nil s' more), String.append_assoc]

theorem Html.itemText_eq (e : IndexEntry) : ∃ rest : String,
    (Format.html.itemText e).toList =
      "        <li class=\"component-item\">\n            <a ".toList ++
        ['h', 'r', 'e', 'f', '=', '"'] ++ ((e.name ++ ".html").toList ++ '"' :: rest.toList) := by
  obtain ⟨rest, hrest⟩ := exists_intercalate_cons "\n"
    ("            <a href=\"" ++ e.name ++ ".html\" class=\"component-link\">" ++ e.name ++ "</a>")
    (linesOf e.description
      ["            <p class=\"component-desc\">" ++ e.description ++ "</p>"] ++ ["        </li>"])
  refine ⟨" class=\"component-link\">" ++ e.name ++ "</a>" ++ rest, ?_⟩
  rw [Format.itemText, Format.indexItem, Html.indexItem, List.append_assoc, List.cons_append,
    List.cons_append, List.nil_append, String.intercalate_cons_of_ne_nil (List.cons_ne_nil _ _),
    hrest]
  simp [String.toList_append]

theorem Markdown.itemText_eq (e : IndexEntry) : ∃ rest : String,
    (Format.markdown.itemText e).toList =
      "- [".toList ++ e.name.toList ++ [']', '('] ++ ((e.name ++ ".md").toList ++ [')']) ++
        '\n' :: rest.toList := by
  refine ⟨"\n".intercalate (linesOf e.description ["  " ++ e.description] ++ [""]), ?_⟩
  rw [Format.itemText, Format.indexItem, Markdown.indexItem, List.cons_append,
    String.intercalate_cons_of_ne_nil (List.append_ne_nil_of_right_ne_nil _ (List.cons_ne_nil _ _))]
  simp [String.toList_append]

theorem Text.map_ofList_eq_some_iff {read : Option (List Char)} {s : String} :
    read.map String.ofList = some s ↔ read = some s.toList := by
  constructor
  · intro h
    obtain ⟨t, rfl, rfl⟩ := Option.map_eq_some_iff.mp h
    rw [String.toList_ofList]
  · rintro rfl
    rw [Option.map_some, String.ofList_toList]

/-- In HTML a link leads to the component's page if the name does not end the attribute. -/
theorem Html.linkTarget?_itemText (e : IndexEntry) :
    Format.html.linkTarget? (Format.html.itemText e) = some (e.name ++ ".html") ↔
      Format.html.Linkable e.name := by
  obtain ⟨rest, hitem⟩ := Html.itemText_eq e
  have hattribute := (Text.behind?_eq_some_iff (List.cons_ne_nil 'h' _)).mpr
    ⟨_, hitem, by decide +kernel⟩
  rw [Format.linkTarget?, hattribute, Option.bind_some, Text.map_ofList_eq_some_iff,
    Text.upTo?_eq_some_iff, Format.Linkable, and_iff_left ⟨rest.toList, rfl⟩, String.toList_append,
    List.mem_append, not_or]
  exact and_iff_left (by decide)

/-- Up to the bracket that ends the label of a link, the mark can only be in the label. -/
theorem Markdown.mark_infix_label_iff (label : List Char) :
    [']', '('] <:+: "- [".toList ++ label ++ [']'] ↔ [']', '('] <:+: label := by
  have hend : ¬[']', '('] <:+ label ++ [']'] := by
    rintro ⟨before, heq⟩
    have hlast := congrArg List.getLast? heq
    simp at hlast
  rw [List.append_assoc, show "- [".toList = ['-', ' ', '['] from rfl, List.cons_append,
    List.cons_append, List.cons_append, List.nil_append, List.infix_cons_iff, List.infix_cons_iff,
    List.infix_cons_iff, List.infix_concat_iff]
  simp [List.cons_prefix_cons, hend]

/-- In Markdown a link leads to the component's page if the name neither ends the link or its
line nor looks like the middle of a link. -/
theorem Markdown.linkTarget?_itemText (e : IndexEntry) :
    Format.markdown.linkTarget? (Format.markdown.itemText e) = some (e.name ++ ".md") ↔
      Format.markdown.Linkable e.name := by
  obtain ⟨rest, hitem⟩ := Markdown.itemText_eq e
  have hline : '\n' ∉ e.name.toList → (Format.markdown.itemText e).toList.takeWhile (· ≠ '\n') =
      "- [".toList ++ e.name.toList ++ [']', '('] ++ ((e.name ++ ".md").toList ++ [')']) := by
    intro hfeed
    rw [hitem, List.takeWhile_append_of_pos]
    · simp
    · intro c hc
      refine decide_eq_true fun heq => ?_
      subst heq
      simp [hfeed] at hc
  rw [Format.linkTarget?, Text.map_ofList_eq_some_iff, Option.bind_eq_some_iff]
  constructor
  · rintro ⟨target, hbehind, hupTo⟩
    obtain ⟨hparen, more, rfl⟩ := Text.upTo?_eq_some_iff.mp hupTo
    obtain ⟨before, heq, hfirst⟩ := (Text.behind?_eq_some_iff (List.cons_ne_nil ']' _)).mp hbehind
    rw [String.toList_append, List.mem_append, not_or] at hparen
    have hfeed : '\n' ∉ e.name.toList := by
      intro hmem
      have : '\n' ∈ (Format.markdown.itemText e).toList.takeWhile (· ≠ '\n') := by
        rw [heq]
        simp [hmem]
      simpa using List.mem_takeWhile_imp this
    -- the parenthesis at the end of the line is its only one, so that nothing follows the target
    have honly : ')' ∉ "- [".toList ++ e.name.toList ++ [']', '('] ++ (e.name ++ ".md").toList := by
      simp [hparen.1]
    rw [hline hfeed, ← List.append_assoc, ← List.append_assoc] at heq
    obtain ⟨hfront, -, -⟩ := (List.append_cons_inj_of_notMem honly List.not_mem_nil).mp heq
    obtain rfl := List.append_cancel_right (List.append_cancel_right hfront)
    exact ⟨hparen.1, hfeed, mt (Markdown.mark_infix_label_iff _).mpr hfirst⟩
  · rintro ⟨hparen, hfeed, hmark⟩
    refine ⟨(e.name ++ ".md").toList ++ [')'], ?_, ?_⟩
    · rw [hline hfeed]
      exact (Text.behind?_eq_some_iff (List.cons_ne_nil ']' _)).mpr
        ⟨_, rfl, mt (Markdown.mark_infix_label_iff _).mp hmark⟩
    · exact Text.upTo?_eq_some_iff.mpr ⟨by simp [hparen], [], rfl⟩

/-- A link leads to the component's page exactly if the name has no mark in it that the
format reads a link by. -/
theorem Format.linkTarget?_itemText (f : Format) (e : IndexEntry) :
    f.linkTarget? (f.itemText e) = some (e.name ++ "." ++ f.extension) ↔ f.Linkable e.name := by
  rw [String.append_assoc]
  cases f with
  | markdown => exact Markdown.linkTarget?_itemText e
  | html => exact Html.linkTarget?_itemText e

/-! ## The index page as a list of items -/

theorem Format.indexItem_ne_nil (f : Format) (e : IndexEntry) : f.indexItem e ≠ [] := by
  cases f with
  | markdown => exact List.cons_ne_nil _ _
  | html => exact List.append_ne_nil_of_right_ne_nil _ (List.cons_ne_nil _ _)

/-- The layout ends the last line of an item as well. -/
theorem Format.item_indexLayout (f : Format) (e : IndexEntry) :
    f.indexLayout.item e = f.itemText e ++ "\n" := by
  rw [itemText, Text.intercalate_append_feed (f.indexItem_ne_nil e)]
  cases f with
  | markdown => exact (Markdown.unlines_indexItem e).symm
  | html => exact (Html.unlines_indexItem e).symm

/-- Between its head and its tail the index page is made up of its items, each with the end of
its last line. -/
theorem Page.body_index_items (config : Config) (entries : List IndexEntry) (custom : String) :
    (index config entries custom).body =
      config.format.indexLayout.head config custom ++
        String.join (entries.map fun e => config.format.itemText e ++ "\n") ++
        config.format.indexLayout.tail := by
  rw [(body_index config entries custom).1, funext config.format.item_indexLayout]

end ComponentReference
