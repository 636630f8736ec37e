import ComponentReference.Proofs.Host.LinkFree
import Mathlib.Logic.Relation

/-!
# What names lead to along links

`Resolves` says to which place names lead, whether or not anything is there: along every
link that can be looked at, and otherwise as they are written, a double dot taking back the
name before it.  A link that the system refuses to look at, for its path is too long or a
directory on the way may not be entered, is a name like any other (`LinkAt`).

* Names lead to one place at most (`Resolves.unique`), and one after the other
  (`resolves_append_iff`).
* The place is `Normal`: no link that can be looked at is on the way to it
  (`Resolves.normal`).  So its own names lead to it again (`Normal.resolves_self`).

Some names lead to no place, because a link on the way leads back to itself before it leads
anywhere.  In a file system that is `Acyclic` there is no such link.
-/

namespace ComponentReference.FileSystem

variable {fs : FileSystem} {here l l' k m : Location} {name target : String}
  {names rest : List String}

/-! ## Links that can be looked at -/

/-- Nothing keeps the user from looking at the place by its own path. -/
structure Shown (fs : FileSystem) (l : Location) : Prop where
  text : textFault? l.path.text = none
  passable : fs.Passable [] l

/-- A link that can be looked at is at the place. -/
def LinkAt (fs : FileSystem) (l : Location) (target : String) : Prop :=
  fs.get? l = some (.link target) ∧ fs.Shown l

theorem LinkAt.unique {target' : String} (h : fs.LinkAt l target) (h' : fs.LinkAt l target') :
    target = target' := by
  simpa using h.1.symm.trans h'.1

/-- The text of a place continues the text of a place above it. -/
theorem exists_text_append (h : k <+: l) : ∃ more, l.path.text = k.path.text ++ more := by
  obtain ⟨after, rfl⟩ := h
  rcases k with _ | ⟨first, before⟩
  · exact ⟨"/".intercalate after, by simp [Location.path, Path.text]⟩
  rcases after with _ | ⟨next, after⟩
  · exact ⟨"", by simp⟩
  · refine ⟨"/" ++ "/".intercalate (next :: after), ?_⟩
    simp only [Location.path, Path.text]
    rw [String.intercalate_append_of_ne_nil (by simp) (by simp)]
    simp only [String.append_assoc]

/-- What keeps no one from looking at a place does not keep him from looking at those above. -/
theorem textFault?_of_prefix (h : k <+: l) (hl : textFault? l.path.text = none) :
    textFault? k.path.text = none := by
  obtain ⟨more, hmore⟩ := exists_text_append h
  rw [textFault?_eq_none_iff, hmore] at hl
  refine textFault?_eq_none_iff.mpr
    ⟨fun hnul => ?_, Path.text_ne_empty (by simp [Location.path]), ?_⟩
  · exact hl.1 ((hasNul_append ..).mpr (.inl hnul))
  · have hsize : Utf8.size (k.path.text ++ more) = Utf8.size k.path.text + Utf8.size more := by
      simp [Utf8.size, Utf8.encode]
    omega

/-! ## Where names lead -/

/-- The names lead from the first place to the second one, along every link that can be
looked at. -/
inductive Resolves (fs : FileSystem) : Location → List String → Location → Prop where
  | here (l : Location) : Resolves fs l [] l
  | up {l m : Location} {rest : List String} (h : Resolves fs l.dropLast rest m) :
      Resolves fs l (".." :: rest) m
  | name {l m : Location} {name : String} {rest : List String} (hname : name ≠ "..")
      (hnul : ¬ HasNul name) (hlink : ∀ target, ¬ fs.LinkAt (l ++ [name]) target)
      (h : Resolves fs (l ++ [name]) rest m) : Resolves fs l (name :: rest) m
  | link {l k m : Location} {name target : String} {rest : List String} (hname : name ≠ "..")
      (hlink : fs.LinkAt (l ++ [name]) target)
      (htarget : Resolves fs (start l target) (Path.namesIn target) k)
      (h : Resolves fs k rest m) : Resolves fs l (name :: rest) m

theorem Resolves.unique (h : fs.Resolves l names m) {m' : Location}
    (h' : fs.Resolves l names m') : m = m' := by
  induction h generalizing m' with
  | here l => cases h'; rfl
  | up h ih =>
      cases h' with
      | up h' => exact ih h'
      | name hname => exact absurd rfl hname
      | link hname => exact absurd rfl hname
  | name hname hnul hlink h ih =>
      cases h' with
      | up h' => exact absurd rfl hname
      | name hname' hnul' hlink' h' => exact ih h'
      | link hname' hlink' => exact absurd hlink' (hlink _)
  | link hname hlink htarget h ihtarget ih =>
      cases h' with
      | up h' => exact absurd rfl hname
      | name hname' hnul' hlink' h' => exact absurd hlink (hlink' _)
      | link hname' hlink' htarget' h' =>
          obtain rfl := hlink.unique hlink'
          obtain rfl := ihtarget htarget'
          exact ih h'

theorem resolves_append_iff {more : List String} :
    fs.Resolves l (names ++ more) m ↔ ∃ k, fs.Resolves l names k ∧ fs.Resolves k more m := by
  constructor
  · intro h
    induction names generalizing l with
    | nil => exact ⟨l, .here l, h⟩
    | cons name rest ih =>
        cases h with
        | up h =>
            obtain ⟨k, hrest, hmore⟩ := ih h
            exact ⟨k, .up hrest, hmore⟩
        | name hname hnul hlink h =>
            obtain ⟨k, hrest, hmore⟩ := ih h
            exact ⟨k, .name hname hnul hlink hrest, hmore⟩
        | link hname hlink htarget h =>
            obtain ⟨k, hrest, hmore⟩ := ih h
            exact ⟨k, .link hname hlink htarget hrest, hmore⟩
  · rintro ⟨k, hnames, hmore⟩
    induction hnames with
    | here l => exact hmore
    | up h ih => exact .up (ih hmore)
    | name hname hnul hlink h ih => exact .name hname hnul hlink (ih hmore)
    | link hname hlink htarget h _ ih => exact .link hname hlink htarget (ih hmore)

theorem resolves_cons_iff :
    fs.Resolves l (name :: rest) m ↔ ∃ k, fs.Resolves l [name] k ∧ fs.Resolves k rest m :=
  @resolves_append_iff fs l m [name] rest

/-! ## Places without links on the way -/

/-- The names of the place could be those of a path, and no link that can be looked at is on
the way to it. -/
structure Normal (fs : FileSystem) (l : Location) : Prop where
  proper : ∀ name ∈ l, Path.Proper name
  noNul : ∀ name ∈ l, ¬ HasNul name
  noLink : ∀ k target, k <+: l → ¬ fs.LinkAt k target

theorem normal_root (fs : FileSystem) : fs.Normal [] := by
  refine ⟨by simp, by simp, fun k target hk hlink => ?_⟩
  obtain rfl := List.prefix_nil.mp hk
  simpa using hlink.1

theorem Normal.of_prefix (h : fs.Normal l) (hk : k <+: l) : fs.Normal k :=
  ⟨fun name hname => h.proper name (hk.subset hname),
    fun name hname => h.noNul name (hk.subset hname),
    fun k' target hk' => h.noLink k' target (hk'.trans hk)⟩

theorem Normal.concat (h : fs.Normal l) (hname : Path.Proper name) (hnul : ¬ HasNul name)
    (hlink : ∀ target, ¬ fs.LinkAt (l ++ [name]) target) : fs.Normal (l ++ [name]) := by
  refine ⟨fun other hother => ?_, fun other hother => ?_, fun k target hk => ?_⟩
  · rcases List.mem_append.mp hother with hold | hnew
    · exact h.proper other hold
    · rwa [List.mem_singleton.mp hnew]
  · rcases List.mem_append.mp hother with hold | hnew
    · exact h.noNul other hold
    · rwa [List.mem_singleton.mp hnew]
  · rcases List.prefix_concat_iff.mp hk with rfl | hk
    · exact hlink target
    · exact h.noLink k target hk

theorem Normal.isSettled (h : fs.Normal l) : l.path.IsSettled :=
  ⟨by simp [Location.path], h.proper⟩

theorem Normal.start (h : fs.Normal l) (text : String) : fs.Normal (start l text) := by
  unfold FileSystem.start
  split
  · exact fs.normal_root
  · exact h

theorem Resolves.normal (h : fs.Resolves l names m) (hl : fs.Normal l)
    (hnames : ∀ name ∈ names, name = ".." ∨ Path.Proper name) : fs.Normal m := by
  induction h with
  | here l => exact hl
  | up h ih => exact ih (hl.of_prefix (List.dropLast_prefix _)) (List.forall_mem_cons.mp hnames).2
  | name hname hnul hlink h ih =>
      obtain ⟨hfirst, hrest⟩ := List.forall_mem_cons.mp hnames
      exact ih (hl.concat (hfirst.resolve_left hname) hnul hlink) hrest
  | link hname hlink htarget h ihtarget ih =>
      exact ih (ihtarget (hl.start _) (Path.written_ofString _)) (List.forall_mem_cons.mp hnames).2

/-- Names on which no link is met lead to the place that they make up. -/
theorem Normal.resolves (h : fs.Normal (l ++ names)) : fs.Resolves l names (l ++ names) := by
  induction names generalizing l with
  | nil => simpa using Resolves.here l
  | cons name rest ih =>
      have hsplit : l ++ name :: rest = l ++ [name] ++ rest := by simp
      refine .name (h.proper name (by simp)).2.2.1 (h.noNul name (by simp)) (fun target => ?_) ?_
      · exact h.noLink _ target ⟨rest, by simp⟩
      · rw [hsplit] at h ⊢
        exact ih h

theorem Normal.resolves_self (h : fs.Normal l) : fs.Resolves [] l l :=
  Normal.resolves (l := []) h

/-! ## Looking at such places -/

/-- One who comes to a link on the way to a place could have looked at it. -/
theorem unfollowed_of_linkAt {manner : Manner} (htext : textFault? l.path.text = none)
    (hlinks : ∀ k target, k <+: l → fs.LinkAt k target → k = l ∧ manner.followLast = false) :
    fs.Unfollowed manner [] l := by
  intro before name after target hsplit hlink
  refine or_iff_not_imp_right.mpr fun hpass => ?_
  have hway : before ++ [name] <+: l := ⟨after, by rw [hsplit]; simp⟩
  obtain ⟨hend, hlast⟩ :=
    hlinks _ target hway ⟨hlink, textFault?_of_prefix hway htext, not_not.mp hpass⟩
  exact ⟨by simpa [hsplit] using hend, hlast⟩

/-- What is found at a place is what is there, unless something keeps the user from looking. -/
theorem locate_unfollowed (tree : fs.IsTree) (hl : ∀ name ∈ l, Path.Proper name)
    (htext : textFault? l.path.text = none) (here : Location) {manner : Manner}
    (hcreating : manner.creating = false) (hending : manner.ending = .name)
    (hlinks : fs.Unfollowed (manner.endingAs l.path.text) [] l) :
    fs.Passable [] l ∧ fs.locate here manner l.path.text = .ok ⟨l, fs.get? l⟩ ∨
      (fs.get? l = none ∨ ¬ fs.Passable [] l) ∧ ∃ e, e ≠ .linkLoop ∧
        fs.locate here manner l.path.text = .error (.system e l.path.text) := by
  have hsettled : l.path.IsSettled := ⟨by simp [Location.path], hl⟩
  have hname : l ≠ [] → (manner.endingAs l.path.text).ending = .name := fun hne => by
    rw [Manner.endingAs, if_pos hending]
    simpa [Manner.endingAs] using ending_settled hsettled hne
  have hwalk := @walk_settled fs tree maxLinks (manner.endingAs l.path.text) hcreating l hlinks
    hname hl
  have hlocate : fs.locate here manner l.path.text =
      (fs.walk maxLinks (manner.endingAs l.path.text) [] l).mapError (.system · l.path.text) :=
    locate_settled hsettled htext here manner
  rcases hwalk with ⟨hpass, hfound | ⟨hnone, hfound | hfound⟩⟩ | ⟨hpass, hfound | hfound⟩ <;>
    rw [hfound] at hlocate
  · exact .inl ⟨hpass, hlocate⟩
  · exact .inr ⟨.inl hnone, _, by simp, hlocate⟩
  · exact .inr ⟨.inl hnone, _, by simp, hlocate⟩
  · exact .inr ⟨.inr hpass, _, by simp, hlocate⟩
  · exact .inr ⟨.inr hpass, _, by simp, hlocate⟩

theorem hasNul_concat (hl : fs.Normal l) (name : String) :
    HasNul (l ++ [name]).path.text ↔ HasNul name := by
  rw [hasNul_text_iff]
  refine ⟨fun ⟨other, hother, h⟩ => ?_, fun h => ⟨name, by simp [Location.path], h⟩⟩
  rcases List.mem_append.mp hother with hold | hnew
  · exact absurd h (hl.noNul other hold)
  · rwa [← List.mem_singleton.mp hnew]

/-- One name further than a normal place a link is seen if there is one that can be looked at. -/
theorem linkTarget?_concat (tree : fs.IsTree) (hl : fs.Normal l) (hname : Path.Proper name)
    (here : Location) :
    HasNul name ∧ fs.linkTarget? here (l ++ [name]).path = .error .embeddedNul ∨
      (∃ target, fs.LinkAt (l ++ [name]) target ∧
        fs.linkTarget? here (l ++ [name]).path = .ok (some target)) ∨
      ¬ HasNul name ∧ (∀ target, ¬ fs.LinkAt (l ++ [name]) target) ∧
        fs.linkTarget? here (l ++ [name]).path = .ok none := by
  by_cases hnul : HasNul name
  · have htext := textFault?_eq_embeddedNul_iff.mpr ((hasNul_concat hl name).mpr hnul)
    exact .inl ⟨hnul, by rw [linkTarget?, locate_of_textFault htext]⟩
  refine .inr ?_
  cases htext : textFault? (l ++ [name]).path.text with
  | some fault =>
      refine .inr ⟨hnul, fun target hlink => by simp [hlink.2.text] at htext, ?_⟩
      rw [linkTarget?, locate_of_textFault htext]
      split
      · next heq => simp at heq
      · next heq =>
          rw [Except.error.inj heq, textFault?_eq_embeddedNul_iff, hasNul_concat hl] at htext
          exact absurd htext hnul
      · rfl
  | none =>
      have hlooked := @locate_unfollowed fs (l ++ [name]) tree (hl.isSettled.child hname).proper
        htext here { followLast := false } rfl rfl
        (unfollowed_of_linkAt htext fun k target hk hlink =>
          (List.prefix_concat_iff.mp hk).elim (fun heq => ⟨heq, rfl⟩)
            fun habove => absurd hlink (hl.noLink k target habove))
      rw [linkTarget?]
      rcases hlooked with ⟨hpass, hlocate⟩ | ⟨hno, e, -, hlocate⟩ <;> rw [hlocate]
      · by_cases hlink : ∃ target, fs.get? (l ++ [name]) = some (.link target)
        · obtain ⟨target, hget⟩ := hlink
          exact .inl ⟨target, ⟨hget, htext, hpass⟩, by rw [hget]⟩
        · refine .inr ⟨hnul, fun target h => hlink ⟨target, h.1⟩, ?_⟩
          split
          · next heq => exact absurd ⟨_, (Spot.mk.inj (Except.ok.inj heq)).2⟩ hlink
          · next heq => simp at heq
          · rfl
      · refine .inr ⟨hnul, fun target hlink => ?_, rfl⟩
        rcases hno with hnone | hnot
        · simp [hlink.1] at hnone
        · exact hnot hlink.2.passable

/-- Looking at a normal place never goes round in a circle. -/
theorem stat_normal (tree : fs.IsTree) (hl : fs.Normal l) (here : Location) :
    fs.stat here l.path.text ≠ .error .embeddedNul ∧
      ∀ text, fs.stat here l.path.text ≠ .error (.system .linkLoop text) := by
  have hnul : ¬ HasNul l.path.text := fun h => by
    obtain ⟨name, hname, hhas⟩ := (hasNul_text_iff _).mp h
    exact hl.noNul name hname hhas
  unfold stat
  cases htext : textFault? l.path.text with
  | some fault =>
      rw [locate_of_textFault htext]
      refine ⟨fun h => ?_, fun text h => ?_⟩ <;> rw [Except.error.inj h] at htext
      · exact hnul (textFault?_eq_embeddedNul_iff.mp htext)
      · exact textFault?_ne_linkLoop _ text htext
  | none =>
      have hlooked := @locate_unfollowed fs l tree hl.proper htext here {} rfl rfl
        (unfollowed_of_linkAt htext fun k target hk hlink => absurd hlink (hl.noLink k target hk))
      rcases hlooked with ⟨-, hlocate⟩ | ⟨-, e, he, hlocate⟩ <;> rw [hlocate]
      · cases fs.get? l <;> simp
      · simp [he]

/-! ## Links that lead through links -/

/-- Following the names from the place, one comes to the link. -/
def Meets (fs : FileSystem) (l : Location) (names : List String) (l' : Location) : Prop :=
  ∃ before name after k target, names = before ++ name :: after ∧ fs.Resolves l before k ∧
    name ≠ ".." ∧ l' = k ++ [name] ∧ fs.LinkAt l' target

theorem not_meets_nil : ¬ fs.Meets l [] l' := by
  rintro ⟨before, name, after, k, target, hsplit, -⟩
  simp at hsplit

theorem meets_cons_iff :
    fs.Meets l (name :: rest) l' ↔
      (name ≠ ".." ∧ l' = l ++ [name] ∧ ∃ target, fs.LinkAt l' target) ∨
        ∃ k, fs.Resolves l [name] k ∧ fs.Meets k rest l' := by
  constructor
  · rintro ⟨before, other, after, k, target, hsplit, hbefore, hother, hl', hlink⟩
    rcases before with _ | ⟨first, before⟩
    · obtain ⟨rfl, rfl⟩ := List.cons.inj hsplit
      cases hbefore
      exact .inl ⟨hother, hl', target, hlink⟩
    · obtain ⟨rfl, rfl⟩ := List.cons.inj hsplit
      obtain ⟨k', hfirst, hrest⟩ := resolves_cons_iff.mp hbefore
      exact .inr ⟨k', hfirst, before, other, after, k, target, rfl, hrest, hother, hl', hlink⟩
  · rintro (⟨hname, hl', target, hlink⟩ | ⟨k, hfirst, before, other, after, k', target, rfl, h⟩)
    · exact ⟨[], name, rest, l, target, rfl, .here l, hname, hl', hlink⟩
    · exact ⟨name :: before, other, after, k', target, rfl,
        resolves_cons_iff.mpr ⟨k, hfirst, h.1⟩, h.2⟩

/-- Following the link at the first place, one comes to the link at the second one. -/
def LeadsThrough (fs : FileSystem) (l l' : Location) : Prop :=
  ∃ target, fs.LinkAt l target ∧ fs.Meets (start l.dropLast target) (Path.namesIn target) l'

/-- Following a link, and the links that one comes to, one never comes back to it. -/
def Acyclic (fs : FileSystem) : Prop :=
  ∀ l, ¬ Relation.TransGen fs.LeadsThrough l l

/-- No link leads back to itself if each one meets only those of higher rank. -/
theorem acyclic_of_rank (rank : Location → Nat)
    (h : ∀ l target, (l, Entry.link target) ∈ fs.entries →
      ∀ l', fs.Meets (start l.dropLast target) (Path.namesIn target) l' → rank l < rank l') :
    fs.Acyclic := by
  have hstep : ∀ {l l'}, fs.LeadsThrough l l' → rank l < rank l' := by
    rintro l l' ⟨target, hlink, hmeets⟩
    have hne : l ≠ [] := by
      rintro rfl
      simpa using hlink.1
    exact h l target (mem_entries_of_get? hlink.1 hne) l' hmeets
  intro l hcycle
  have hlt : ∀ {l'}, Relation.TransGen fs.LeadsThrough l l' → rank l < rank l' := fun hway => by
    induction hway with
    | single h => exact hstep h
    | tail _ h ih => exact Nat.lt_trans ih (hstep h)
  exact Nat.lt_irrefl _ (hlt hcycle)

end ComponentReference.FileSystem
