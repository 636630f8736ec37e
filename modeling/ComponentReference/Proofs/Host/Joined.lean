import ComponentReference.Proofs.Host.Writing
import Mathlib.Data.List.Nodup

/-!
# Files with several names

A file can have several names, and what is written by one of them is seen by all.  So a
write into a directory reaches places outside of it, and it reaches other entries of the
directory if these are names of the same file.  `Apart` excludes only the latter.

In such a directory every place is reached by one entry at most.  That is why the pages
that are written there leave the same in whatever order they are written, as long as
their names differ: `cover_perm`.
-/

namespace ComponentReference.FileSystem

variable {fs fs' : FileSystem} {place l m : Location} {name other : String} {content : Bytes}

/-! ## What a write reaches -/

/-- The places where something else is after a write at a place: those of all names of the
file there. -/
def reached (fs : FileSystem) (l : Location) : List Location :=
  match fs.get? l with
  | some (.file _) => fs.namesOf l
  | _ => [l]

theorem reached_of_file {old : Bytes} (h : fs.get? l = some (.file old)) :
    fs.reached l = fs.namesOf l := by
  rw [reached, h]

theorem reached_of_no_file (h : ∀ old, fs.get? l ≠ some (.file old)) : fs.reached l = [l] := by
  unfold reached
  split
  · next old hfile => exact absurd hfile (h old)
  · rfl

theorem mem_reached_self (fs : FileSystem) (l : Location) : l ∈ fs.reached l := by
  unfold reached
  split
  · exact fs.mem_namesOf_self l
  · exact List.mem_singleton_self l

/-- In the directory at the place is no link, and no two entries of it are names of one
file.  A file that is there is one and the same by all its names. -/
structure Apart (fs : FileSystem) (place : Location) : Prop where
  noLink : ∀ name target, fs.get? (place ++ [name]) ≠ some (.link target)
  same : ∀ name, ∀ l ∈ fs.reached (place ++ [name]),
    fs.get? l = fs.get? (place ++ [name]) ∧ fs.attributesAt l = fs.attributesAt (place ++ [name])
  apart : ∀ name other, place ++ [other] ∈ fs.reached (place ++ [name]) → other = name

namespace Apart

theorem oneFile (h : fs.Apart place) {old : Bytes}
    (hfile : fs.get? (place ++ [name]) = some (.file old)) : fs.OneFile (place ++ [name]) := by
  intro l hl
  rw [← reached_of_file hfile] at hl
  exact h.same name l hl

/-- A write at any of the places that are reached reaches the others. -/
theorem reached_eq (h : fs.Apart place) (hl : l ∈ fs.reached (place ++ [name])) :
    fs.reached l = fs.reached (place ++ [name]) := by
  obtain ⟨hget, hattributes⟩ := h.same name l hl
  by_cases hfile : ∃ old, fs.get? (place ++ [name]) = some (.file old)
  · obtain ⟨old, hold⟩ := hfile
    rw [reached_of_file hold] at hl ⊢
    rw [reached_of_file (hget.trans hold)]
    unfold namesOf at hl ⊢
    rw [hattributes]
    cases hnumber : (fs.attributesAt (place ++ [name])).number? with
    | none =>
        rw [hnumber] at hl
        rw [List.mem_singleton.mp hl]
    | some n => rfl
  · rw [reached_of_no_file fun old hold => hfile ⟨old, hold⟩] at hl
    rw [List.mem_singleton.mp hl]

/-- No place is reached by two entries. -/
theorem name_eq (h : fs.Apart place) (hname : l ∈ fs.reached (place ++ [name]))
    (hother : l ∈ fs.reached (place ++ [other])) : other = name := by
  refine h.apart name other ?_
  rw [← h.reached_eq hname, h.reached_eq hother]
  exact fs.mem_reached_self _

/-! ## What one write changes -/

theorem get?_written (h : fs.Apart place) (name : String) (content : Bytes) (l : Location) :
    (fs.written (place ++ [name]) content).get? l =
      if l ∈ fs.reached (place ++ [name]) then Entry.overwritten content (fs.get? l)
      else fs.get? l := by
  unfold written
  split
  · next hnone =>
      rw [get?_make, reached_of_no_file (by simp [hnone])]
      by_cases hl : l = place ++ [name]
      · simp [hl, hnone, Entry.overwritten]
      · simp [hl]
  · next old hfile =>
      rw [get?_fill, reached_of_file hfile]
      by_cases hl : l ∈ fs.namesOf (place ++ [name])
      · have hget := (h.oneFile hfile).get?_eq hfile hl
        have hnil : l ≠ [] := by
          rintro rfl
          cases hget
        simp [hl, hnil, hget, Entry.overwritten]
      · simp [hl]
  · next e hfile hget =>
      have hno : ∀ old, fs.get? (place ++ [name]) ≠ some (.file old) := by
        intro old hold
        rw [hget] at hold
        exact hfile old (Option.some_inj.mp hold)
      rw [reached_of_no_file hno]
      split
      · next hl =>
          rw [List.mem_singleton.mp hl, hget]
          cases e with
          | file old => exact absurd rfl (hfile old)
          | _ => rfl
      · rfl

theorem attributesAt_written (h : fs.Apart place) (name : String) (content : Bytes)
    (l : Location) :
    (fs.written (place ++ [name]) content).attributesAt l =
      if l ∈ fs.reached (place ++ [name]) then
        (fs.written (place ++ [name]) content).attributesAt (place ++ [name])
      else fs.attributesAt l := by
  split
  · next hl =>
      unfold written
      split
      · next hnone =>
          rw [reached_of_no_file (by simp [hnone])] at hl
          rw [List.mem_singleton.mp hl]
      · next old hfile =>
          rw [reached_of_file hfile] at hl
          rw [attributesAt_fill (h.oneFile hfile) hfile, if_pos hl,
            attributesAt_fill (h.oneFile hfile) hfile, if_pos (fs.mem_namesOf_self _)]
      · exact (h.same name l hl).2
  · next hl =>
      have hne : l ≠ place ++ [name] := by
        rintro rfl
        exact hl (fs.mem_reached_self _)
      unfold written
      split
      · exact attributesAt_make_of_ne fs _ _ hne
      · next old hfile =>
          rw [reached_of_file hfile] at hl
          rw [attributesAt_fill (h.oneFile hfile) hfile, if_neg hl]
      · rfl

theorem grows_written (h : fs.Apart place) (name : String) (content : Bytes) :
    fs.Grows (fs.written (place ++ [name]) content) :=
  grows_written_of_oneFile (fun _ => h.oneFile) content

/-! ## What one write leaves as it is -/

/-- A file keeps its names, whatever is written into the directory. -/
theorem mem_namesOf_written (h : fs.Apart place) (name : String) (content : Bytes)
    (hone : fs.OneFile l) (hthere : fs.get? l ≠ none) :
    m ∈ (fs.written (place ++ [name]) content).namesOf l ↔ m ∈ fs.namesOf l := by
  unfold written
  split
  · next hnone => exact mem_namesOf_make _ _ hnone hone hthere
  · next old hfile =>
      exact ⟨mem_namesOf_of_fill (h.oneFile hfile) hfile,
        hone.mem_namesOf fun m _ => number?_fill (h.oneFile hfile) hfile m⟩
  · rfl

/-- Every entry of the directory reaches the same as before. -/
theorem mem_reached_written (h : fs.Apart place) (name : String) (content : Bytes)
    (other : String) : m ∈ (fs.written (place ++ [name]) content).reached (place ++ [other]) ↔
      m ∈ fs.reached (place ++ [other]) := by
  by_cases hfile : ∃ old, fs.get? (place ++ [other]) = some (.file old)
  · obtain ⟨old, hold⟩ := hfile
    obtain ⟨e, he, hlike⟩ := (h.grows_written name content).kept hold
    have hnew : ∃ new, e = .file new := by
      cases hlike with
      | same => exact ⟨old, rfl⟩
      | files _ new => exact ⟨new, rfl⟩
    obtain ⟨new, rfl⟩ := hnew
    rw [reached_of_file he, reached_of_file hold]
    exact h.mem_namesOf_written name content (h.oneFile hold) (by simp [hold])
  have hno : ∀ old, fs.get? (place ++ [other]) ≠ some (.file old) :=
    fun old hold => hfile ⟨old, hold⟩
  rw [reached_of_no_file hno, List.mem_singleton]
  by_cases hmade : other = name ∧ fs.get? (place ++ [name]) = none
  · -- the file that is made has one name
    obtain ⟨rfl, hnone⟩ := hmade
    have hone : (fs.written (place ++ [other]) content).OneName (place ++ [other]) := by
      rw [written, hnone]
      exact fs.oneName_make_self _ _ _
    have hnew : (fs.written (place ++ [other]) content).get? (place ++ [other]) =
        some (.file content) := by
      rw [h.get?_written, if_pos (fs.mem_reached_self _), hnone, Entry.overwritten]
    rw [reached_of_file hnew]
    exact ⟨hone m, fun hm => hm ▸ mem_namesOf_self _ _⟩
  · rw [reached_of_no_file, List.mem_singleton]
    intro new hnew
    rw [h.get?_written] at hnew
    split at hnew
    · next hmem =>
        obtain rfl := h.apart name other hmem
        rcases hget : fs.get? (place ++ [other]) with _ | _ | old | _ | _ | _
        case none => exact hmade ⟨rfl, hget⟩
        case some.file => exact hno old hget
        all_goals
          rw [hget] at hnew
          cases hnew
    · exact hno new hnew

theorem written (h : fs.Apart place) (name : String) (content : Bytes) :
    (fs.written (place ++ [name]) content).Apart place := by
  refine ⟨fun other target hlink => ?_, fun other l hl => ?_, fun other other' hmem => ?_⟩
  · rw [h.get?_written] at hlink
    split at hlink
    · rcases Entry.overwritten_cases hlink with hold | hfile
      · exact h.noLink other target hold
      · cases hfile
    · exact h.noLink other target hlink
  · rw [h.mem_reached_written] at hl
    have hself := fs.mem_reached_self (place ++ [other])
    obtain ⟨hget, hattributes⟩ := h.same other l hl
    by_cases hother : other = name
    · subst hother
      refine ⟨?_, ?_⟩
      · rw [h.get?_written, h.get?_written, if_pos hl, if_pos hself, hget]
      · rw [h.attributesAt_written, if_pos hl]
    · have hnot : ∀ {k}, k ∈ fs.reached (place ++ [other]) → k ∉ fs.reached (place ++ [name]) :=
        fun hk hname => hother (h.name_eq hname hk)
      refine ⟨?_, ?_⟩
      · rw [h.get?_written, h.get?_written, if_neg (hnot hl), if_neg (hnot hself), hget]
      · rw [h.attributesAt_written, if_neg (hnot hl), h.attributesAt_written,
          if_neg (hnot hself), hattributes]
  · exact h.apart other other' ((h.mem_reached_written name content other).mp hmem)

end Apart

/-! ## Directories that are new -/

/-- No entries are apart. -/
theorem apart_of_empty (h : ∀ name, fs.get? (place ++ [name]) = none) : fs.Apart place := by
  have hreached : ∀ name, fs.reached (place ++ [name]) = [place ++ [name]] :=
    fun name => reached_of_no_file (by simp [h])
  refine ⟨by simp [h], fun name l hl => ?_, fun name other hmem => ?_⟩
  · rw [hreached] at hl
    rw [List.mem_singleton.mp hl]
    exact ⟨rfl, rfl⟩
  · rw [hreached] at hmem
    exact List.singleton_inj.mp (List.append_cancel_left (List.mem_singleton.mp hmem))

/-- The entries of the output directory are apart when it has been made, or was there
already. -/
theorem Reached.apart {p : Path} (hreached : fs.Reached fs' p)
    (hmade : fs.Made fs' (fs.placeOf p)) (tree : fs.IsTree) (h : fs.Apart (fs.placeOf p)) :
    fs'.Apart (fs.placeOf p) ∧ ∀ name,
      fs'.reached (fs.placeOf p ++ [name]) = fs.reached (fs.placeOf p ++ [name]) := by
  rcases hreached.new with rfl | hnone
  · exact ⟨h, fun _ => rfl⟩
  have hempty : ∀ name, fs.get? (fs.placeOf p ++ [name]) = none :=
    fun name => tree.get?_append_eq_none (by simp [hnone]) (by simp)
  have hempty' : ∀ name, fs'.get? (fs.placeOf p ++ [name]) = none :=
    fun name => (hmade.get?_child name).trans (hempty name)
  refine ⟨apart_of_empty hempty', fun name => ?_⟩
  rw [reached_of_no_file (by simp [hempty']), reached_of_no_file (by simp [hempty])]

/-! ## A list of writes -/

/-- What is at a place after pages have been written into a directory one after the
other, if `e?` was there before. -/
def cover (fs : FileSystem) (place : Location) (pages : List (String × Bytes)) (l : Location)
    (e? : Option Entry) : Option Entry :=
  pages.foldl (fun e? page =>
    if l ∈ fs.reached (place ++ [page.1]) then Entry.overwritten page.2 e? else e?) e?

variable {pages pages' : List (String × Bytes)} {e? : Option Entry}

theorem cover_append (fs : FileSystem) (place : Location) (before after : List (String × Bytes))
    (l : Location) (e? : Option Entry) :
    fs.cover place (before ++ after) l e? =
      fs.cover place after l (fs.cover place before l e?) :=
  List.foldl_append

theorem cover_of_not_mem (h : ∀ page ∈ pages, l ∉ fs.reached (place ++ [page.1])) :
    fs.cover place pages l e? = e? := by
  induction pages generalizing e? with
  | nil => rfl
  | cons page rest ih =>
      rw [cover, List.foldl_cons, if_neg (h page (List.mem_cons_self ..))]
      exact ih fun page' hpage' => h page' (List.mem_cons_of_mem _ hpage')

/-- The order of pages with different names does not matter, as no place is reached by two
of them. -/
theorem cover_perm (h : fs.Apart place) (hperm : pages.Perm pages')
    (hnames : (pages.map Prod.fst).Nodup) (l : Location) (e? : Option Entry) :
    fs.cover place pages l e? = fs.cover place pages' l e? := by
  refine hperm.foldl_eq' (fun page hpage page' hpage' e? => ?_) e?
  by_cases hfirst : l ∈ fs.reached (place ++ [page.1]) <;>
    by_cases hsecond : l ∈ fs.reached (place ++ [page'.1])
  · have hsame : page' = page :=
      List.inj_on_of_nodup_map hnames hpage' hpage (h.name_eq hfirst hsecond)
    rw [hsame]
  · simp only [if_pos hfirst, if_neg hsecond]
  · simp only [if_neg hfirst, if_pos hsecond]
  · simp only [if_neg hfirst, if_neg hsecond]

/-- The second file system is the first one with pages written into the directory at the
place, one after the other, by whatever names their files have. -/
structure Covered (fs fs' : FileSystem) (place : Location) (pages : List (String × Bytes)) :
    Prop where
  tree : fs'.IsTree
  apart : fs'.Apart place
  grows : fs.Grows fs'
  reached : ∀ name l, l ∈ fs'.reached (place ++ [name]) ↔ l ∈ fs.reached (place ++ [name])
  get? : ∀ l, fs'.get? l = fs.cover place pages l (fs.get? l)

theorem Covered.refl (tree : fs.IsTree) (apart : fs.Apart place) : fs.Covered fs place [] :=
  ⟨tree, apart, .refl fs, fun _ _ => Iff.rfl, fun _ => rfl⟩

/-- One more page is written. -/
theorem Covered.written (h : fs.Covered fs' place pages) (hdir : fs.get? place = some .directory)
    (hname : Path.Proper name) (content : Bytes) :
    fs.Covered (fs'.written (place ++ [name]) content) place (pages ++ [(name, content)]) := by
  have hdir' := h.grows.directory hdir
  refine ⟨h.tree.written_of_oneFile (fun _ => h.apart.oneFile) hdir' hname content,
    h.apart.written name content, h.grows.trans (h.apart.grows_written name content),
    fun other l => ?_, fun l => ?_⟩
  · rw [h.apart.mem_reached_written, h.reached]
  · rw [h.apart.get?_written, h.get?, cover_append]
    simp only [h.reached]
    rfl

/-- The last page does not bear on what it does not reach. -/
theorem Covered.get?_of_not_mem {last : String × Bytes}
    (h : fs.Covered fs' place (pages ++ [last])) (hl : l ∉ fs.reached (place ++ [last.1])) :
    fs'.get? l = fs.cover place pages l (fs.get? l) := by
  rw [h.get?, cover_append]
  exact cover_of_not_mem (by simpa using hl)

/-- The last page is there, if no other one reaches its place. -/
theorem Covered.get?_last {last : String × Bytes} (h : fs.Covered fs' place (pages ++ [last]))
    (hpages : ∀ page ∈ pages, page.1 ≠ last.1) (apart : fs.Apart place) :
    fs'.get? (place ++ [last.1]) = Entry.overwritten last.2 (fs.get? (place ++ [last.1])) := by
  have hself := fs.mem_reached_self (place ++ [last.1])
  rw [h.get?, cover_append, cover_of_not_mem fun page hpage hmem =>
    hpages page hpage (apart.name_eq hself hmem)]
  rw [cover, List.foldl_cons, if_pos hself]
  rfl

end ComponentReference.FileSystem
