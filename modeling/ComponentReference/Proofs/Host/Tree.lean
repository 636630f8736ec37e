import ComponentReference.Host.FileSystem
import Mathlib.Data.List.Induction
import Mathlib.Tactic.ByContra

/-!
# File systems as trees

The type `FileSystem` lists places in any way.  In one that can come about, every entry
lies in a directory and has a name that a path can write; `FileSystem.IsTree` says so.

The operations of a run only add: a directory where nothing was, or a file where nothing
or another file was.  `FileSystem.Grows` is what they have in common, and the equations
for `make` and `fill` say which places they touch.
-/

namespace ComponentReference

/-- What is written between two slashes and leads to an entry of a directory. -/
def Path.Proper (name : String) : Prop :=
  name ≠ "" ∧ name ≠ "." ∧ name ≠ ".." ∧ '/' ∉ name.toList

instance (name : String) : Decidable (Path.Proper name) :=
  inferInstanceAs (Decidable (_ ∧ _))

/-- Entries that are equal, but for the contents of files. -/
inductive Entry.Like : Entry → Entry → Prop where
  | same (e : Entry) : Like e e
  | files (content content' : Bytes) : Like (.file content) (.file content')

theorem Entry.Like.trans {e e' e'' : Entry} (h : e.Like e') (h' : e'.Like e'') : e.Like e'' := by
  cases h with
  | same => exact h'
  | files =>
      cases h' with
      | same => exact .files ..
      | files => exact .files ..

theorem Entry.like_directory {e : Entry} : Entry.directory.Like e ↔ e = .directory :=
  ⟨fun h => by cases h; rfl, fun h => h ▸ .same _⟩

theorem Entry.like_link {e : Entry} {target : String} :
    (Entry.link target).Like e ↔ e = .link target :=
  ⟨fun h => by cases h; rfl, fun h => h ▸ .same _⟩

namespace FileSystem

variable {fs fs' fs'' : FileSystem} {l k : Location}

/-- Every entry lies in a directory, under a name that a path can write. -/
structure IsTree (fs : FileSystem) : Prop where
  parent : ∀ {l name e}, fs.get? (l ++ [name]) = some e → fs.get? l = some .directory
  proper : ∀ {l name e}, fs.get? (l ++ [name]) = some e → Path.Proper name

@[simp] theorem get?_nil (fs : FileSystem) : fs.get? [] = some .directory := rfl

theorem isDirectoryAt_iff : fs.isDirectoryAt l = true ↔ fs.get? l = some .directory := by
  simp [isDirectoryAt]

theorem IsTree.dropLast (tree : fs.IsTree) (h : fs.get? l = some .directory) :
    fs.get? l.dropLast = some .directory := by
  rcases l.eq_nil_or_concat with rfl | ⟨before, name, rfl⟩
  · exact h
  · rw [List.concat_eq_append] at h ⊢
    rw [List.dropLast_concat]
    exact tree.parent h

/-- Nothing lies below a place that is no directory. -/
theorem IsTree.get?_append_eq_none (tree : fs.IsTree) (h : fs.get? l ≠ some .directory)
    {more : List String} (hmore : more ≠ []) : fs.get? (l ++ more) = none := by
  induction more using List.reverseRecOn with
  | nil => exact absurd rfl hmore
  | append_singleton more name ih =>
      rw [← List.append_assoc]
      by_contra hsome
      obtain ⟨e, he⟩ := Option.ne_none_iff_exists'.mp hsome
      have hdir := tree.parent he
      by_cases hnil : more = []
      · subst hnil
        exact h (by simpa using hdir)
      · rw [ih hnil] at hdir
        exact absurd hdir (by simp)

/-- All names on the way to an entry are proper. -/
theorem IsTree.proper_of_mem (tree : fs.IsTree) :
    ∀ {l : Location} {e}, fs.get? l = some e → ∀ name ∈ l, Path.Proper name := by
  intro l
  induction l using List.reverseRecOn with
  | nil => intro e _ name hname; exact absurd hname (by simp)
  | append_singleton before last ih =>
      intro e he name hname
      rcases List.mem_append.mp hname with hbefore | hlast
      · exact ih (tree.parent he) name hbefore
      · rw [List.mem_singleton.mp hlast]
        exact tree.proper he

theorem mem_entries_of_get? {e : Entry} (h : fs.get? l = some e) (hne : l ≠ []) :
    (l, e) ∈ fs.entries := by
  rw [get?, if_neg hne] at h
  obtain ⟨before, after, hsplit, -⟩ := List.lookup_eq_some_iff.mp h
  rw [hsplit]
  exact List.mem_append_right _ (List.mem_cons_self ..)

/-- It is enough to look at what is listed. -/
theorem isTree_of_entries (h : ∀ entry ∈ fs.entries, fs.get? entry.1.dropLast = some .directory ∧
    ∀ name ∈ entry.1.getLast?, Path.Proper name) : fs.IsTree := by
  refine ⟨fun {l name e} he => ?_, fun {l name e} he => ?_⟩
  · have := (h _ (mem_entries_of_get? he (by simp))).1
    rwa [List.dropLast_concat] at this
  · exact (h _ (mem_entries_of_get? he (by simp))).2 name (by simp)

/-! ## What lies in a directory -/

theorem mem_children_of_mem_entries {name : String} {e : Entry}
    (h : (l ++ [name], e) ∈ fs.entries) : name ∈ fs.children l := by
  refine List.mem_filterMap.mpr ⟨([name], e), List.mem_filterMap.mpr ⟨(l ++ [name], e), h, ?_⟩, rfl⟩
  simp

/-- What is not among the names in a directory is not there. -/
theorem get?_eq_none_of_not_mem_children {name : String} (h : name ∉ fs.children l) :
    fs.get? (l ++ [name]) = none := by
  by_contra hsome
  obtain ⟨e, he⟩ := Option.ne_none_iff_exists'.mp hsome
  exact h (mem_children_of_mem_entries (mem_entries_of_get? he (by simp)))

/-! ## Growth -/

/-- The places at which something is, as they are listed. -/
def places (fs : FileSystem) : List Location :=
  fs.entries.map Prod.fst

/-- What is there stays, but for the contents of files, and the user may do the same
with it.  What is new leaves the order of the rest alone. -/
structure Grows (fs fs' : FileSystem) : Prop where
  kept : ∀ {l e}, fs.get? l = some e → ∃ e', fs'.get? l = some e' ∧ e.Like e'
  rights : ∀ {l}, fs.get? l ≠ none → fs'.rightsAt l = fs.rightsAt l
  order : fs.places.Sublist fs'.places

theorem Grows.refl (fs : FileSystem) : fs.Grows fs :=
  ⟨fun h => ⟨_, h, .same _⟩, fun _ => rfl, .refl _⟩

theorem Grows.trans (h : fs.Grows fs') (h' : fs'.Grows fs'') : fs.Grows fs'' := by
  refine ⟨fun hl => ?_, fun hl => ?_, h.order.trans h'.order⟩
  · obtain ⟨e', he', hlike⟩ := h.kept hl
    obtain ⟨e'', he'', hlike'⟩ := h'.kept he'
    exact ⟨e'', he'', hlike.trans hlike'⟩
  · obtain ⟨e, he⟩ := Option.ne_none_iff_exists'.mp hl
    obtain ⟨e', he', -⟩ := h.kept he
    rw [h'.rights (by simp [he']), h.rights hl]

theorem Grows.directory (h : fs.Grows fs') (hl : fs.get? l = some .directory) :
    fs'.get? l = some .directory := by
  obtain ⟨e', he', hlike⟩ := h.kept hl
  rw [he', Entry.like_directory.mp hlike]

theorem Grows.isDirectoryAt (h : fs.Grows fs') (hl : fs.isDirectoryAt l = true) :
    fs'.isDirectoryAt l = true :=
  isDirectoryAt_iff.mpr (h.directory (isDirectoryAt_iff.mp hl))

/-- What is a directory now was one before, if it was there. -/
theorem Grows.directory_of (h : fs.Grows fs') (hthere : fs.get? l ≠ none)
    (hl : fs'.get? l = some .directory) : fs.get? l = some .directory := by
  obtain ⟨e, he⟩ := Option.ne_none_iff_exists'.mp hthere
  obtain ⟨e', he', hlike⟩ := h.kept he
  rw [hl] at he'
  obtain rfl := Option.some_inj.mp he'
  cases hlike
  exact he

theorem Grows.there (h : fs.Grows fs') (hthere : fs.get? l ≠ none) : fs'.get? l ≠ none := by
  obtain ⟨e, he⟩ := Option.ne_none_iff_exists'.mp hthere
  obtain ⟨e', he', -⟩ := h.kept he
  simp [he']

theorem Grows.link (h : fs.Grows fs') {target : String} (hl : fs.get? l = some (.link target)) :
    fs'.get? l = some (.link target) := by
  obtain ⟨e', he', hlike⟩ := h.kept hl
  rw [he', Entry.like_link.mp hlike]

theorem Grows.mayRun (h : fs.Grows fs') (hl : fs.get? l ≠ none) : fs'.mayRun l = fs.mayRun l := by
  simp only [FileSystem.mayRun, h.rights hl]

theorem Grows.mayRead (h : fs.Grows fs') (hl : fs.get? l ≠ none) :
    fs'.mayRead l = fs.mayRead l := by
  simp only [FileSystem.mayRead, h.rights hl]

/-! ## What an entry made anew changes -/

theorem places_put (fs : FileSystem) (l : Location) (e : Entry) :
    fs.places.Sublist (fs.put l e).places := by
  rw [places, places, put, Keyed.map_put]
  split
  · exact .refl _
  · exact List.sublist_append_left ..

@[simp] theorem get?_mark (fs : FileSystem) (l : Location) (a : Attributes) :
    (fs.mark l a).get? = fs.get? := rfl

theorem attributesAt_mark (fs : FileSystem) (l k : Location) (a : Attributes) :
    (fs.mark l a).attributesAt k = if k = l then a else fs.attributesAt k := by
  by_cases h : k = l
  · simp [attributesAt, mark, Keyed.lookup_put, h]
  · simp only [attributesAt, mark, Keyed.lookup_put, if_neg h]
    rfl

theorem attributesAt_put_of_ne (fs : FileSystem) (e : Entry) (h : k ≠ l) :
    (fs.put l e).attributesAt k = fs.attributesAt k := by
  unfold attributesAt
  rw [get?_put, if_neg fun hk => h hk.1]
  rfl

theorem get?_make (fs : FileSystem) (l k : Location) (e : Entry) (mode : Mode) :
    (fs.make l e mode).get? k = if k = l ∧ k ≠ [] then some e else fs.get? k := by
  simp only [make, get?_mark, get?_put]

theorem attributesAt_make_of_ne (fs : FileSystem) (e : Entry) (mode : Mode) (h : k ≠ l) :
    (fs.make l e mode).attributesAt k = fs.attributesAt k := by
  rw [make, attributesAt_mark, if_neg h, attributesAt_put_of_ne fs e h]

theorem attributesAt_make_self (fs : FileSystem) (l : Location) (e : Entry) (mode : Mode) :
    (fs.make l e mode).attributesAt l = { mode, changed := fs.clock } := by
  rw [make, attributesAt_mark, if_pos rfl]

theorem rightsAt_make_of_ne (fs : FileSystem) (e : Entry) (mode : Mode) (h : k ≠ l) :
    (fs.make l e mode).rightsAt k = fs.rightsAt k := by
  simp only [rightsAt, attributesAt_make_of_ne fs e mode h]

theorem grows_make (e : Entry) (mode : Mode) (h : fs.get? l = none) :
    fs.Grows (fs.make l e mode) := by
  have hne : ∀ {k}, fs.get? k ≠ none → k ≠ l := fun hk hkl => hk (hkl ▸ h)
  refine ⟨fun {k e'} hk => ⟨e', ?_, .same _⟩, fun hk => rightsAt_make_of_ne fs e mode (hne hk),
    places_put fs l e⟩
  rw [get?_make, if_neg fun hkl => hne (by simp [hk]) hkl.1, hk]

theorem IsTree.make (tree : fs.IsTree) {name : String} (hdir : fs.get? l = some .directory)
    (hproper : Path.Proper name) (hnone : fs.get? (l ++ [name]) = none) (e : Entry) (mode : Mode) :
    (fs.make (l ++ [name]) e mode).IsTree := by
  have hgrows : fs.Grows (fs.make (l ++ [name]) e mode) := grows_make e mode hnone
  refine ⟨fun {l' name' e'} h => ?_, fun {l' name' e'} h => ?_⟩ <;> rw [get?_make] at h <;>
    split at h
  · next heq =>
      rw [(List.append_inj' heq.1 rfl).1]
      exact hgrows.directory hdir
  · exact hgrows.directory (tree.parent h)
  · next heq =>
      rw [List.singleton_inj.mp (List.append_inj' heq.1 rfl).2]
      exact hproper
  · exact tree.proper h

/-! ## What a new content changes -/

/-- The file at a place is known under that name alone. -/
def OneName (fs : FileSystem) (l : Location) : Prop :=
  ∀ name ∈ fs.namesOf l, name = l

theorem number?_eq_some_iff {n : Nat} : (fs.attributesAt l).number? = some n ↔
    ∃ a, fs.attributes.lookup l = some a ∧ a.number? = some n := by
  unfold attributesAt
  cases fs.attributes.lookup l with
  | some a => simp
  | none => rcases fs.get? l with _ | _ | _ | _ | _ | _ <;> simp

theorem mem_namesOf_self (fs : FileSystem) (l : Location) : l ∈ fs.namesOf l := by
  unfold namesOf
  split
  · exact List.mem_singleton_self l
  · next n hn =>
      obtain ⟨a, ha, hnumber⟩ := number?_eq_some_iff.mp hn
      obtain ⟨before, after, hsplit, -⟩ := List.lookup_eq_some_iff.mp ha
      refine List.mem_map.mpr ⟨(l, a), List.mem_filter.mpr ⟨?_, by simpa using hnumber⟩, rfl⟩
      rw [hsplit]
      exact List.mem_append_right _ (List.mem_cons_self ..)

theorem get?_foldl_put (names : List Location) (e : Entry) (fs : FileSystem) (k : Location) :
    (names.foldl (fun fs name => fs.put name e) fs).get? k =
      if k ∈ names ∧ k ≠ [] then some e else fs.get? k := by
  induction names generalizing fs with
  | nil => simp
  | cons name rest ih =>
      rw [List.foldl_cons, ih, get?_put]
      by_cases hk : k = name <;> by_cases hmem : k ∈ rest <;> by_cases hnil : k = [] <;>
        simp_all

theorem get?_foldl_mark (names : List Location) (a : Attributes) (fs : FileSystem) :
    (names.foldl (fun fs name => fs.mark name a) fs).get? = fs.get? := by
  induction names generalizing fs with
  | nil => rfl
  | cons name rest ih => rw [List.foldl_cons, ih, get?_mark]

theorem places_foldl_put (names : List Location) (e : Entry) (fs : FileSystem) :
    fs.places.Sublist (names.foldl (fun fs name => fs.put name e) fs).places := by
  induction names generalizing fs with
  | nil => exact .refl _
  | cons name rest ih => exact (places_put fs name e).trans (ih _)

theorem places_foldl_mark (names : List Location) (a : Attributes) (fs : FileSystem) :
    (names.foldl (fun fs name => fs.mark name a) fs).places = fs.places := by
  induction names generalizing fs with
  | nil => rfl
  | cons name rest ih => exact ih _

theorem places_fill (fs : FileSystem) (l : Location) (content : Bytes) :
    fs.places.Sublist (fs.fill l content).places := by
  rw [fill, markAll, places_foldl_mark]
  exact places_foldl_put ..

theorem get?_fill (fs : FileSystem) (l k : Location) (content : Bytes) :
    (fs.fill l content).get? k =
      if k ∈ fs.namesOf l ∧ k ≠ [] then some (.file content) else fs.get? k := by
  simp only [fill, markAll, get?_foldl_mark, get?_foldl_put]

theorem get?_fill_of_oneName (h : fs.OneName l) (k : Location) (content : Bytes) :
    (fs.fill l content).get? k = if k = l ∧ k ≠ [] then some (.file content) else fs.get? k := by
  have hmem : k ∈ fs.namesOf l ↔ k = l :=
    ⟨h k, fun hk => hk ▸ fs.mem_namesOf_self l⟩
  rw [get?_fill]
  simp only [hmem]

theorem namesOf_put (fs : FileSystem) (l k : Location) (e : Entry) :
    (fs.put l e).namesOf k = fs.namesOf k := by
  have hnumber : ((fs.put l e).attributesAt k).number? = (fs.attributesAt k).number? := by
    refine Option.ext fun n => ?_
    rw [number?_eq_some_iff, number?_eq_some_iff]
    rfl
  unfold namesOf
  rw [hnumber]
  rfl

/-- No file gets another name where the number of the marked one is dropped or stays. -/
theorem mem_namesOf_of_mark {a : Attributes}
    (ha : a.number? = none ∨ a.number? = (fs.attributesAt l).number?) {m : Location}
    (h : m ∈ (fs.mark l a).namesOf k) : m ∈ fs.namesOf k ∨ m = k := by
  unfold namesOf at h
  split at h
  · exact .inr (List.mem_singleton.mp h)
  · next n hn =>
      obtain ⟨⟨m', b⟩, hmem, rfl⟩ := List.mem_map.mp h
      rw [List.mem_filter, decide_eq_true_eq] at hmem
      obtain ⟨hput, hb⟩ := hmem
      -- whoever has the number `n` after the marking had it before
      have hold : ∀ {k'}, ((fs.mark l a).attributesAt k').number? = some n →
          (fs.attributesAt k').number? = some n := by
        intro k' hk'
        rw [attributesAt_mark] at hk'
        split at hk'
        · next heq =>
            rcases ha with ha | ha
            · rw [ha] at hk'; exact absurd hk' (by simp)
            · rw [heq, ← ha, hk']
        · exact hk'
      have hmem :
          m' ∈ (fs.attributes.filter fun entry => entry.2.number? = some n).map Prod.fst := by
        rcases Keyed.mem_of_mem_put _ hput with heq | hin
        · obtain ⟨rfl, rfl⟩ := Prod.mk.inj heq
          have hself := fs.mem_namesOf_self m'
          rw [namesOf, hold (by rw [attributesAt_mark, if_pos rfl, hb])] at hself
          exact hself
        · exact List.mem_map.mpr ⟨(m', b), List.mem_filter.mpr ⟨hin, by simpa using hb⟩, rfl⟩
      left
      rw [namesOf, hold hn]
      exact hmem

theorem OneName.mark (h : fs.OneName k) {a : Attributes}
    (ha : a.number? = none ∨ a.number? = (fs.attributesAt l).number?) :
    (fs.mark l a).OneName k := by
  intro name hname
  rcases mem_namesOf_of_mark ha hname with hname | rfl
  · exact h name hname
  · rfl

theorem OneName.make (h : fs.OneName k) (l : Location) (e : Entry) (mode : Mode) :
    (fs.make l e mode).OneName k := by
  refine OneName.mark (fun name hname => ?_) (.inl rfl)
  rw [namesOf_put] at hname
  exact h name hname

theorem oneName_make_self (fs : FileSystem) (l : Location) (e : Entry) (mode : Mode) :
    (fs.make l e mode).OneName l := by
  intro name hname
  rw [namesOf, attributesAt_make_self] at hname
  exact List.mem_singleton.mp hname

/-! ### The file at a place, by all its names -/

/-- Places with one number are names of one file. -/
theorem mem_namesOf_of_number {n : Nat} {m : Location}
    (hm : (fs.attributesAt m).number? = some n) (hl : (fs.attributesAt l).number? = some n) :
    m ∈ fs.namesOf l := by
  have hself := fs.mem_namesOf_self m
  rw [namesOf, hm] at hself
  rw [namesOf, hl]
  exact hself

/-- By each of its names the file at a place has the same content and attributes. -/
def OneFile (fs : FileSystem) (l : Location) : Prop :=
  ∀ m ∈ fs.namesOf l, fs.get? m = fs.get? l ∧ fs.attributesAt m = fs.attributesAt l

theorem OneName.oneFile (h : fs.OneName l) : fs.OneFile l := by
  intro m hm
  rw [h m hm]
  exact ⟨rfl, rfl⟩

/-- A file keeps its names if their numbers stay. -/
theorem OneFile.mem_namesOf (h : fs.OneFile k)
    (hnumber : ∀ m ∈ fs.namesOf k, (fs'.attributesAt m).number? = (fs.attributesAt m).number?)
    {m : Location} (hm : m ∈ fs.namesOf k) : m ∈ fs'.namesOf k := by
  cases hk : (fs.attributesAt k).number? with
  | none =>
      rw [namesOf, hk] at hm
      rw [List.mem_singleton.mp hm]
      exact fs'.mem_namesOf_self k
  | some n =>
      refine mem_namesOf_of_number (n := n) ?_ ?_
      · rw [hnumber m hm, (h m hm).2, hk]
      · rw [hnumber k (fs.mem_namesOf_self k), hk]

/-- The file at a place has the same names after an entry has been made elsewhere. -/
theorem mem_namesOf_make (e : Entry) (mode : Mode) (hnone : fs.get? l = none)
    (hone : fs.OneFile k) (hthere : fs.get? k ≠ none) {m : Location} :
    m ∈ (fs.make l e mode).namesOf k ↔ m ∈ fs.namesOf k := by
  refine ⟨fun hm => ?_, hone.mem_namesOf fun m hm => ?_⟩
  · rcases mem_namesOf_of_mark (.inl rfl) hm with hput | rfl
    · rwa [namesOf_put] at hput
    · exact fs.mem_namesOf_self m
  · have hne : m ≠ l := by
      rintro rfl
      exact hthere ((hone m hm).1.symm.trans hnone)
    rw [attributesAt_make_of_ne fs e mode hne]

/-! ### Filling a file -/

theorem attributesAt_put_file {content content' : Bytes}
    (hfile : fs.get? l = some (.file content)) (k : Location) :
    (fs.put l (.file content')).attributesAt k = fs.attributesAt k := by
  by_cases hk : k = l
  · subst hk
    have hnil : k ≠ [] := fun hnil => by rw [hnil] at hfile; simp at hfile
    have hattributes : (fs.put k (.file content')).attributes = fs.attributes := rfl
    unfold attributesAt
    rw [get?_put, if_pos ⟨rfl, hnil⟩, hfile, hattributes]
    cases fs.attributes.lookup k <;> rfl
  · exact attributesAt_put_of_ne fs _ hk

theorem attributesAt_foldl_put_file {content : Bytes} {names : List Location} (k : Location) :
    ∀ {fs : FileSystem}, (∀ name ∈ names, ∃ old, fs.get? name = some (.file old)) →
      (names.foldl (fun fs name => fs.put name (.file content)) fs).attributesAt k =
        fs.attributesAt k := by
  induction names with
  | nil => intro fs _; rfl
  | cons name rest ih =>
      intro fs hfiles
      obtain ⟨old, hold⟩ := hfiles name (List.mem_cons_self ..)
      -- the other names are still those of files
      have hrest : ∀ m ∈ rest, ∃ old',
          (fs.put name (.file content)).get? m = some (.file old') := by
        intro m hm
        rw [get?_put]
        split
        · exact ⟨content, rfl⟩
        · exact hfiles m (List.mem_cons_of_mem _ hm)
      rw [List.foldl_cons, ih hrest, attributesAt_put_file hold]

theorem attributesAt_foldl_mark (names : List Location) (a : Attributes) (fs : FileSystem)
    (k : Location) :
    (names.foldl (fun fs name => fs.mark name a) fs).attributesAt k =
      if k ∈ names then a else fs.attributesAt k := by
  induction names generalizing fs with
  | nil => simp
  | cons name rest ih =>
      rw [List.foldl_cons, ih, attributesAt_mark]
      by_cases hk : k = name <;> by_cases hmem : k ∈ rest <;> simp_all

theorem namesOf_foldl_put (names : List Location) (e : Entry) (fs : FileSystem) (k : Location) :
    (names.foldl (fun fs name => fs.put name e) fs).namesOf k = fs.namesOf k := by
  induction names generalizing fs with
  | nil => rfl
  | cons name rest ih => rw [List.foldl_cons, ih, namesOf_put]

/-- No file gets another name where all that are marked keep their number. -/
theorem mem_namesOf_of_foldl_mark {a : Attributes} {names : List Location} {m : Location} :
    ∀ {fs : FileSystem}, (∀ name ∈ names, (fs.attributesAt name).number? = a.number?) →
      m ∈ (names.foldl (fun fs name => fs.mark name a) fs).namesOf k → m ∈ fs.namesOf k := by
  induction names with
  | nil => exact fun _ hm => hm
  | cons name rest ih =>
      intro fs hnumber hm
      have hrest : ∀ other ∈ rest, ((fs.mark name a).attributesAt other).number? = a.number? := by
        intro other hother
        rw [attributesAt_mark]
        split
        · rfl
        · exact hnumber other (List.mem_cons_of_mem _ hother)
      have hself := hnumber name (List.mem_cons_self ..)
      rcases mem_namesOf_of_mark (.inr hself.symm) (ih hrest hm) with hold | rfl
      · exact hold
      · exact fs.mem_namesOf_self m

section Fill

variable {content old : Bytes}

theorem OneFile.get?_eq (hone : fs.OneFile l) (hfile : fs.get? l = some (.file old)) {m : Location}
    (hm : m ∈ fs.namesOf l) : fs.get? m = some (.file old) :=
  (hone m hm).1.trans hfile

theorem attributesAt_fill (hone : fs.OneFile l) (hfile : fs.get? l = some (.file old))
    (k : Location) : (fs.fill l content).attributesAt k =
      if k ∈ fs.namesOf l then { fs.attributesAt l with changed := fs.clock }
      else fs.attributesAt k := by
  unfold fill markAll
  rw [attributesAt_foldl_mark, namesOf_foldl_put,
    attributesAt_foldl_put_file k fun m hm => ⟨old, hone.get?_eq hfile hm⟩]

theorem number?_fill (hone : fs.OneFile l) (hfile : fs.get? l = some (.file old))
    (k : Location) :
    ((fs.fill l content).attributesAt k).number? = (fs.attributesAt k).number? := by
  rw [attributesAt_fill hone hfile]
  split
  · next hk => rw [(hone k hk).2]
  · rfl

theorem rightsAt_fill (hone : fs.OneFile l) (hfile : fs.get? l = some (.file old))
    (k : Location) : (fs.fill l content).rightsAt k = fs.rightsAt k := by
  unfold rightsAt
  rw [attributesAt_fill hone hfile]
  split
  · next hk => rw [(hone k hk).2]
  · rfl

theorem grows_fill (hone : fs.OneFile l) (hfile : fs.get? l = some (.file old)) :
    fs.Grows (fs.fill l content) := by
  refine ⟨fun {k e} hk => ?_, fun _ => rightsAt_fill hone hfile _, places_fill fs l content⟩
  rw [get?_fill]
  split
  · next hkl =>
      rw [hone.get?_eq hfile hkl.1] at hk
      obtain rfl := Option.some_inj.mp hk
      exact ⟨_, rfl, .files ..⟩
  · exact ⟨e, hk, .same e⟩

theorem IsTree.fill (tree : fs.IsTree) (hone : fs.OneFile l)
    (hfile : fs.get? l = some (.file old)) : (fs.fill l content).IsTree := by
  have hgrows : fs.Grows (fs.fill l content) := grows_fill hone hfile
  -- an entry after the filling was one before
  have hbefore : ∀ {k e}, (fs.fill l content).get? k = some e → ∃ e', fs.get? k = some e' := by
    intro k e hk
    rw [get?_fill] at hk
    split at hk
    · next hkl => exact ⟨_, hone.get?_eq hfile hkl.1⟩
    · exact ⟨e, hk⟩
  refine ⟨fun h => ?_, fun h => ?_⟩ <;> obtain ⟨e', he'⟩ := hbefore h
  · exact hgrows.directory (tree.parent he')
  · exact tree.proper he'

/-- No file gets another name. -/
theorem mem_namesOf_of_fill (hone : fs.OneFile l) (hfile : fs.get? l = some (.file old))
    {m : Location} (hm : m ∈ (fs.fill l content).namesOf k) : m ∈ fs.namesOf k := by
  simp only [FileSystem.fill, markAll, namesOf_foldl_put] at hm
  rw [← namesOf_foldl_put (fs.namesOf l) (.file content) fs k]
  refine mem_namesOf_of_foldl_mark (fun name hname => ?_) hm
  rw [attributesAt_foldl_put_file name fun m hm => ⟨old, hone.get?_eq hfile hm⟩,
    (hone name hname).2]

theorem OneName.fill (h : fs.OneName k) (hone : fs.OneFile l)
    (hfile : fs.get? l = some (.file old)) : (fs.fill l content).OneName k :=
  fun m hm => h m (mem_namesOf_of_fill hone hfile hm)

end Fill

end FileSystem

end ComponentReference
