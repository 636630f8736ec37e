import ComponentReference.Proofs.Actions
import ComponentReference.Proofs.Host.LinkFree
import ComponentReference.Site.Discovery
import Mathlib.Data.List.Nodup
import Mathlib.Data.List.TakeDrop
import Mathlib.Data.String.Basic

/-!
# Discovering the same files again

New files do not turn up among the component files as long as their names have another
ending.  `SameDirectories` says what may be new, and `filesBelow_again` that the same files
are discovered then, in the same order.

The induction is on the depth.  A new file may make the tree one name deeper, and so the
two walks need not have the same depth to begin with; each only has to reach below all
that is there, which is what `Within` says.  At one directory the new list of names has the old one
in it, in its order (`Grows.children`), and what is kept of both has the same elements.
-/

namespace ComponentReference

/-! ## Traversals -/

section Traversals

variable {ε α β : Type}

theorem mapM_ok_of_eq {f : α → Except ε β} {g : α → β} {xs : List α}
    (h : ∀ x ∈ xs, f x = .ok (g x)) : xs.mapM f = .ok (xs.map g) := by
  induction xs with
  | nil => rfl
  | cons x rest ih =>
      rw [List.mapM_cons, h x (List.mem_cons_self ..),
        ih fun y hy => h y (List.mem_cons_of_mem _ hy)]
      rfl

/-- A traversal that goes well goes well at each element. -/
theorem exists_ok_of_mapM [Inhabited β] {f : α → Except ε β} {xs : List α} {ys : List β}
    (h : xs.mapM f = .ok ys) : ∃ g : α → β, (∀ x ∈ xs, f x = .ok (g x)) ∧ ys = xs.map g := by
  have hall : ∀ x ∈ xs, ∃ y, f x = .ok y := by
    induction xs generalizing ys with
    | nil => simp
    | cons x rest ih =>
        rw [List.mapM_cons] at h
        obtain ⟨y, hx, h⟩ := exists_ok_of_bind h
        obtain ⟨ys', hrest, -⟩ := exists_ok_of_bind h
        rintro x' hmem
        rcases List.mem_cons.mp hmem with rfl | hmem
        · exact ⟨y, hx⟩
        · exact ih hrest x' hmem
  choose! g hg using hall
  exact ⟨g, hg, Except.ok.inj (h.symm.trans (mapM_ok_of_eq hg))⟩

theorem filterAuxM_ok_of_eq {f : α → Except ε Bool} {g : α → Bool} {xs : List α}
    (h : ∀ x ∈ xs, f x = .ok (g x)) (kept : List α) :
    xs.filterAuxM f kept = .ok ((xs.filter g).reverse ++ kept) := by
  induction xs generalizing kept with
  | nil => rfl
  | cons x rest ih =>
      rw [List.filterAuxM, h x (List.mem_cons_self ..)]
      refine (ih (fun y hy => h y (List.mem_cons_of_mem _ hy)) _).trans ?_
      cases hx : g x <;> simp [hx]

theorem filterM_ok_of_eq {f : α → Except ε Bool} {g : α → Bool} {xs : List α}
    (h : ∀ x ∈ xs, f x = .ok (g x)) : xs.filterM f = .ok (xs.filter g) := by
  rw [List.filterM, filterAuxM_ok_of_eq h]
  simp [bind, Except.bind, pure, Except.pure]

theorem exists_ok_of_filterAuxM {f : α → Except ε Bool} {xs kept ys : List α}
    (h : xs.filterAuxM f kept = .ok ys) : ∀ x ∈ xs, ∃ b, f x = .ok b := by
  induction xs generalizing kept with
  | nil => simp
  | cons x rest ih =>
      rw [List.filterAuxM] at h
      obtain ⟨b, hx, h⟩ := exists_ok_of_bind h
      rintro x' hmem
      rcases List.mem_cons.mp hmem with rfl | hmem
      · exact ⟨b, hx⟩
      · exact ih h x' hmem

theorem exists_ok_of_filterM {f : α → Except ε Bool} {xs ys : List α}
    (h : xs.filterM f = .ok ys) : ∃ g : α → Bool, (∀ x ∈ xs, f x = .ok (g x)) ∧
      ys = xs.filter g := by
  obtain ⟨kept, hkept, -⟩ := exists_ok_of_bind h
  choose! g hg using exists_ok_of_filterAuxM hkept
  exact ⟨g, hg, Except.ok.inj (h.symm.trans (filterM_ok_of_eq hg))⟩

/-- A traversal that stops does so at an element. -/
theorem exists_error_of_mapM {f : α → Except ε β} {xs : List α} {fault : ε}
    (h : xs.mapM f = .error fault) : ∃ x ∈ xs, f x = .error fault := by
  induction xs with
  | nil => cases h
  | cons x rest ih =>
      rw [List.mapM_cons] at h
      rcases error_of_bind h with hx | ⟨y, -, h⟩
      · exact ⟨x, List.mem_cons_self .., hx⟩
      rcases error_of_bind h with hrest | ⟨ys, -, h⟩
      · obtain ⟨x', hmem, hx'⟩ := ih hrest
        exact ⟨x', List.mem_cons_of_mem _ hmem, hx'⟩
      · cases h

theorem exists_error_of_filterAuxM {f : α → Except ε Bool} {xs kept : List α} {fault : ε}
    (h : xs.filterAuxM f kept = .error fault) : ∃ x ∈ xs, f x = .error fault := by
  induction xs generalizing kept with
  | nil => cases h
  | cons x rest ih =>
      rw [List.filterAuxM] at h
      rcases error_of_bind h with hx | ⟨b, -, h⟩
      · exact ⟨x, List.mem_cons_self .., hx⟩
      · obtain ⟨x', hmem, hx'⟩ := ih h
        exact ⟨x', List.mem_cons_of_mem _ hmem, hx'⟩

theorem exists_error_of_filterM {f : α → Except ε Bool} {xs : List α} {fault : ε}
    (h : xs.filterM f = .error fault) : ∃ x ∈ xs, f x = .error fault := by
  rcases error_of_bind h with hkept | ⟨kept, -, h⟩
  · exact exists_error_of_filterAuxM hkept
  · cases h

end Traversals

/-- What is kept of a list and of a part of it is the same if its elements are. -/
theorem filter_eq_of_sublist {xs ys : List String} (hsub : xs.Sublist ys) (hys : ys.Nodup)
    {p q : String → Bool} (h : ∀ name, name ∈ ys ∧ q name = true ↔ name ∈ xs ∧ p name = true) :
    ys.filter q = xs.filter p := by
  have hagree : ∀ name ∈ xs, q name = p name := by
    intro name hname
    have := h name
    simp only [hname, hsub.subset hname, true_and] at this
    exact Bool.eq_iff_iff.mpr this
  have hperm : (xs.filter q).Perm (ys.filter q) := by
    refine (List.perm_ext_iff_of_nodup ((hsub.nodup hys).filter q) (hys.filter q)).mpr fun name => ?_
    rw [List.mem_filter, List.mem_filter, h name]
    exact and_congr_right fun hname => by rw [hagree name hname]
  rw [← List.filter_congr hagree]
  exact ((hsub.filter q).eq_of_length hperm.length_eq).symm

namespace FileSystem

variable {fs fs' : FileSystem} {suffix : String} {l : Location} {p : Path}

/-! ## The names in a directory -/

/-- The name under which a place lies right below another one. -/
def childName? (l place : Location) : Option String :=
  if l.isPrefixOf place ∧ place ≠ l then
    match place.drop l.length with
    | [name] => some name
    | _ => none
  else none

theorem childName?_eq_some_iff {place : Location} {name : String} :
    childName? l place = some name ↔ place = l ++ [name] := by
  constructor
  · intro h
    unfold childName? at h
    split at h
    · next hbelow =>
        obtain ⟨rest, rfl⟩ := List.isPrefixOf_iff_prefix.mp hbelow.1
        rw [List.drop_left] at h
        split at h
        · rw [Option.some_inj.mp h]
        · simp at h
    · simp at h
  · rintro rfl
    simp [childName?]

theorem children_eq (fs : FileSystem) (l : Location) :
    fs.children l = fs.places.filterMap (childName? l) := by
  rw [children, below, places, List.filterMap_filterMap, List.filterMap_map]
  refine List.filterMap_congr fun entry _ => ?_
  obtain ⟨place, e⟩ := entry
  dsimp only [Function.comp, childName?]
  split <;> rfl

theorem nodup_children (fs : FileSystem) (l : Location) : (fs.children l).Nodup := by
  rw [children_eq]
  refine fs.nodup.filterMap fun place place' name hname hname' => ?_
  rw [childName?_eq_some_iff.mp hname, childName?_eq_some_iff.mp hname']

theorem mem_children_iff {name : String} :
    name ∈ fs.children l ↔ fs.get? (l ++ [name]) ≠ none := by
  refine ⟨fun hmem hnone => ?_, fun h => ?_⟩
  · rw [children_eq] at hmem
    obtain ⟨place, hplace, hname⟩ := List.mem_filterMap.mp hmem
    obtain ⟨⟨_, e⟩, hentry, rfl⟩ := List.mem_map.mp hplace
    rw [get?, if_neg (by simp), List.lookup_eq_none_iff] at hnone
    have hne := hnone _ hentry
    rw [childName?_eq_some_iff.mp hname] at hne
    simp at hne
  · by_contra hnot
    exact h (get?_eq_none_of_not_mem_children hnot)

/-! ## How deep it goes -/

/-- Less than `depth` names lead from the place to anything below it. -/
def Within (fs : FileSystem) (l : Location) (depth : Nat) : Prop :=
  ∀ rest, fs.get? (l ++ rest) ≠ none → rest.length < depth

theorem Within.child {depth : Nat} (h : fs.Within l (depth + 1)) (name : String) :
    fs.Within (l ++ [name]) depth := by
  intro rest hrest
  have := h (name :: rest) (by simpa using hrest)
  simpa using this

theorem le_foldl_max {entries : List (List String × Entry)} (depth : Nat) :
    depth ≤ entries.foldl (fun depth entry => max depth entry.1.length) depth ∧
      ∀ entry ∈ entries, entry.1.length ≤
        entries.foldl (fun depth entry => max depth entry.1.length) depth := by
  induction entries generalizing depth with
  | nil => simp
  | cons first rest ih =>
      obtain ⟨hdepth, hrest⟩ := ih (max depth first.1.length)
      rw [List.foldl_cons]
      refine ⟨le_trans (le_max_left ..) hdepth, fun entry hentry => ?_⟩
      rcases List.mem_cons.mp hentry with rfl | hentry
      · exact le_trans (le_max_right ..) hdepth
      · exact hrest entry hentry

theorem within_depthBelow (fs : FileSystem) (l : Location) :
    fs.Within l (fs.depthBelow l + 1) := by
  intro rest hrest
  rw [Nat.lt_succ_iff]
  by_cases hnil : rest = []
  · simp [hnil]
  obtain ⟨e, he⟩ := Option.ne_none_iff_exists'.mp hrest
  have hmem := mem_entries_of_get? he (by simp [hnil])
  refine (le_foldl_max 0).2 (rest, e) (List.mem_filterMap.mpr ⟨(l ++ rest, e), hmem, ?_⟩)
  simp [hnil]

/-! ## Looking into a directory -/

/-- A directory is opened where the path leads, if it may be read. -/
theorem openDirectory_ok_iff (hp : p.IsSettled) {place : Location} :
    fs.openDirectory p = .ok place ↔
      textFault? p.text = none ∧ fs.Leads p place ∧ fs.mayRead place = true := by
  cases htext : textFault? p.text with
  | some fault => simp [openDirectory, locate_of_textFault htext]
  | none =>
      have hwalk : SameDirectory (fs.walk maxLinks (({} : Manner).endingAs p.text) [] p.names)
          (fs.follow p.names) := walk_sameDirectory maxLinks rfl rfl [] p.names
      rw [openDirectory, locate_settled hp htext]
      by_cases hsome : ∃ there, fs.Leads p there
      · obtain ⟨there, hleads⟩ := hsome
        have hplace : there = place ∧ fs.mayRead there = true ↔
            fs.Leads p place ∧ fs.mayRead place = true := by
          constructor
          · rintro ⟨rfl, hread⟩
            exact ⟨hleads, hread⟩
          · rintro ⟨hleads', hread⟩
            obtain rfl := hleads.unique hleads'
            exact ⟨rfl, hread⟩
        rw [(hwalk there).mpr hleads]
        simp only [Except.mapError, true_and, ← hplace]
        split <;> simp_all
      · have hnot : ∀ there, fs.walk maxLinks (({} : Manner).endingAs p.text) [] p.names ≠
            .ok ⟨there, some .directory⟩ :=
          fun there hthere => hsome ⟨there, (hwalk there).mp hthere⟩
        refine ⟨fun hopen => ?_, fun hleads => absurd ⟨place, hleads.2.1⟩ hsome⟩
        rcases hfound : fs.walk maxLinks (({} : Manner).endingAs p.text) [] p.names with
          e | ⟨there, _ | e⟩ <;> rw [hfound] at hopen
        · cases hopen
        · cases hopen
        · cases e with
          | directory => exact absurd hfound (hnot there)
          | _ => cases hopen

/-- The directories in the directory at a place, as it lists them. -/
def innerNames (fs : FileSystem) (l : Location) : List String :=
  (fs.children l).filter fun name => fs.isDirectoryAt (l ++ [name])

/-- What else in it has a name with the ending. -/
def ownNames (fs : FileSystem) (suffix : String) (l : Location) : List String :=
  (fs.children l).filter fun name => !fs.isDirectoryAt (l ++ [name]) && nameEnding name = suffix

theorem filesWithin_succ (fs : FileSystem) (suffix : String) (depth : Nat) (p : Path) :
    fs.filesWithin suffix (depth + 1) p = do
      let place ← fs.openDirectory p
      let own ← ((fs.ownNames suffix place).map p.child).filterM fs.isFile
      let inner ← (fs.innerNames place).mapM fun name => fs.filesWithin suffix depth (p.child name)
      return own ++ inner.flatten := rfl

/-- A search looks into the directory, then at the names in it, and then searches the
directories in it. -/
theorem filesWithin_ok_iff {depth : Nat} {files : List Path} :
    fs.filesWithin suffix (depth + 1) p = .ok files ↔
      ∃ place, fs.openDirectory p = .ok place ∧ ∃ (isFile : Path → Bool)
        (within : String → List Path),
        (∀ name ∈ fs.ownNames suffix place,
          fs.isFile (p.child name) = .ok (isFile (p.child name))) ∧
        (∀ name ∈ fs.innerNames place,
          fs.filesWithin suffix depth (p.child name) = .ok (within name)) ∧
        files = ((fs.ownNames suffix place).map p.child).filter isFile ++
          (fs.innerNames place).flatMap within := by
  rw [filesWithin_succ]
  constructor
  · intro h
    obtain ⟨place, hopen, h⟩ := exists_ok_of_bind h
    obtain ⟨own, hown, h⟩ := exists_ok_of_bind h
    obtain ⟨inner, hinner, h⟩ := exists_ok_of_bind h
    obtain ⟨isFile, hisFile, rfl⟩ := exists_ok_of_filterM hown
    obtain ⟨within, hwithin, rfl⟩ := exists_ok_of_mapM hinner
    refine ⟨place, hopen, isFile, within, fun name hname => ?_, hwithin, ?_⟩
    · exact hisFile _ (List.mem_map_of_mem hname)
    · rw [← Except.ok.inj h, List.flatMap_def]
  · rintro ⟨place, hopen, isFile, within, hisFile, hwithin, rfl⟩
    have hown := filterM_ok_of_eq (show ∀ file ∈ (fs.ownNames suffix place).map p.child,
      fs.isFile file = .ok (isFile file) from fun file hfile => by
        obtain ⟨name, hname, rfl⟩ := List.mem_map.mp hfile
        exact hisFile name hname)
    rw [hopen]
    show (do
      let own ← ((fs.ownNames suffix place).map p.child).filterM fs.isFile
      let inner ← (fs.innerNames place).mapM fun name =>
        fs.filesWithin suffix depth (p.child name)
      pure (own ++ inner.flatten)) = _
    rw [hown, mapM_ok_of_eq hwithin, List.flatMap_def]
    rfl

theorem mem_innerNames {name : String} :
    name ∈ fs.innerNames l ↔ fs.get? (l ++ [name]) = some .directory := by
  rw [innerNames, List.mem_filter, mem_children_iff, isDirectoryAt_iff]
  exact and_iff_right_of_imp fun hdir => by simp [hdir]

theorem get?_of_mem_ownNames {name : String} (h : name ∈ fs.ownNames suffix l) :
    fs.get? (l ++ [name]) ≠ none := by
  rw [ownNames, List.mem_filter, mem_children_iff] at h
  exact h.1

/-! ## Walking again -/

/-- A directory lists the old names in the old order, whatever is new. -/
theorem Grows.children (h : fs.Grows fs') (l : Location) :
    (fs.children l).Sublist (fs'.children l) := by
  rw [children_eq, children_eq]
  exact h.order.filterMap _

/-- All directories are the old ones, and what else is new has a name without the ending. -/
structure SameDirectories (fs fs' : FileSystem) (suffix : String) : Prop extends
    Later fs fs' where
  new : ∀ l name e, fs.get? (l ++ [name]) = none → fs'.get? (l ++ [name]) = some e →
    e ≠ .directory ∧ nameEnding name ≠ suffix

theorem SameDirectories.directory_iff (h : SameDirectories fs fs' suffix) (l : Location) :
    fs'.get? l = some .directory ↔ fs.get? l = some .directory := by
  refine ⟨fun hdir => ?_, h.grows.directory⟩
  refine h.grows.directory_of (fun hnone => ?_) hdir
  rcases List.eq_nil_or_concat l with rfl | ⟨above, name, rfl⟩
  · simp at hnone
  · rw [List.concat_eq_append] at hnone hdir
    exact (h.new above name _ hnone hdir).1 rfl

theorem SameDirectories.fitsNew (h : SameDirectories fs fs' suffix) (names : List String) :
    fs.FitsNew fs' names := by
  intro before _ _ _ hnone hdir
  rw [(h.directory_iff before).mp hdir] at hnone
  simp at hnone

theorem SameDirectories.innerNames_eq (h : SameDirectories fs fs' suffix) (l : Location) :
    fs'.innerNames l = fs.innerNames l := by
  refine filter_eq_of_sublist (h.grows.children l) (fs'.nodup_children l) fun name => ?_
  rw [mem_children_iff, mem_children_iff, isDirectoryAt_iff, isDirectoryAt_iff, h.directory_iff]
  refine and_congr_left fun hdir => ?_
  simp [hdir, h.grows.directory hdir]

theorem SameDirectories.ownNames_eq (h : SameDirectories fs fs' suffix) (l : Location) :
    fs'.ownNames suffix l = fs.ownNames suffix l := by
  refine filter_eq_of_sublist (h.grows.children l) (fs'.nodup_children l) fun name => ?_
  have hinner : fs'.isDirectoryAt (l ++ [name]) = fs.isDirectoryAt (l ++ [name]) := by
    rw [Bool.eq_iff_iff, isDirectoryAt_iff, isDirectoryAt_iff, h.directory_iff]
  rw [mem_children_iff, mem_children_iff, hinner]
  refine and_congr_left fun hkept => ⟨fun hthere hnone => ?_, h.grows.there⟩
  obtain ⟨e, he⟩ := Option.ne_none_iff_exists'.mp hthere
  rw [Bool.and_eq_true, decide_eq_true_eq] at hkept
  exact (h.new l name e hnone he).2 hkept.2

theorem SameDirectories.openDirectory (h : SameDirectories fs fs' suffix) (hp : p.IsSettled)
    {place : Location} (hopen : fs.openDirectory p = .ok place) :
    place = p.names ∧ fs'.openDirectory p = .ok place := by
  obtain ⟨htext, hleads, hread⟩ := (openDirectory_ok_iff hp).mp hopen
  have hdir := hleads.get? h.tree
  refine ⟨hleads.eq_names h.free h.tree hp, (openDirectory_ok_iff hp).mpr ⟨htext, ?_, ?_⟩⟩
  · exact hleads.grows h.tree h.grows
  · rw [h.grows.mayRead (by simp [hdir]), hread]

theorem SameDirectories.isFile (h : SameDirectories fs fs' suffix) (hp : p.IsSettled)
    (hthere : fs.get? p.names ≠ none) {b : Bool} (hfile : fs.isFile p = .ok b) :
    fs'.isFile p = .ok b := by
  obtain ⟨e, he⟩ := Option.ne_none_iff_exists'.mp hthere
  obtain ⟨e', he', hlike⟩ := h.grows.kept he
  cases hstat : fs.stat? [] p.text with
  | error fault =>
      rw [FileSystem.isFile, hstat] at hfile
      cases hfile
  | ok e? =>
      rw [FileSystem.isFile, hstat] at hfile
      rcases h.toLater.stat? hp (h.fitsNew _) hstat with ⟨rfl, hagain⟩ | ⟨rfl, hagain⟩
      · rw [FileSystem.isFile, hagain]
        exact hfile
      · rw [FileSystem.isFile, hagain, he']
        rw [he] at hfile
        cases hlike with
        | same => exact hfile
        | files => exact hfile

/-- The files below a directory are found again, in the same order. -/
theorem filesWithin_again (h : SameDirectories fs fs' suffix) :
    ∀ {depth depth' : Nat} {p : Path} {found : List Path}, p.IsSettled →
      fs.get? p.names = some .directory → fs.Within p.names depth → fs'.Within p.names depth' →
      fs.filesWithin suffix depth p = .ok found → fs'.filesWithin suffix depth' p = .ok found := by
  intro depth
  induction depth with
  | zero =>
      intro depth' p found _ hdir hwithin
      have := hwithin [] (by simp [hdir])
      simp at this
  | succ depth ih =>
      intro depth' p found hp hdir hwithin hwithin' hfound
      cases depth' with
      | zero =>
          have := hwithin' [] (by simp [h.grows.directory hdir])
          simp at this
      | succ depth' =>
          obtain ⟨place, hopen, isFile, within, hisFile, hinner, rfl⟩ :=
            filesWithin_ok_iff.mp hfound
          obtain ⟨rfl, hopen'⟩ := h.openDirectory hp hopen
          have hchild : ∀ name, fs.get? (p.names ++ [name]) ≠ none → (p.child name).IsSettled := by
            intro name hthere
            obtain ⟨e, he⟩ := Option.ne_none_iff_exists'.mp hthere
            exact hp.child (h.tree.proper he)
          refine filesWithin_ok_iff.mpr ⟨p.names, hopen', isFile, within, ?_, ?_, ?_⟩ <;>
            simp only [h.ownNames_eq, h.innerNames_eq]
          · intro name hname
            have hthere := get?_of_mem_ownNames hname
            exact h.isFile (hchild name hthere) hthere (hisFile name hname)
          · intro name hname
            have hget := mem_innerNames.mp hname
            exact ih (hchild name (by simp [hget])) hget (hwithin.child name)
              (hwithin'.child name) (hinner name hname)

/-- The component files below a directory are discovered again. -/
theorem filesBelow_again (h : SameDirectories fs fs' suffix) (hp : p.IsSettled)
    {found : List Path} (hfound : fs.filesBelow p suffix = .ok found) :
    fs'.filesBelow p suffix = .ok found := by
  rw [filesBelow] at hfound ⊢
  obtain ⟨place, hopen, hfound⟩ := exists_ok_of_bind hfound
  have hdir := ((openDirectory_ok_iff hp).mp hopen).2.1.get? h.tree
  obtain ⟨rfl, hopen'⟩ := h.openDirectory hp hopen
  rw [hopen']
  exact filesWithin_again h hp hdir (fs.within_depthBelow _) (fs'.within_depthBelow _) hfound

end FileSystem

/-! ## The whole discovery -/

/-- The ending of a name begins at its last dot, unless there are only dots before it. -/
theorem nameEnding_concat {stem ending : String} (h : '.' ∉ ending.toList) :
    nameEnding (stem ++ "." ++ ending) =
      if stem.toList.all (· = '.') then "" else "." ++ ending := by
  have hlist : (stem ++ "." ++ ending).toList.reverse =
      ending.toList.reverse ++ '.' :: stem.toList.reverse := by
    simp [String.toList_append]
  have hspan : (stem ++ "." ++ ending).toList.reverse.span (· ≠ '.') =
      (ending.toList.reverse, '.' :: stem.toList.reverse) := by
    rw [hlist]
    exact Text.span_append_cons (mt List.mem_reverse.mp h) _
  rw [nameEnding, hspan]
  simp only [List.all_reverse]
  split
  · rfl
  · rw [List.reverse_reverse, ← String.toList_inj]
    simp [String.toList_append]

theorem nameEnding_append {name ending : String} (h : '.' ∉ ending.toList) :
    nameEnding (name ++ "." ++ ending) = "" ∨
      nameEnding (name ++ "." ++ ending) = "." ++ ending := by
  rw [nameEnding_concat h]
  split
  · exact .inl rfl
  · exact .inr rfl

/-- The same files are discovered again, and nothing stands in the way. -/
theorem exec_discover_again {env : Environment} {suffix root : String} {w w' w₁ : World}
    {files : List Path} (h : w.files.SameDirectories w'.files suffix)
    (hdirectory : w'.directory = w.directory)
    (hfound : (discover env suffix root).exec w = (.ok files, w₁)) :
    ∃ w₁', (discover env suffix root).exec w' = (.ok files, w₁') := by
  unfold discover at hfound ⊢
  obtain ⟨path, w₂, hlookPath, hafterPath⟩ := Action.exec_bind_ok hfound
  obtain ⟨hpath, rfl⟩ := Action.exec_look_ok hlookPath
  obtain ⟨e?, w₃, hlookStat, hafterStat⟩ := Action.exec_bind_ok hafterPath
  obtain ⟨hstat, rfl⟩ := Action.exec_look_ok hlookStat
  have hp := env.isSettled_of_pathOf h.tree hpath
  have hpath' : env.pathOf w'.files w'.directory root = .ok path := by
    rw [hdirectory]
    exact h.pathOf hpath
  split at hafterStat
  · cases hafterStat
  · obtain ⟨found, w₄, hlookBelow, hreport⟩ := Action.exec_bind_ok hafterStat
    obtain ⟨hbelow, rfl⟩ := Action.exec_look_ok hlookBelow
    obtain ⟨_, w₅, -, hend⟩ := Action.exec_bind_ok hreport
    obtain ⟨htext, place, hleads⟩ := FileSystem.leads_of_stat? hp hstat
    have hstat' : w'.files.stat? [] path.text = .ok (some .directory) :=
      FileSystem.stat?_of_leads hp htext (hleads.grows h.tree h.grows) []
    have hbelow' := FileSystem.filesBelow_again h hp hbelow
    simp only [Action.exec_bind, Action.exec_look, hpath', hstat', hbelow', Action.exec_report]
    exact ⟨_, by rw [← (Prod.mk.inj hend).1]; rfl⟩
  · cases hafterStat

end ComponentReference
