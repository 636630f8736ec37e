import ComponentReference.Proofs.Host.Joined
import ComponentReference.Host.World

/-!
# File systems that differ in one file

While a log file is open, two runs that write the same pages need not leave the same files: what
they report may differ, and so may the content of the log file.  `FileSystem.SameBut` says that
nothing else does.  It is an equivalence of file systems in which a file is one and the same by
all its names, and more content for the one file stays in its class.

Contents of files do not bear on where paths lead.  So both file systems find the same spots
(`SameBut.locate`), resolve the same paths (`SameBut.resolvePath`), and still differ in the one
file alone after the same content has been written to either (`SameBut.write`).
-/

namespace ComponentReference.FileSystem

variable {fs fs' fs'' : FileSystem} {k l m p : Location} {content old : Bytes} {here : Location}

/-! ## Files that are one by all their names -/

/-- Every file has one content, and one set of attributes, by all its names. -/
def Coherent (fs : FileSystem) : Prop :=
  ∀ l old, fs.get? l = some (.file old) → fs.OneFile l

/-- Files have one name each if no numbers tell them apart. -/
theorem coherent_of_number? (h : ∀ noted ∈ fs.attributes, noted.2.number? = none) :
    fs.Coherent := by
  refine fun l _ _ => OneName.oneFile fun name hname => ?_
  have hnumber : (fs.attributesAt l).number? = none := by
    refine Option.eq_none_iff_forall_ne_some.mpr fun n hn => ?_
    obtain ⟨a, ha, hsome⟩ := number?_eq_some_iff.mp hn
    obtain ⟨before, after, hsplit, -⟩ := List.lookup_eq_some_iff.mp ha
    have := h (l, a) (by simp [hsplit])
    simp [hsome] at this
  rw [namesOf, hnumber] at hname
  exact List.mem_singleton.mp hname

/-- Two files with a name in common have all names in common. -/
theorem Coherent.mem_namesOf (h : fs.Coherent) (hk : fs.get? k = some (.file content))
    (hl : fs.get? l = some (.file old)) (hmk : m ∈ fs.namesOf k) (hml : m ∈ fs.namesOf l) :
    k ∈ fs.namesOf l := by
  have hattributes : fs.attributesAt k = fs.attributesAt l :=
    (h k content hk m hmk).2.symm.trans (h l old hl m hml).2
  cases hnumber : (fs.attributesAt l).number? with
  | none =>
      rw [namesOf, hattributes, hnumber] at hmk
      rw [← List.mem_singleton.mp hmk]
      exact hml
  | some n => exact mem_namesOf_of_number (hattributes ▸ hnumber) hnumber

theorem Coherent.fill (h : fs.Coherent) (hfile : fs.get? p = some (.file old)) :
    (fs.fill p content).Coherent := by
  have hone := h p old hfile
  intro k new hk m hm
  have hmk := mem_namesOf_of_fill hone hfile hm
  by_cases hkp : k ∈ fs.namesOf p
  · have hfilek := hone.get?_eq hfile hkp
    have hmp : m ∈ fs.namesOf p := by
      have hnumber := congrArg Attributes.number? (hone k hkp).2
      cases hn : (fs.attributesAt p).number? with
      | none =>
          rw [namesOf, hnumber, hn] at hmk
          rw [List.mem_singleton.mp hmk]
          exact hkp
      | some n =>
          refine mem_namesOf_of_number ?_ hn
          rw [(h k old hfilek m hmk).2, hnumber, hn]
    have hne : ∀ {m}, m ∈ fs.namesOf p → m ≠ [] := by
      rintro m hm rfl
      simpa using hone.get?_eq hfile hm
    rw [get?_fill, get?_fill, if_pos ⟨hmp, hne hmp⟩, if_pos ⟨hkp, hne hkp⟩,
      attributesAt_fill hone hfile, attributesAt_fill hone hfile, if_pos hmp, if_pos hkp]
    exact ⟨rfl, rfl⟩
  · rw [get?_fill, if_neg fun hk => hkp hk.1] at hk
    have hmp : m ∉ fs.namesOf p := fun hmp => hkp (h.mem_namesOf hk hfile hmk hmp)
    rw [get?_fill, get?_fill, if_neg fun hm => hmp hm.1, if_neg fun hk => hkp hk.1,
      attributesAt_fill hone hfile, attributesAt_fill hone hfile, if_neg hmp, if_neg hkp]
    exact h k new hk m hmk

theorem Coherent.make (h : fs.Coherent) (hnone : fs.get? p = none) (e : Entry) (mode : Mode) :
    (fs.make p e mode).Coherent := by
  intro k new hk
  by_cases hkp : k = p
  · subst hkp
    exact (oneName_make_self fs k e mode).oneFile
  rw [get?_make, if_neg fun hk => hkp hk.1] at hk
  have hthere : fs.get? k ≠ none := by simp [hk]
  intro m hm
  have hmk := (mem_namesOf_make e mode hnone (h k new hk) hthere).mp hm
  obtain ⟨hget, hattributes⟩ := h k new hk m hmk
  have hmp : m ≠ p := by
    rintro rfl
    exact hthere (hget.symm.trans hnone)
  rw [get?_make, get?_make, if_neg fun hm => hmp hm.1, if_neg fun hk => hkp hk.1,
    attributesAt_make_of_ne fs e mode hmp, attributesAt_make_of_ne fs e mode hkp]
  exact ⟨hget, hattributes⟩

/-! ## The number of links -/

theorem linkCount_put_file (h : ∀ target, fs.get? l ≠ some (.link target)) (hl : l ≠ [])
    (content : Bytes) : (fs.put l (.file content)).linkCount = fs.linkCount := by
  simp only [get?, if_neg hl] at h
  simp only [linkCount, put]
  generalize fs.entries = entries at h
  induction entries with
  | nil => rfl
  | cons entry rest ih =>
      rw [Keyed.put]
      by_cases hkey : entry.1 = l
      · obtain ⟨place, e⟩ := entry
        subst hkey
        rw [if_pos rfl, List.countP_cons, List.countP_cons]
        cases e with
        | link target => exact absurd (List.lookup_cons_self ..) (h target)
        | _ => rfl
      · rw [if_neg hkey, List.countP_cons, List.countP_cons, ih fun target htarget => ?_]
        refine h target ?_
        rw [List.lookup_cons, beq_false_of_ne (Ne.symm hkey)]
        exact htarget

theorem linkCount_foldl_put_file (names : List Location) (content : Bytes) :
    ∀ {fs : FileSystem}, (∀ name ∈ names, ∃ old, fs.get? name = some (.file old)) →
      (names.foldl (fun fs name => fs.put name (.file content)) fs).linkCount = fs.linkCount := by
  induction names with
  | nil => exact fun _ => rfl
  | cons name rest ih =>
      intro fs hfiles
      obtain ⟨old, hold⟩ := hfiles name (List.mem_cons_self ..)
      have hname : name ≠ [] := by
        rintro rfl
        simp at hold
      have hrest : ∀ m ∈ rest, ∃ old',
          (fs.put name (.file content)).get? m = some (.file old') := by
        intro m hm
        rw [get?_put]
        split
        · exact ⟨content, rfl⟩
        · exact hfiles m (List.mem_cons_of_mem _ hm)
      rw [List.foldl_cons, ih hrest, linkCount_put_file (by simp [hold]) hname]

theorem linkCount_foldl_mark (names : List Location) (a : Attributes) (fs : FileSystem) :
    (names.foldl (fun fs name => fs.mark name a) fs).linkCount = fs.linkCount := by
  induction names generalizing fs with
  | nil => rfl
  | cons name rest ih => exact ih _

theorem linkCount_fill (hone : fs.OneFile p) (hfile : fs.get? p = some (.file old)) :
    (fs.fill p content).linkCount = fs.linkCount := by
  rw [FileSystem.fill, markAll, linkCount_foldl_mark,
    linkCount_foldl_put_file _ _ fun m hm => ⟨old, hone.get?_eq hfile hm⟩]

theorem linkCount_make_file (hnone : fs.get? p = none) (content : Bytes) (mode : Mode) :
    (fs.make p (.file content) mode).linkCount = fs.linkCount := by
  have hp : p ≠ [] := by
    rintro rfl
    simp at hnone
  exact linkCount_put_file (by simp [hnone]) hp content

/-! ## Differing in one file -/

/-- The file systems differ in the content of the file at the place, and in the times of
changes. -/
structure SameBut (l : Location) (fs fs' : FileSystem) : Prop where
  coherent : fs.Coherent
  coherent' : fs'.Coherent
  linkCount : fs'.linkCount = fs.linkCount
  entry : ∀ k, fs'.get? k = fs.get? k ∨
    ∃ old new, fs.get? k = some (.file old) ∧ fs'.get? k = some (.file new)
  attributes : ∀ k, ∃ changed, fs'.attributesAt k = { fs.attributesAt k with changed }
  elsewhere : ∀ k, k ∉ fs.reached l → fs'.get? k = fs.get? k

namespace SameBut

theorem refl (h : fs.Coherent) (l : Location) : fs.SameBut l fs :=
  ⟨h, h, rfl, fun _ => .inl rfl, fun _ => ⟨_, rfl⟩, fun _ _ => rfl⟩

variable (h : SameBut l fs fs')
include h

theorem number? (k : Location) : (fs'.attributesAt k).number? = (fs.attributesAt k).number? := by
  obtain ⟨changed, heq⟩ := h.attributes k
  rw [heq]

theorem rightsAt (k : Location) : fs'.rightsAt k = fs.rightsAt k := by
  obtain ⟨changed, heq⟩ := h.attributes k
  simp only [FileSystem.rightsAt, heq]

/-- What is no file is the same. -/
theorem get?_eq (hno : ∀ old, fs.get? k ≠ some (.file old)) : fs'.get? k = fs.get? k := by
  rcases h.entry k with heq | ⟨old, new, hold, -⟩
  · exact heq
  · exact absurd hold (hno old)

theorem exists_file (hk : fs.get? k = some (.file old)) : ∃ new, fs'.get? k = some (.file new) := by
  rcases h.entry k with heq | ⟨old', new, -, hnew⟩
  · exact ⟨old, heq.trans hk⟩
  · exact ⟨new, hnew⟩

theorem mem_namesOf_iff (hk : fs.get? k = some (.file old)) :
    m ∈ fs'.namesOf k ↔ m ∈ fs.namesOf k := by
  obtain ⟨new, hnew⟩ := h.exists_file hk
  exact ⟨(h.coherent' k new hnew).mem_namesOf fun m _ => (h.number? m).symm,
    (h.coherent k old hk).mem_namesOf fun m _ => h.number? m⟩

theorem mem_reached_iff : m ∈ fs'.reached l ↔ m ∈ fs.reached l := by
  by_cases hfile : ∃ old, fs.get? l = some (.file old)
  · obtain ⟨old, hold⟩ := hfile
    obtain ⟨new, hnew⟩ := h.exists_file hold
    rw [reached_of_file hold, reached_of_file hnew, h.mem_namesOf_iff hold]
  · have hno : ∀ old, fs.get? l ≠ some (.file old) := fun old hold => hfile ⟨old, hold⟩
    rw [reached_of_no_file hno, reached_of_no_file (h.get?_eq hno ▸ hno)]

theorem symm : SameBut l fs' fs where
  coherent := h.coherent'
  coherent' := h.coherent
  linkCount := h.linkCount.symm
  entry k := (h.entry k).imp Eq.symm fun ⟨old, new, hold, hnew⟩ => ⟨new, old, hnew, hold⟩
  attributes k := by
    obtain ⟨changed, heq⟩ := h.attributes k
    exact ⟨(fs.attributesAt k).changed, by rw [heq]⟩
  elsewhere k hk := (h.elsewhere k (mt h.mem_reached_iff.mpr hk)).symm

theorem trans (h' : SameBut l fs' fs'') : SameBut l fs fs'' where
  coherent := h.coherent
  coherent' := h'.coherent'
  linkCount := h'.linkCount.trans h.linkCount
  entry k := by
    rcases h.entry k with heq | ⟨old, new, hold, hnew⟩
    · rw [← heq]
      exact h'.entry k
    · obtain ⟨last, hlast⟩ := h'.exists_file hnew
      exact .inr ⟨old, last, hold, hlast⟩
  attributes k := by
    obtain ⟨changed, heq⟩ := h.attributes k
    obtain ⟨changed', heq'⟩ := h'.attributes k
    exact ⟨changed', by rw [heq', heq]⟩
  elsewhere k hk :=
    (h'.elsewhere k (mt h.mem_reached_iff.mp hk)).trans (h.elsewhere k hk)

theorem isDirectoryAt (k : Location) : fs'.isDirectoryAt k = fs.isDirectoryAt k := by
  rcases h.entry k with heq | ⟨old, new, hold, hnew⟩
  · simp only [FileSystem.isDirectoryAt, heq]
  · simp [FileSystem.isDirectoryAt, hold, hnew]

end SameBut

/-! ## Where paths lead -/

/-- The spot as another file system has it, in which a file can have another content. -/
def review (fs : FileSystem) (spot : Spot) : Spot :=
  match spot.entry? with
  | some (.file _) => ⟨spot.location, fs.get? spot.location⟩
  | _ => spot

@[simp] theorem location_review (fs : FileSystem) (spot : Spot) :
    (fs.review spot).location = spot.location := by
  unfold review
  split <;> rfl

/-- What has been found at the spot is there, but for the directory that a path begins at, which
may have been removed. -/
def Holds (fs : FileSystem) (spot : Spot) : Prop :=
  spot.entry? ≠ some .directory → fs.get? spot.location = spot.entry?

theorem holds_walkWith {manner : Manner}
    {jump : Location → String → List String → Except Errno Spot}
    (hjump : ∀ {here target rest spot}, jump here target rest = .ok spot → fs.Holds spot) :
    ∀ {names here spot}, fs.walkWith manner jump here names = .ok spot → fs.Holds spot := by
  intro names
  induction names with
  | nil =>
      intro here spot hspot hentry
      obtain rfl := Except.ok.inj hspot
      exact absurd rfl hentry
  | cons name rest ih =>
      intro here spot hspot
      rw [walkWith] at hspot
      dsimp only at hspot
      split at hspot
      · cases hspot
      split at hspot
      · exact ih hspot
      split at hspot
      · cases hspot
      split at hspot
      · cases hspot
      split at hspot
      · exact ih hspot
      · next target hlink =>
          split at hspot
          · obtain rfl := Except.ok.inj hspot
            exact fun _ => hlink
          · exact hjump hspot
      · next e _ _ hget =>
          split at hspot
          · obtain rfl := Except.ok.inj hspot
            exact fun _ => hget
          · cases hspot
      · next hnone =>
          split at hspot
          · obtain rfl := Except.ok.inj hspot
            exact fun _ => hnone
          · cases hspot

theorem holds_walk : ∀ {links manner here names spot},
    fs.walk links manner here names = .ok spot → fs.Holds spot := by
  intro links
  induction links with
  | zero =>
      intro manner here names spot hspot
      refine holds_walkWith (fun hjump => ?_) hspot
      cases hjump
  | succ links ih => exact fun hspot => holds_walkWith (fun hjump => ih hjump) hspot

theorem holds_of_locate {manner : Manner} {path : String} {spot : Spot}
    (h : fs.locate here manner path = .ok spot) : fs.Holds spot := by
  rw [locate_eq] at h
  split at h
  · cases h
  cases hwalk : fs.walk maxLinks (manner.endingAs path) (start here path) (Path.namesIn path) with
  | error e =>
      rw [hwalk] at h
      cases h
  | ok found =>
      rw [hwalk] at h
      obtain rfl := Except.ok.inj h
      exact holds_walk hwalk

namespace SameBut

variable (h : SameBut l fs fs')
include h

/-- A spot away from the one file is the same. -/
theorem review_eq {spot : Spot} (hholds : fs.Holds spot) (hl : spot.location ∉ fs.reached l) :
    fs'.review spot = spot := by
  unfold review
  split
  · next content hfile => rw [h.elsewhere _ hl, hholds (by simp [hfile])]
  · rfl

theorem walkWith {manner : Manner}
    {jump jump' : Location → String → List String → Except Errno Spot}
    (hjump : ∀ here target rest, jump' here target rest = (jump here target rest).map fs'.review) :
    ∀ names here, fs'.walkWith manner jump' here names =
      (fs.walkWith manner jump here names).map fs'.review := by
  intro names
  induction names with
  | nil => exact fun here => rfl
  | cons name rest ih =>
      intro here
      have hrun : fs'.mayRun here = fs.mayRun here := by simp only [mayRun, h.rightsAt]
      rw [FileSystem.walkWith, FileSystem.walkWith, hrun]
      dsimp only
      split
      · rfl
      split
      · exact ih _
      split
      · rfl
      split
      · rfl
      rcases h.entry (here ++ [name]) with heq | ⟨old, new, hold, hnew⟩
      · rw [heq, h.isDirectoryAt]
        cases hget : fs.get? (here ++ [name]) with
        | none =>
            dsimp only
            split <;> rfl
        | some e =>
            cases e with
            | directory => exact ih _
            | link target =>
                dsimp only
                split
                · rfl
                · exact hjump ..
            | file content =>
                dsimp only
                split
                · simp only [Except.map, review, heq, hget]
                · rfl
            | device device =>
                dsimp only
                split <;> rfl
            | queue =>
                dsimp only
                split <;> rfl
      · rw [hold, hnew]
        dsimp only
        split
        · simp only [Except.map, review, hnew]
        · rfl

theorem walk : ∀ links manner here names, fs'.walk links manner here names =
    (fs.walk links manner here names).map fs'.review := by
  intro links
  induction links with
  | zero =>
      intro manner here names
      rw [FileSystem.walk, FileSystem.walk]
      refine h.walkWith (fun here target rest => ?_) names here
      rfl
  | succ links ih =>
      intro manner here names
      exact h.walkWith (fun here target rest => ih _ _ _) names here

/-- Paths lead to the same spots. -/
theorem locate (here : Location) (manner : Manner) (path : String) :
    fs'.locate here manner path = (fs.locate here manner path).map fs'.review := by
  rw [locate_eq, locate_eq, h.walk]
  split
  · rfl
  · cases fs.walk maxLinks (manner.endingAs path) (start here path) (Path.namesIn path) <;> rfl

/-- What is looked at is there in both, or refused by both. -/
theorem stat (here : Location) (path : String) :
    (∃ fault, fs.stat here path = .error fault ∧ fs'.stat here path = .error fault) ∨
      ∃ e e', fs.stat here path = .ok e ∧ fs'.stat here path = .ok e' := by
  unfold FileSystem.stat
  rw [h.locate]
  rcases hlocate : fs.locate here {} path with fault | ⟨place, e?⟩
  · exact .inl ⟨fault, rfl, rfl⟩
  rcases e? with _ | e
  · exact .inl ⟨_, rfl, rfl⟩
  refine .inr ⟨e, ?_⟩
  cases e with
  | file content =>
      obtain ⟨new, hnew⟩ := h.exists_file (holds_of_locate hlocate (by simp))
      refine ⟨.file new, rfl, ?_⟩
      simp only [Except.map, review, hnew]
  | _ => exact ⟨_, rfl, rfl⟩

theorem isSome_stat? (here : Location) (path : String) :
    (fs'.stat? here path).map Option.isSome = (fs.stat? here path).map Option.isSome := by
  unfold FileSystem.stat?
  obtain ⟨fault, hstat, hstat'⟩ | ⟨e, e', hstat, hstat'⟩ := h.stat here path
  · rw [hstat, hstat']
  · rw [hstat, hstat']
    rfl

/-- A file that is not the one is read with the same content. -/
theorem read {path : String}
    (hl : ∀ spot, fs.locate here {} path = .ok spot → spot.location ∉ fs.reached l) :
    fs'.read here path = fs.read here path := by
  unfold FileSystem.read
  rw [h.locate]
  cases hlocate : fs.locate here {} path with
  | error fault => rfl
  | ok spot =>
      simp only [Except.map, h.review_eq (holds_of_locate hlocate) (hl spot hlocate), mayRead,
        h.rightsAt]
      rfl

theorem linkTarget? (here : Location) (path : Path) :
    fs'.linkTarget? here path = fs.linkTarget? here path := by
  unfold FileSystem.linkTarget?
  rw [h.locate]
  rcases hlocate : fs.locate here { followLast := false } path.text with fault | ⟨place, e?⟩
  · rfl
  rcases e? with _ | e
  · rfl
  cases e with
  | file content =>
      obtain ⟨new, hnew⟩ := h.exists_file (holds_of_locate hlocate (by simp))
      simp only [Except.map, review, hnew]
  | _ => rfl

theorem resolveWith
    (jump : MetLinks → Path → String → Except Fault (Resolution × MetLinks)) :
    ∀ pieces met path, fs'.resolveWith here jump met path pieces =
      fs.resolveWith here jump met path pieces := by
  intro pieces
  induction pieces with
  | nil => exact fun _ _ => rfl
  | cons piece rest ih =>
      intro met path
      rw [FileSystem.resolveWith, FileSystem.resolveWith]
      simp only [h.linkTarget?, ih]

theorem resolveText (levels : Nat) : ∀ met directory text,
    fs'.resolveText here levels met directory text =
      fs.resolveText here levels met directory text := by
  induction levels with
  | zero => exact fun met directory text => h.resolveWith _ _ _ _
  | succ levels ih =>
      intro met directory text
      rw [FileSystem.resolveText, FileSystem.resolveText, h.resolveWith]
      rw [funext fun met => funext fun directory => funext fun text => ih met directory text]

/-- Paths are resolved to the same paths. -/
theorem resolve (path : Path) : fs'.resolve here path = fs.resolve here path := by
  have habsolute : ∀ p, fs'.absolute here p = fs.absolute here p := fun p => by
    simp only [FileSystem.absolute, h.isDirectoryAt]
  unfold FileSystem.resolve
  rw [h.resolveText, h.linkCount]
  rcases fs.resolveText here (fs.linkCount * pathSizeLimit) [] {} path.text with
    fault | ⟨resolution, met⟩
  · rfl
  dsimp only
  rw [habsolute]
  rcases fs.absolute here resolution.path with fault | resolved
  · rfl
  dsimp only
  obtain ⟨fault, hstat, hstat'⟩ | ⟨e, e', hstat, hstat'⟩ := h.stat here resolved.text <;>
    rw [hstat, hstat']

theorem resolvePath (env : Environment) (root : Path) (value : String) :
    env.resolvePath fs' here root value = env.resolvePath fs here root value := by
  unfold Environment.resolvePath
  cases env.expandHome (Path.ofString value) with
  | error fault => rfl
  | ok path => exact h.resolve _

end SameBut

/-! ## What is written to either -/

/-- The file at a place is known by its names after another has been filled. -/
theorem mem_reached_of_fill (h : fs.Coherent) (hfile : fs.get? p = some (.file old))
    (hm : m ∈ fs.reached l) : m ∈ (fs.fill p content).reached l := by
  by_cases hl : ∃ old, fs.get? l = some (.file old)
  · obtain ⟨old', hold'⟩ := hl
    have hfilled : ∃ new, (fs.fill p content).get? l = some (.file new) := by
      rw [get?_fill]
      split
      · exact ⟨content, rfl⟩
      · exact ⟨old', hold'⟩
    obtain ⟨new, hnew⟩ := hfilled
    rw [reached_of_file hold'] at hm
    rw [reached_of_file hnew]
    exact (h l old' hold').mem_namesOf (fun m _ => number?_fill (h p old hfile) hfile m) hm
  · rw [reached_of_no_file fun old hold => hl ⟨old, hold⟩] at hm
    rw [List.mem_singleton.mp hm]
    exact mem_reached_self _ l

theorem mem_reached_of_make (h : fs.Coherent) (hnone : fs.get? p = none) (e : Entry) (mode : Mode)
    (hm : m ∈ fs.reached l) : m ∈ (fs.make p e mode).reached l := by
  by_cases hl : ∃ old, fs.get? l = some (.file old)
  · obtain ⟨old, hold⟩ := hl
    have hlp : l ≠ p := by
      rintro rfl
      simp [hnone] at hold
    have hmade : (fs.make p e mode).get? l = some (.file old) := by
      rw [get?_make, if_neg fun hl => hlp hl.1, hold]
    rw [reached_of_file hold] at hm
    rw [reached_of_file hmade]
    exact (mem_namesOf_make e mode hnone (h l old hold) (by simp [hold])).mpr hm
  · rw [reached_of_no_file fun old hold => hl ⟨old, hold⟩] at hm
    rw [List.mem_singleton.mp hm]
    exact mem_reached_self _ l

namespace SameBut

variable (h : SameBut l fs fs')
include h

theorem fill (hfile : fs.get? p = some (.file old)) (content : Bytes) :
    SameBut l (fs.fill p content) (fs'.fill p content) := by
  obtain ⟨new, hnew⟩ := h.exists_file hfile
  have hone := h.coherent p old hfile
  have hone' := h.coherent' p new hnew
  have hget : ∀ k, (fs'.fill p content).get? k = (fs.fill p content).get? k ∨
      fs'.get? k = (fs'.fill p content).get? k ∧ fs.get? k = (fs.fill p content).get? k := by
    intro k
    simp only [get?_fill, h.mem_namesOf_iff hfile]
    split
    · exact .inl rfl
    · exact .inr ⟨rfl, rfl⟩
  refine ⟨h.coherent.fill hfile, h.coherent'.fill hnew, ?_, fun k => ?_, fun k => ?_,
    fun k hk => ?_⟩
  · rw [linkCount_fill hone hfile, linkCount_fill hone' hnew, h.linkCount]
  · rcases hget k with heq | ⟨heq', heq⟩
    · exact .inl heq
    · rw [← heq', ← heq]
      exact h.entry k
  · rw [attributesAt_fill hone hfile, attributesAt_fill hone' hnew]
    simp only [h.mem_namesOf_iff hfile]
    split
    · obtain ⟨changed, heq⟩ := h.attributes p
      exact ⟨fs'.clock, by rw [heq]⟩
    · exact h.attributes k
  · rcases hget k with heq | ⟨heq', heq⟩
    · exact heq
    · rw [← heq', ← heq]
      exact h.elsewhere k (mt (mem_reached_of_fill h.coherent hfile) hk)

theorem make (hnone : fs.get? p = none) (content : Bytes) (mode : Mode) :
    SameBut l (fs.make p (.file content) mode) (fs'.make p (.file content) mode) := by
  have hnone' : fs'.get? p = none := (h.get?_eq (by simp [hnone])).trans hnone
  refine ⟨h.coherent.make hnone _ mode, h.coherent'.make hnone' _ mode, ?_, fun k => ?_,
    fun k => ?_, fun k hk => ?_⟩
  · rw [linkCount_make_file hnone, linkCount_make_file hnone', h.linkCount]
  · rw [get?_make, get?_make]
    split
    · exact .inl rfl
    · exact h.entry k
  · by_cases hk : k = p
    · subst hk
      exact ⟨fs'.clock, by rw [attributesAt_make_self, attributesAt_make_self]⟩
    · rw [attributesAt_make_of_ne fs _ mode hk, attributesAt_make_of_ne fs' _ mode hk]
      exact h.attributes k
  · rw [get?_make, get?_make]
    split
    · rfl
    · exact h.elsewhere k (mt (mem_reached_of_make h.coherent hnone _ mode) hk)

/-- The same content is written to both, or both refuse it. -/
theorem write (here : Location) (path : String) (content : Bytes) :
    (∃ fault, fs.write here path content = .error fault ∧
        fs'.write here path content = .error fault) ∨
      ∃ written written', fs.write here path content = .ok written ∧
        fs'.write here path content = .ok written' ∧ SameBut l written written' := by
  have hwrite : ∀ k, fs'.mayWrite k = fs.mayWrite k := fun k => by
    simp only [mayWrite, h.rightsAt]
  have hchange : ∀ k, fs'.mayChange k = fs.mayChange k := fun k => by
    simp only [mayChange, mayRun, mayWrite, h.rightsAt]
  unfold FileSystem.write modify
  rw [h.locate]
  rcases hlocate : fs.locate here { creating := true } path with fault | ⟨place, _ | e⟩
  · exact .inl ⟨fault, rfl, rfl⟩
  · have hnone : fs.get? place = none := holds_of_locate hlocate (by simp)
    simp only [Except.map, review, hchange]
    split
    · exact .inr ⟨_, _, rfl, rfl, h.make hnone content _⟩
    · exact .inl ⟨_, rfl, rfl⟩
  cases e with
  | directory => exact .inl ⟨_, rfl, rfl⟩
  | link target => exact .inl ⟨_, rfl, rfl⟩
  | file old =>
      have hfile : fs.get? place = some (.file old) := holds_of_locate hlocate (by simp)
      obtain ⟨new, hnew⟩ := h.exists_file hfile
      simp only [Except.map, review, hnew, hwrite]
      split
      · exact .inl ⟨_, rfl, rfl⟩
      · exact .inr ⟨_, _, rfl, rfl, h.fill hfile content⟩
  | device device =>
      simp only [Except.map, review, hwrite]
      split
      · exact .inl ⟨_, rfl, rfl⟩
      · cases device with
        | full =>
            dsimp only
            split
            · exact .inr ⟨_, _, rfl, rfl, h⟩
            · exact .inl ⟨_, rfl, rfl⟩
        | terminal => exact .inl ⟨_, rfl, rfl⟩
        | _ => exact .inr ⟨_, _, rfl, rfl, h⟩
  | queue =>
      simp only [Except.map, review, hwrite]
      split
      · exact .inl ⟨_, rfl, rfl⟩
      · exact .inr ⟨_, _, rfl, rfl, h⟩

end SameBut

/-- More content for the one file makes no other difference. -/
theorem Coherent.extend (h : fs.Coherent) (l : Location) (more : Bytes) :
    SameBut l fs (fs.extend l more) := by
  unfold FileSystem.extend
  split
  · next old hfile =>
      have hone := h l old hfile
      refine ⟨h, h.fill hfile, linkCount_fill hone hfile, fun k => ?_, fun k => ?_, fun k hk => ?_⟩
      · rw [get?_fill]
        split
        · next hk => exact .inr ⟨old, _, hone.get?_eq hfile hk.1, rfl⟩
        · exact .inl rfl
      · rw [attributesAt_fill hone hfile]
        split
        · next hk => exact ⟨fs.clock, by rw [(hone k hk).2]⟩
        · exact ⟨_, rfl⟩
      · rw [reached_of_file hfile] at hk
        rw [get?_fill, if_neg fun hmem => hk hmem.1]
  · exact .refl h l

end ComponentReference.FileSystem
