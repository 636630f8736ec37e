import ComponentReference.Proofs.Site.Discovering
import ComponentReference.Proofs.Site.Sample
import Mathlib.Data.List.TakeWhile

/-!
# What discovery finds

Discovery finds the component files below a directory, each once, and nothing else:
`exec_discover_components`.  It enters directories only, and no links, so that it comes to an
end whatever the links lead to.  A file has the ending that is looked for, and is a regular
one or a link that leads to one.

Discovery stops if one of the directories cannot be opened, or what has the ending cannot be
looked up, and only then.  The fault it stops with is the one of such a refusal
(`FileSystem.Refuses`); `FileSystem.Searchable` says that all is well.

## Strategy

What is below a directory is what is in it, and what is below the directories in it.  So
component files, and that all is well, are taken apart by the first name on the way
(`isComponent_iff`, `searchable_iff`).  A search goes the same way, one level after the other
(`filesWithin_ok_iff`), and by induction on the levels both agree.  Files of two directories
differ in the name where the ways part.
-/

namespace ComponentReference

/-! ## Endings of names -/

/-- The ending of a name: from its last dot on, if there is anything but dots before it. -/
inductive IsEnding (name : String) : String → Prop
  | dotted (stem ending : String) (hname : name = stem ++ "." ++ ending)
      (hlast : '.' ∉ ending.toList) (hstem : ∃ c ∈ stem.toList, c ≠ '.') :
      IsEnding name ("." ++ ending)
  | none (hdots : ∀ stem ending, name = stem ++ "." ++ ending → '.' ∉ ending.toList →
      ∀ c ∈ stem.toList, c = '.') : IsEnding name ""

/-- A text with a dot in it has a last one. -/
theorem exists_last_dot {name : String} (h : '.' ∈ name.toList) :
    ∃ stem ending : String, name = stem ++ "." ++ ending ∧ '.' ∉ ending.toList := by
  obtain ⟨after, before, hsplit, hafter⟩ := List.eq_append_cons_of_mem (List.mem_reverse.mpr h)
  refine ⟨String.ofList before.reverse, String.ofList after.reverse, ?_, by simpa using hafter⟩
  rw [← String.toList_inj, ← List.reverse_inj, hsplit]
  simp

theorem nameEnding_of_not_mem {name : String} (h : '.' ∉ name.toList) : nameEnding name = "" := by
  have hspan : name.toList.reverse.span (· ≠ '.') = (name.toList.reverse, []) := by
    have hall : ∀ c ∈ name.toList.reverse, decide (c ≠ '.') = true := by
      intro c hc
      rw [decide_eq_true_eq]
      rintro rfl
      exact h (List.mem_reverse.mp hc)
    rw [List.span_eq_takeWhile_dropWhile, List.takeWhile_eq_self_iff.mpr hall,
      List.dropWhile_eq_nil_iff.mpr hall]
  rw [nameEnding, hspan]

theorem nameEnding_eq_iff {name ending : String} :
    nameEnding name = ending ↔ IsEnding name ending := by
  have hall : ∀ s : String, s.toList.all (· = '.') ↔ ∀ c ∈ s.toList, c = '.' := by simp
  by_cases hdot : '.' ∈ name.toList
  · obtain ⟨stem, last, rfl, hlast⟩ := exists_last_dot hdot
    constructor
    · rintro rfl
      rw [nameEnding_concat hlast]
      split
      · next hdots =>
          refine .none fun stem' last' hname hlast' => ?_
          have hsame : nameEnding (stem' ++ "." ++ last') = "" := by
            rw [← hname, nameEnding_concat hlast, if_pos hdots]
          rw [nameEnding_concat hlast'] at hsame
          by_contra hnot
          rw [if_neg (mt (hall stem').mp hnot), String.append_eq_empty_iff] at hsame
          exact absurd hsame.1 (by decide)
      · next hdots =>
          rw [hall] at hdots
          push Not at hdots
          exact .dotted stem last rfl hlast hdots
    · generalize hname : stem ++ "." ++ last = name
      rintro (⟨stem', last', rfl, hlast', hstem⟩ | hdots)
      · rw [nameEnding_concat hlast', if_neg]
        rw [hall]
        push Not
        exact hstem
      · rw [← hname, nameEnding_concat hlast,
          if_pos ((hall stem).mpr (hdots stem last hname.symm hlast))]
  · have hno : ∀ stem last : String, name ≠ stem ++ "." ++ last := by
      rintro stem last rfl
      simp at hdot
    rw [nameEnding_of_not_mem hdot]
    constructor
    · rintro rfl
      exact .none fun stem last hname => absurd hname (hno stem last)
    · rintro (⟨stem, last, hname, -, -⟩ | -)
      · exact absurd hname (hno stem last)
      · rfl

/-! ## What is below a directory -/

/-- The path with names behind it. -/
def Path.below (p : Path) (names : List String) : Path :=
  { p with names := p.names ++ names }

@[simp] theorem Path.below_nil (p : Path) : p.below [] = p := by
  simp [below]

@[simp] theorem Path.below_child (p : Path) (name : String) (names : List String) :
    (p.child name).below names = p.below (name :: names) := by
  simp [below, child]

theorem Path.below_singleton (p : Path) (name : String) : p.below [name] = p.child name := rfl

namespace FileSystem

variable {fs : FileSystem} {suffix name : String} {p : Path} {place : Location}

/-- The names lead from the place through directories alone. -/
def Inside (fs : FileSystem) (place : Location) (dirs : List String) : Prop :=
  ∀ before, before <+: dirs → fs.get? (place ++ before) = some .directory

/-- A regular file is at the place, or a link that leads to one. -/
inductive HasFile (fs : FileSystem) (place : Location) (p : Path) : Prop
  | regular (content : Bytes) (hfile : fs.get? place = some (.file content))
  | link (target : String) (content : Bytes) (hlink : fs.get? place = some (.link target))
      (hfile : fs.stat [] p.text = .ok (.file content))

/-- The path is that of a file with the ending, below the directory at `place`, to which the
path `p` leads. -/
def IsComponent (fs : FileSystem) (suffix : String) (p : Path) (place : Location) (file : Path) :
    Prop :=
  ∃ dirs name, file = p.below (dirs ++ [name]) ∧ fs.Inside place dirs ∧
    fs.HasFile (place ++ dirs ++ [name]) file ∧ IsEnding name suffix

/-- Every directory below can be opened, and whatever else has the ending can be looked up. -/
structure Searchable (fs : FileSystem) (suffix : String) (p : Path) (place : Location) : Prop where
  opens : ∀ dirs, fs.Inside place dirs → ∃ l, fs.openDirectory (p.below dirs) = .ok l
  looks : ∀ dirs name e, fs.Inside place dirs → fs.get? (place ++ dirs ++ [name]) = some e →
    e ≠ .directory → IsEnding name suffix →
      ∃ e?, fs.stat? [] (p.below (dirs ++ [name])).text = .ok e?

/-- A directory below cannot be opened, or something else that has the ending cannot be looked
up, and this is the fault. -/
inductive Refuses (fs : FileSystem) (suffix : String) (p : Path) (place : Location)
    (fault : Fault) : Prop
  | opening (dirs : List String) (hinside : fs.Inside place dirs)
      (hfault : fs.openDirectory (p.below dirs) = .error fault)
  | looking (dirs : List String) (name : String) (e : Entry) (hinside : fs.Inside place dirs)
      (he : fs.get? (place ++ dirs ++ [name]) = some e) (hnot : e ≠ .directory)
      (hending : IsEnding name suffix)
      (hfault : fs.stat? [] (p.below (dirs ++ [name])).text = .error fault)

/-! ### By the first name on the way -/

theorem inside_nil : fs.Inside place [] ↔ fs.get? place = some .directory := by
  simp [Inside]

theorem inside_cons {dirs : List String} : fs.Inside place (name :: dirs) ↔
    fs.get? place = some .directory ∧ fs.Inside (place ++ [name]) dirs := by
  constructor
  · intro h
    refine ⟨by simpa using h [] (List.nil_prefix ..), fun before hbefore => ?_⟩
    have := h (name :: before) (by simpa using hbefore)
    simpa using this
  · rintro ⟨hplace, h⟩ before hbefore
    rcases before with _ | ⟨first, before⟩
    · simpa using hplace
    · obtain ⟨rfl, hrest⟩ := List.cons_prefix_cons.mp hbefore
      simpa using h before hrest

/-- The directory has such an entry, with the ending, that is none itself. -/
theorem mem_ownNames : name ∈ fs.ownNames suffix place ↔
    ∃ e, fs.get? (place ++ [name]) = some e ∧ e ≠ .directory ∧ IsEnding name suffix := by
  rw [ownNames, List.mem_filter, mem_children_iff, Option.ne_none_iff_exists',
    ← nameEnding_eq_iff]
  simp only [Bool.and_eq_true, Bool.not_eq_true', decide_eq_true_eq, ← Bool.not_eq_true,
    isDirectoryAt_iff]
  constructor
  · rintro ⟨⟨e, he⟩, hdir, hending⟩
    exact ⟨e, he, fun heq => hdir (heq ▸ he), hending⟩
  · rintro ⟨e, he, hdir, hending⟩
    exact ⟨⟨e, he⟩, fun heq => hdir (Option.some.inj (he.symm.trans heq)), hending⟩

theorem isComponent_iff {file : Path} (hdir : fs.get? place = some .directory) :
    fs.IsComponent suffix p place file ↔
      (∃ name ∈ fs.ownNames suffix place, file = p.child name ∧
        fs.HasFile (place ++ [name]) file) ∨
      ∃ name ∈ fs.innerNames place,
        fs.IsComponent suffix (p.child name) (place ++ [name]) file := by
  constructor
  · rintro ⟨dirs, name, hfile, hinside, hhas, hending⟩
    rcases dirs with _ | ⟨first, dirs⟩
    · refine .inl ⟨name, mem_ownNames.mpr ?_, hfile, by simpa using hhas⟩
      rcases hhas with ⟨content, h⟩ | ⟨target, content, h, -⟩ <;>
        exact ⟨_, by simpa using h, by simp, hending⟩
    · obtain ⟨-, hinner⟩ := inside_cons.mp hinside
      refine .inr ⟨first, mem_innerNames.mpr ?_, dirs, name, by simpa using hfile, hinner,
        by simpa using hhas, hending⟩
      simpa using hinner [] (List.nil_prefix ..)
  · rintro (⟨name, hname, hfile, hhas⟩ | ⟨first, -, dirs, name, hfile, hinside, hhas, hending⟩)
    · obtain ⟨e, -, -, hending⟩ := mem_ownNames.mp hname
      exact ⟨[], name, hfile, inside_nil.mpr hdir, by simpa using hhas, hending⟩
    · exact ⟨first :: dirs, name, by simpa using hfile, inside_cons.mpr ⟨hdir, hinside⟩,
        by simpa using hhas, hending⟩

theorem searchable_iff (hdir : fs.get? place = some .directory) :
    fs.Searchable suffix p place ↔ (∃ l, fs.openDirectory p = .ok l) ∧
      (∀ name ∈ fs.ownNames suffix place, ∃ e?, fs.stat? [] (p.child name).text = .ok e?) ∧
      ∀ name ∈ fs.innerNames place, fs.Searchable suffix (p.child name) (place ++ [name]) := by
  constructor
  · rintro ⟨hopens, hlooks⟩
    refine ⟨by simpa using hopens [] (inside_nil.mpr hdir), fun name hname => ?_,
      fun name hname => ⟨fun dirs hinside => ?_, fun dirs last e hinside he => ?_⟩⟩
    · obtain ⟨e, he, hnot, hending⟩ := mem_ownNames.mp hname
      exact hlooks [] name e (inside_nil.mpr hdir) (by simpa using he) hnot hending
    · simpa using hopens (name :: dirs) (inside_cons.mpr ⟨hdir, hinside⟩)
    · simpa using hlooks (name :: dirs) last e (inside_cons.mpr ⟨hdir, hinside⟩) (by simpa using he)
  · rintro ⟨hopen, hown, hinner⟩
    refine ⟨fun dirs hinside => ?_, fun dirs name e hinside he hnot hending => ?_⟩
    · rcases dirs with _ | ⟨first, dirs⟩
      · simpa using hopen
      · obtain ⟨-, hrest⟩ := inside_cons.mp hinside
        have hfirst : first ∈ fs.innerNames place :=
          mem_innerNames.mpr (by simpa using hrest [] (List.nil_prefix ..))
        simpa using (hinner first hfirst).opens dirs hrest
    · rcases dirs with _ | ⟨first, dirs⟩
      · exact hown name (mem_ownNames.mpr ⟨e, by simpa using he, hnot, hending⟩)
      · obtain ⟨-, hrest⟩ := inside_cons.mp hinside
        have hfirst : first ∈ fs.innerNames place :=
          mem_innerNames.mpr (by simpa using hrest [] (List.nil_prefix ..))
        simpa using (hinner first hfirst).looks dirs name e hrest (by simpa using he) hnot hending

theorem Refuses.of_child {fault : Fault} (hdir : fs.get? place = some .directory)
    (h : fs.Refuses suffix (p.child name) (place ++ [name]) fault) :
    fs.Refuses suffix p place fault := by
  rcases h with ⟨dirs, hinside, hfault⟩ | ⟨dirs, last, e, hinside, he, hnot, hending, hfault⟩
  · exact .opening (name :: dirs) (inside_cons.mpr ⟨hdir, hinside⟩) (by simpa using hfault)
  · exact .looking (name :: dirs) last e (inside_cons.mpr ⟨hdir, hinside⟩) (by simpa using he)
      hnot hending (by simpa using hfault)

/-! ## Looking at one name -/

/-- No name contains the character that no path can. -/
def NoNul (fs : FileSystem) : Prop :=
  ∀ l name e, fs.get? (l ++ [name]) = some e → ¬ HasNul name

/-- It is enough to look at what is listed. -/
theorem noNul_of_entries (h : ∀ entry ∈ fs.entries, ∀ name ∈ entry.1.getLast?, ¬ HasNul name) :
    fs.NoNul :=
  fun _ name _ he => h _ (mem_entries_of_get? he (by simp)) name (by simp)

theorem exists_isFile_iff {file : Path} :
    (∃ b, fs.isFile file = .ok b) ↔ ∃ e?, fs.stat? [] file.text = .ok e? := by
  rw [isFile]
  rcases fs.stat? [] file.text with fault | _ | _ | _ <;> simp

theorem stat?_of_isFile_error {file : Path} {fault : Fault} (h : fs.isFile file = .error fault) :
    fs.stat? [] file.text = .error fault := by
  rw [isFile] at h
  split at h
  · cases h
  · cases h
  · next hstat =>
      obtain rfl := Except.error.inj h
      exact hstat

theorem stat?_eq_some_iff {here : Location} {text : String} {e : Entry} :
    fs.stat? here text = .ok (some e) ↔ fs.stat here text = .ok e := by
  unfold stat?
  split <;> simp_all

theorem isFile_eq_true_iff {file : Path} :
    fs.isFile file = .ok true ↔ ∃ content, fs.stat [] file.text = .ok (.file content) := by
  simp only [← stat?_eq_some_iff]
  rw [isFile]
  rcases fs.stat? [] file.text with fault | _ | _ | _ <;> simp

/-- What is under a name in a directory is seen, unless it is a link. -/
theorem eq_some_of_stat?_child (tree : fs.IsTree) (hp : p.IsSettled) (hleads : fs.Leads p place)
    {e : Entry} (he : fs.get? (place ++ [name]) = some e) (hlink : ∀ target, e ≠ .link target)
    (hnul : ¬ HasNul (p.child name).text) {e? : Option Entry}
    (h : fs.stat? [] (p.child name).text = .ok e?) : e? = some e := by
  have hname := tree.proper he
  cases htext : textFault? (p.child name).text with
  | some fault =>
      -- the text is no path only if it is too long
      rw [stat?, stat, locate_of_textFault htext] at h
      have hmissing := textFault?_ne_missing (hp.child hname) (p.child name).text
      unfold HasNul at hnul
      unfold textFault? at htext hmissing
      simp only [hnul, Bool.false_eq_true, if_false] at htext hmissing
      split at htext
      · next hempty => simp [hempty] at hmissing
      split at htext
      · rw [← Option.some.inj htext] at h
        cases h
      · cases htext
  | none =>
      rw [stat?, stat, locate_child hp hname htext rfl hleads
        (fun target htarget => absurd (Option.some.inj (he.symm.trans htarget)) (hlink target)),
        arrive_of_directory (hleads.get? tree), he] at h
      by_cases hrun : fs.mayRun place = true
      · by_cases hsize : maxNameSize < Utf8.size name
        · simp [hrun, hsize, Except.mapError] at h
        · simpa [hrun, hsize, Except.mapError, eq_comm] using h
      · simp [hrun, Except.mapError] at h

theorem not_hasNul_below (htext : textFault? p.text = none) {names : List String}
    (hnames : ∀ name ∈ names, ¬ HasNul name) : ¬ HasNul (p.below names).text := by
  have hp : ¬ HasNul p.text := (textFault?_eq_none_iff.mp htext).1
  rw [hasNul_text_iff] at hp ⊢
  rintro ⟨name, hmem, hname⟩
  rcases List.mem_append.mp hmem with hold | hnew
  · exact hp ⟨name, hold, hname⟩
  · exact hnames name hnew hname

theorem isFile_child_iff (tree : fs.IsTree) (hp : p.IsSettled) (hleads : fs.Leads p place)
    (hnul : ¬ HasNul (p.child name).text) {e : Entry} (he : fs.get? (place ++ [name]) = some e)
    {b : Bool} (h : fs.isFile (p.child name) = .ok b) :
    b = true ↔ fs.HasFile (place ++ [name]) (p.child name) := by
  obtain ⟨e?, he?⟩ := exists_isFile_iff.mp ⟨b, h⟩
  have htrue : b = true ↔ ∃ content, fs.stat [] (p.child name).text = .ok (.file content) := by
    rw [← isFile_eq_true_iff, h, Except.ok.injEq]
  rw [htrue]
  by_cases hlink : ∃ target, e = .link target
  · obtain ⟨target, rfl⟩ := hlink
    constructor
    · rintro ⟨content, hfile⟩
      exact .link target content he hfile
    · rintro (⟨content, hfile⟩ | ⟨_, content, -, hfile⟩)
      · rw [hfile] at he
        cases he
      · exact ⟨content, hfile⟩
  · push Not at hlink
    obtain rfl := eq_some_of_stat?_child tree hp hleads he hlink hnul he?
    rw [stat?_eq_some_iff] at he?
    simp only [he?, Except.ok.injEq]
    constructor
    · rintro ⟨content, rfl⟩
      exact .regular content he
    · rintro (⟨content, hfile⟩ | ⟨target, content, htarget, -⟩)
      · exact ⟨content, Option.some.inj (he.symm.trans hfile)⟩
      · exact absurd (Option.some.inj (he.symm.trans htarget)) (hlink target)

/-! ## Refusals -/

/-- A text leads nowhere because it is no path, or because the system says so. -/
theorem locate_error {here : Location} {manner : Manner} {text : String} {fault : Fault}
    (h : fs.locate here manner text = .error fault) :
    (HasNul text ∧ fault = .embeddedNul) ∨ ∃ errno, fault = .system errno text := by
  rw [locate_eq] at h
  cases htext : textFault? text with
  | some refusal =>
      rw [htext] at h
      obtain rfl := Except.error.inj h
      unfold textFault? at htext
      split at htext
      · next hnul => exact .inl ⟨hnul, (Option.some_inj.mp htext).symm⟩
      split at htext
      · exact .inr ⟨_, (Option.some_inj.mp htext).symm⟩
      split at htext
      · exact .inr ⟨_, (Option.some_inj.mp htext).symm⟩
      · cases htext
  | none =>
      rw [htext] at h
      cases hwalk : fs.walk maxLinks (manner.endingAs text) (start here text)
        (Path.namesIn text) with
      | error errno =>
          rw [hwalk] at h
          exact .inr ⟨errno, (Except.error.inj h).symm⟩
      | ok spot =>
          rw [hwalk] at h
          cases h

theorem ofFiles_of_openDirectory (hnul : ¬ HasNul p.text) {fault : Fault}
    (h : fs.openDirectory p = .error fault) : fault.ofFiles = true := by
  unfold openDirectory at h
  split at h
  · next hlocate =>
      obtain rfl := Except.error.inj h
      rcases locate_error hlocate with ⟨hhas, -⟩ | ⟨errno, rfl⟩
      · exact absurd hhas hnul
      · rfl
  · split at h
    · cases h
    · obtain rfl := Except.error.inj h
      rfl
  · obtain rfl := Except.error.inj h
    rfl
  · obtain rfl := Except.error.inj h
    rfl

/-- What cannot be looked up is refused by the system: a text that is no path leads nowhere. -/
theorem ofFiles_of_stat? {here : Location} {text : String} {fault : Fault}
    (h : fs.stat? here text = .error fault) : fault.ofFiles = true := by
  unfold stat? at h
  split at h
  case h_6 refusal _ _ _ hnul hstat =>
    obtain rfl := Except.error.inj h
    unfold stat at hstat
    split at hstat
    · next hlocate =>
        obtain rfl := Except.error.inj hstat
        rcases locate_error hlocate with ⟨-, rfl⟩ | ⟨errno, rfl⟩
        · exact absurd rfl hnul
        · rfl
    · split at hstat
      · cases hstat
      · obtain rfl := Except.error.inj hstat
        rfl
  all_goals cases h

theorem Inside.not_hasNul (nonul : fs.NoNul) {dirs : List String} (h : fs.Inside place dirs) :
    ∀ name ∈ dirs, ¬ HasNul name := by
  intro name hname
  obtain ⟨before, after, rfl⟩ := List.append_of_mem hname
  refine nonul (place ++ before) name .directory ?_
  simpa using h (before ++ [name]) ⟨after, by simp⟩

theorem Refuses.ofFiles (nonul : fs.NoNul) (htext : textFault? p.text = none) {fault : Fault}
    (h : fs.Refuses suffix p place fault) : fault.ofFiles = true := by
  rcases h with ⟨dirs, hinside, hfault⟩ | ⟨dirs, name, e, -, -, -, -, hfault⟩
  · exact ofFiles_of_openDirectory (not_hasNul_below htext (hinside.not_hasNul nonul)) hfault
  · exact ofFiles_of_stat? hfault

/-! ## All levels -/

theorem below_inj {names names' : List String} : p.below names = p.below names' ↔
    names = names' := by
  simp [Path.below]

theorem IsComponent.exists_below {file : Path} (h : fs.IsComponent suffix p place file) :
    ∃ names, names ≠ [] ∧ file = p.below names := by
  obtain ⟨dirs, name, rfl, -⟩ := h
  exact ⟨dirs ++ [name], by simp, rfl⟩

theorem nodup_ownNames (fs : FileSystem) (suffix : String) (l : Location) :
    (fs.ownNames suffix l).Nodup :=
  (fs.nodup_children l).filter _

theorem nodup_innerNames (fs : FileSystem) (l : Location) : (fs.innerNames l).Nodup :=
  (fs.nodup_children l).filter _

/-- A path leads to no other place than this one. -/
def LeadsOnly (fs : FileSystem) (p : Path) (place : Location) : Prop :=
  ∀ l, fs.Leads p l → l = place

theorem LeadsOnly.child (tree : fs.IsTree) (h : fs.LeadsOnly p place)
    (hname : name ∈ fs.innerNames place) : fs.LeadsOnly (p.child name) (place ++ [name]) := by
  intro l hleads
  have hdir := mem_innerNames.mp hname
  have hproper := tree.proper hdir
  obtain ⟨above, habove⟩ := hleads.exists_parent tree hproper
  obtain rfl := h above habove
  exact (Leads.get?_child tree hproper habove (by simp [hdir]) hleads).1

/-- What is found at one level, and what is found below its directories, is all different. -/
theorem nodup_level {isFile : Path → Bool} {within : String → List Path}
    (hwithin : ∀ name ∈ fs.innerNames place, (within name).Nodup ∧
      ∀ file ∈ within name, ∃ names, names ≠ [] ∧ file = p.below (name :: names)) :
    (((fs.ownNames suffix place).map p.child).filter isFile ++
      (fs.innerNames place).flatMap within).Nodup := by
  have hinj : Function.Injective p.child := fun a b hab => by simpa [Path.child] using hab
  refine List.nodup_append.mpr ⟨((fs.nodup_ownNames suffix place).map hinj).filter _, ?_, ?_⟩
  · refine List.nodup_flatMap.mpr ⟨fun name hname => (hwithin name hname).1, ?_⟩
    refine (fs.nodup_innerNames place).imp_of_mem fun {a b} ha hb hne file hfa hfb => hne ?_
    obtain ⟨names, -, rfl⟩ := (hwithin a ha).2 file hfa
    obtain ⟨names', -, heq⟩ := (hwithin b hb).2 _ hfb
    exact (List.cons.inj (below_inj.mp heq)).1
  · rintro file hown file' hinner rfl
    obtain ⟨name, -, rfl⟩ := List.mem_map.mp (List.mem_filter.mp hown).1
    obtain ⟨first, hfirst, hmem⟩ := List.mem_flatMap.mp hinner
    obtain ⟨names, hne, heq⟩ := (hwithin first hfirst).2 _ hmem
    rw [← Path.below_singleton, below_inj] at heq
    exact hne (List.cons.inj heq).2.symm

/-- A search that goes well has been able to look at everything, and has found all that is
there, each once. -/
theorem filesWithin_spec (tree : fs.IsTree) (nonul : fs.NoNul) :
    ∀ {depth : Nat} {p : Path} {place : Location} {files : List Path}, p.IsSettled →
      fs.get? place = some .directory → fs.LeadsOnly p place → fs.Within place depth →
      fs.filesWithin suffix depth p = .ok files →
        fs.Searchable suffix p place ∧ files.Nodup ∧
          ∀ file, file ∈ files ↔ fs.IsComponent suffix p place file := by
  intro depth
  induction depth with
  | zero =>
      intro p place files _ hdir _ hwithin
      have := hwithin [] (by simp [hdir])
      simp at this
  | succ depth ih =>
      intro p place files hp hdir hplace hwithin hfiles
      obtain ⟨l, hopen, isFile, within, hisFile, hinner, rfl⟩ := filesWithin_ok_iff.mp hfiles
      obtain ⟨htext, hleads, -⟩ := (openDirectory_ok_iff hp).mp hopen
      obtain rfl := hplace l hleads
      have hbelow : ∀ name ∈ fs.innerNames l, fs.Searchable suffix (p.child name) (l ++ [name]) ∧
          (within name).Nodup ∧ ∀ file, file ∈ within name ↔
            fs.IsComponent suffix (p.child name) (l ++ [name]) file := fun name hname =>
        ih (hp.child (tree.proper (mem_innerNames.mp hname))) (mem_innerNames.mp hname)
          (hplace.child tree hname) (hwithin.child name) (hinner name hname)
      have hown : ∀ name ∈ fs.ownNames suffix l, (isFile (p.child name) = true ↔
          fs.HasFile (l ++ [name]) (p.child name)) := by
        intro name hname
        obtain ⟨e, he, -, -⟩ := mem_ownNames.mp hname
        have hnul : ¬ HasNul (p.child name).text :=
          not_hasNul_below htext (List.forall_mem_singleton.mpr (nonul l name e he))
        exact isFile_child_iff tree hp hleads hnul he (hisFile name hname)
      refine ⟨(searchable_iff hdir).mpr ⟨⟨l, hopen⟩, fun name hname =>
        exists_isFile_iff.mp ⟨_, hisFile name hname⟩, fun name hname => (hbelow name hname).1⟩,
        nodup_level fun name hname => ⟨(hbelow name hname).2.1, fun file hfile => ?_⟩,
        fun file => ?_⟩
      · obtain ⟨names, hne, rfl⟩ := (((hbelow name hname).2.2 file).mp hfile).exists_below
        exact ⟨names, hne, p.below_child name names⟩
      · rw [isComponent_iff hdir, List.mem_append, List.mem_filter, List.mem_flatMap]
        refine or_congr ⟨?_, ?_⟩ (exists_congr fun name => and_congr_right fun hname =>
          (hbelow name hname).2.2 file)
        · rintro ⟨hmem, hfile⟩
          obtain ⟨name, hname, rfl⟩ := List.mem_map.mp hmem
          exact ⟨name, hname, rfl, (hown name hname).mp hfile⟩
        · rintro ⟨name, hname, rfl, hhas⟩
          exact ⟨List.mem_map_of_mem hname, (hown name hname).mpr hhas⟩

/-- A search goes well if it is able to look at everything. -/
theorem exists_filesWithin (tree : fs.IsTree) :
    ∀ {depth : Nat} {p : Path} {place : Location}, p.IsSettled →
      fs.get? place = some .directory → fs.LeadsOnly p place →
      fs.Searchable suffix p place → ∃ files, fs.filesWithin suffix depth p = .ok files := by
  intro depth
  induction depth with
  | zero => exact fun _ _ _ _ => ⟨[], rfl⟩
  | succ depth ih =>
      intro p place hp hdir hplace hsearchable
      obtain ⟨⟨l, hopen⟩, hlooks, hinner⟩ := (searchable_iff hdir).mp hsearchable
      obtain rfl := hplace l ((openDirectory_ok_iff hp).mp hopen).2.1
      have hisFile : ∀ name ∈ fs.ownNames suffix l, ∃ b, fs.isFile (p.child name) = .ok b :=
        fun name hname => exists_isFile_iff.mpr (hlooks name hname)
      have hwithin : ∀ name ∈ fs.innerNames l,
          ∃ files, fs.filesWithin suffix depth (p.child name) = .ok files := fun name hname =>
        ih (hp.child (tree.proper (mem_innerNames.mp hname))) (mem_innerNames.mp hname)
          (hplace.child tree hname) (hinner name hname)
      choose! within hwithin using hwithin
      refine ⟨_, filesWithin_ok_iff.mpr ⟨l, hopen, fun file => decide (fs.isFile file = .ok true),
        within, fun name hname => ?_, hwithin, rfl⟩⟩
      obtain ⟨b, hb⟩ := hisFile name hname
      cases b <;> simp [hb]

/-- A search that stops does so at a refusal. -/
theorem refuses_of_filesWithin (tree : fs.IsTree) {fault : Fault} :
    ∀ {depth : Nat} {p : Path} {place : Location}, p.IsSettled →
      fs.get? place = some .directory → fs.LeadsOnly p place →
      fs.filesWithin suffix depth p = .error fault → fs.Refuses suffix p place fault := by
  intro depth
  induction depth with
  | zero => exact fun _ _ _ h => nomatch h
  | succ depth ih =>
      intro p place hp hdir hplace h
      rw [filesWithin_succ] at h
      rcases error_of_bind h with hopen | ⟨l, hopen, h⟩
      · exact .opening [] (inside_nil.mpr hdir) (by simpa using hopen)
      obtain rfl := hplace l ((openDirectory_ok_iff hp).mp hopen).2.1
      rcases error_of_bind h with hown | ⟨own, -, h⟩
      · obtain ⟨file, hfile, hfault⟩ := exists_error_of_filterM hown
        obtain ⟨name, hname, rfl⟩ := List.mem_map.mp hfile
        obtain ⟨e, he, hnot, hending⟩ := mem_ownNames.mp hname
        exact .looking [] name e (inside_nil.mpr hdir) (by simpa using he) hnot hending
          (stat?_of_isFile_error hfault)
      rcases error_of_bind h with hinner | ⟨inner, -, h⟩
      · obtain ⟨name, hname, hfault⟩ := exists_error_of_mapM hinner
        have hget := mem_innerNames.mp hname
        exact .of_child hdir (ih (hp.child (tree.proper hget)) hget (hplace.child tree hname)
          hfault)
      · cases h

theorem filesBelow_spec (tree : fs.IsTree) (nonul : fs.NoNul) (hp : p.IsSettled)
    (hdir : fs.get? place = some .directory) (hplace : fs.LeadsOnly p place) {files : List Path}
    (h : fs.filesBelow p suffix = .ok files) :
    fs.Searchable suffix p place ∧ files.Nodup ∧
      ∀ file, file ∈ files ↔ fs.IsComponent suffix p place file := by
  obtain ⟨l, hopen, hfiles⟩ := exists_ok_of_bind h
  obtain rfl := hplace l ((openDirectory_ok_iff hp).mp hopen).2.1
  exact filesWithin_spec tree nonul hp hdir hplace (fs.within_depthBelow l) hfiles

theorem exists_filesBelow (tree : fs.IsTree) (hp : p.IsSettled)
    (hdir : fs.get? place = some .directory) (hplace : fs.LeadsOnly p place)
    (h : fs.Searchable suffix p place) : ∃ files, fs.filesBelow p suffix = .ok files := by
  obtain ⟨⟨l, hopen⟩, -⟩ := (searchable_iff hdir).mp h
  obtain ⟨files, hfiles⟩ := exists_filesWithin tree hp hdir hplace h
  exact ⟨files, by rw [filesBelow, hopen]; exact hfiles⟩

theorem refuses_of_filesBelow (tree : fs.IsTree) (hp : p.IsSettled)
    (hdir : fs.get? place = some .directory) (hplace : fs.LeadsOnly p place) {fault : Fault}
    (h : fs.filesBelow p suffix = .error fault) : fs.Refuses suffix p place fault := by
  rcases error_of_bind h with hopen | ⟨l, -, hfault⟩
  · exact .opening [] (inside_nil.mpr hdir) (by simpa using hopen)
  · exact refuses_of_filesWithin tree hp hdir hplace hfault

/-- A search stops at what cannot be looked up. -/
theorem filesBelow_error {fault : Fault} (hopen : fs.openDirectory p = .ok place)
    (hown : fs.ownNames suffix place = [name]) (h : fs.isFile (p.child name) = .error fault) :
    fs.filesBelow p suffix = .error fault := by
  rw [filesBelow, hopen]
  show fs.filesWithin suffix (fs.depthBelow place + 1) p = _
  rw [filesWithin_succ, hopen]
  show (do
    let own ← ((fs.ownNames suffix place).map p.child).filterM fs.isFile
    let inner ← (fs.innerNames place).mapM fun name => fs.filesWithin suffix _ (p.child name)
    pure (own ++ inner.flatten)) = _
  rw [hown, List.map_singleton, List.filterM, List.filterAuxM, h]
  rfl

end FileSystem

/-! ## The whole discovery -/

theorem exec_discover_ok_iff {env : Environment} {suffix root : String} {w : World} {path : Path}
    {files : List Path} (hpath : env.pathOf w.files w.directory root = .ok path)
    (hdir : w.files.stat? [] path.text = .ok (some .directory)) :
    (∃ w', (discover env suffix root).exec w = (.ok files, w')) ↔
      w.files.filesBelow path suffix = .ok files := by
  unfold discover
  simp only [Action.exec_bind, Action.exec_look, hpath, hdir]
  cases w.files.filesBelow path suffix with
  | error fault => simp
  | ok found => simp [eq_comm]

theorem exec_discover_error {env : Environment} {suffix root : String} {w : World} {path : Path}
    {fault : Fault} (hpath : env.pathOf w.files w.directory root = .ok path)
    (hdir : w.files.stat? [] path.text = .ok (some .directory))
    (h : w.files.filesBelow path suffix = .error fault) :
    ((discover env suffix root).exec w).1 = .error fault := by
  unfold discover
  simp only [Action.exec_bind, Action.exec_look, hpath, hdir, h]

/-- Discovery in a directory that is there goes well exactly if every directory below it can be
opened and whatever has the ending can be looked up.  Then it finds the component files below
the directory, each once, and nothing else.  Otherwise it stops with the fault of what is
refused. -/
theorem exec_discover_components {env : Environment} {suffix root : String} {w : World}
    {path : Path} (tree : w.files.IsTree) (nonul : w.files.NoNul)
    (hpath : env.pathOf w.files w.directory root = .ok path)
    (hdir : w.files.stat? [] path.text = .ok (some .directory)) :
    ∃ place, w.files.Leads path place ∧
      (w.files.Searchable suffix path place ↔
        ∃ files w', (discover env suffix root).exec w = (.ok files, w')) ∧
      (¬ w.files.Searchable suffix path place → ∃ fault,
        ((discover env suffix root).exec w).1 = .error fault ∧
          w.files.Refuses suffix path place fault ∧ fault.ofFiles = true) ∧
      ∀ files w', (discover env suffix root).exec w = (.ok files, w') →
        files.Nodup ∧ ∀ file, file ∈ files ↔ w.files.IsComponent suffix path place file := by
  have hp := env.isSettled_of_pathOf tree hpath
  obtain ⟨htext, place, hleads⟩ := FileSystem.leads_of_stat? hp hdir
  have hplace : w.files.LeadsOnly path place := fun l hl => hl.unique hleads
  have hget := hleads.get? tree
  have hfound : ∀ {files w'}, (discover env suffix root).exec w = (.ok files, w') →
      w.files.Searchable suffix path place ∧ files.Nodup ∧
        ∀ file, file ∈ files ↔ w.files.IsComponent suffix path place file := by
    intro files w' hexec
    exact FileSystem.filesBelow_spec tree nonul hp hget hplace
      ((exec_discover_ok_iff hpath hdir).mp ⟨w', hexec⟩)
  refine ⟨place, hleads, ⟨fun hsearchable => ?_, fun ⟨files, w', hexec⟩ => (hfound hexec).1⟩,
    fun hnot => ?_, fun files w' hexec => (hfound hexec).2⟩
  · obtain ⟨files, hbelow⟩ := FileSystem.exists_filesBelow tree hp hget hplace hsearchable
    exact ⟨files, (exec_discover_ok_iff hpath hdir).mpr hbelow⟩
  · cases hbelow : w.files.filesBelow path suffix with
    | ok files => exact absurd (FileSystem.filesBelow_spec tree nonul hp hget hplace hbelow).1 hnot
    | error fault =>
        have hrefuses := FileSystem.refuses_of_filesBelow tree hp hget hplace hbelow
        exact ⟨fault, exec_discover_error hpath hdir hbelow, hrefuses,
          hrefuses.ofFiles nonul htext⟩

/-- A link to a component, in a directory whose name has the ending. -/
def Sample.linked : World :=
  Sample.world (Sample.directories ++
    [(["w", "A.vue"], Sample.file ""), (["w", "c", "d.vue"], .directory),
      (["w", "c", "d.vue", "B.vue"], .link "../../A.vue")]) []

theorem exec_discover_components_linked :
    [(⟨.slash, ["w", "c", "d.vue", "B.vue"]⟩ : Path)].Nodup ∧
      ∀ file, file ∈ [(⟨.slash, ["w", "c", "d.vue", "B.vue"]⟩ : Path)] ↔
        Sample.linked.files.IsComponent ".vue" ⟨.slash, ["w", "c"]⟩ ["w", "c"] file := by
  have tree : Sample.linked.files.IsTree := FileSystem.isTree_of_entries (by decide +kernel)
  have nonul : Sample.linked.files.NoNul := FileSystem.noNul_of_entries (by decide +kernel)
  obtain ⟨place, hleads, -, -, hfound⟩ := @exec_discover_components Sample.env ".vue" "c"
    Sample.linked ⟨.slash, ["w", "c"]⟩ tree nonul (by decide +kernel) (by decide +kernel)
  obtain rfl : place = ["w", "c"] := hleads.unique (by decide +kernel)
  exact hfound _ _ (Action.exec_eq_of_fst (by decide +kernel))

/-- Nothing is found under a name that is too long. -/
theorem FileSystem.walk_of_long_name {fs : FileSystem} {manner : Manner} {here : Location}
    {name : String} (hcreating : manner.creating = false) (hrun : fs.mayRun here = true)
    (hname : name ≠ "..") (hlong : maxNameSize < Utf8.size name) (links : Nat) :
    fs.walk links manner here [name] = .error .nameTooLong := by
  cases links <;> rw [walk] <;> simp [walkWith, hcreating, hrun, hname, hlong]

/-- A name that is longer than names can be. -/
def Sample.longName : String :=
  String.ofList (List.replicate 256 'x')

theorem Sample.toList_longName : Sample.longName.toList = List.replicate 256 'x' :=
  String.toList_ofList

theorem Sample.proper_longName : Path.Proper Sample.longName := by
  simp only [Path.Proper, ne_eq, ← String.toList_inj, Sample.toList_longName]
  decide +kernel

/-- A project in which a component is a link to a place that cannot be. -/
def Sample.nowhere : World :=
  Sample.world (Sample.directories ++ [(["w", "c", "A.vue"], .link Sample.longName)]) []

theorem Sample.isFile_nowhere :
    Sample.nowhere.files.isFile ⟨.slash, ["w", "c", "A.vue"]⟩ =
      .error (.system .nameTooLong "/w/c/A.vue") := by
  have hget : Sample.nowhere.files.get? ["w"] = some .directory ∧
      Sample.nowhere.files.get? ["w", "c"] = some .directory := by
    decide +kernel
  have hlink : Sample.nowhere.files.get? ["w", "c", "A.vue"] = some (.link Sample.longName) := rfl
  have hrun : Sample.nowhere.files.mayRun [] = true ∧
      Sample.nowhere.files.mayRun ["w"] = true ∧
      Sample.nowhere.files.mayRun ["w", "c"] = true := by
    decide +kernel
  have hsize : ¬ FileSystem.maxNameSize < Utf8.size "w" ∧
      ¬ FileSystem.maxNameSize < Utf8.size "c" ∧
      ¬ FileSystem.maxNameSize < Utf8.size "A.vue" := by
    decide +kernel
  have hlong : FileSystem.maxNameSize < Utf8.size Sample.longName := by
    rw [Utf8.size, Sample.toList_longName]
    decide +kernel
  have hstart : FileSystem.start ["w", "c"] Sample.longName = ["w", "c"] := by
    rw [FileSystem.start, Text.beginsWith, Sample.toList_longName, if_neg (by decide)]
  have hwalk : ∀ manner : FileSystem.Manner, manner.creating = false →
      manner.followLast = true → manner.ending = .name →
        Sample.nowhere.files.walk FileSystem.maxLinks manner [] ["w", "c", "A.vue"] =
          .error .nameTooLong := by
    intro manner hcreating hfollow hending
    have hcreating' : (manner.endingAs Sample.longName).creating = false := hcreating
    have hlast := FileSystem.walk_of_long_name hcreating' hrun.2.2
      Sample.proper_longName.2.2.1 hlong 39
    rw [FileSystem.maxLinks, FileSystem.walk]
    simp [FileSystem.walkWith, hget, hrun, hlink, hsize, hstart, hcreating, hfollow, hending,
      Sample.proper_longName.namesIn, hlast]
  have hlocate : Sample.nowhere.files.locate [] {} "/w/c/A.vue" =
      .error (.system .nameTooLong "/w/c/A.vue") := by
    rw [FileSystem.locate, if_neg (by decide), if_neg (by decide), if_neg (by decide +kernel),
      show Path.namesIn "/w/c/A.vue" = ["w", "c", "A.vue"] by decide +kernel,
      show FileSystem.start [] "/w/c/A.vue" = [] by decide, hwalk _ rfl rfl (by decide +kernel)]
    rfl
  have htext : Path.text ⟨.slash, ["w", "c", "A.vue"]⟩ = "/w/c/A.vue" := by decide +kernel
  rw [FileSystem.isFile, FileSystem.stat?, FileSystem.stat, htext, hlocate]

/-- A link that nothing can be looked up through, for a name in it is too long, stops discovery
although it leads to nothing. -/
theorem discover_stops_at_long_link :
    let w := Sample.nowhere
    w.files.IsTree ∧ w.files.NoNul ∧
      Sample.env.pathOf w.files w.directory "c" = .ok ⟨.slash, ["w", "c"]⟩ ∧
      w.files.stat? [] "/w/c" = .ok (some .directory) ∧
      w.files.get? ["w", "c", "A.vue"] = some (.link Sample.longName) ∧
      ((discover Sample.env ".vue" "c").exec w).1 = .error (.system .nameTooLong "/w/c/A.vue") := by
  intro w
  have hpath : Sample.env.pathOf w.files w.directory "c" = .ok ⟨.slash, ["w", "c"]⟩ := by
    decide +kernel
  have hdir : w.files.stat? [] "/w/c" = .ok (some .directory) := by decide +kernel
  refine ⟨FileSystem.isTree_of_entries (by decide +kernel),
    FileSystem.noNul_of_entries (by decide +kernel), hpath, hdir, rfl, ?_⟩
  exact exec_discover_error hpath hdir (FileSystem.filesBelow_error
    (show w.files.openDirectory ⟨.slash, ["w", "c"]⟩ = .ok ["w", "c"] by decide +kernel)
    (show w.files.ownNames ".vue" ["w", "c"] = ["A.vue"] by decide +kernel)
    Sample.isFile_nowhere)

end ComponentReference
