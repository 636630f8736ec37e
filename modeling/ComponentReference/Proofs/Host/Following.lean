import ComponentReference.Proofs.Host.PathText

/-!
# Where settled paths lead

The system follows a path with a manner, along links and up to a limit.  Two facts let
later proofs forget all that.

* **The last name stands alone.**  Following `names ++ [last]` is following `names` to a
  directory and then looking for `last` in it (`walk_concat`), unless there is a link
  that is to be followed further.  So `locate_child` says what the operations on files
  see in a directory, as a match on what is there.
* **Directories stay where they are.**  A walk that comes to a directory comes to it
  again once the file system has grown (`walk_grows`): it only went through directories
  and links, and those are kept.

`FileSystem.Leads` is the relation between a settled path and the place of its directory
that both are about.
-/

namespace ComponentReference.FileSystem

variable {fs fs' : FileSystem}

/-- How a path is followed that has to lead to a directory. -/
def Manner.toDirectory : Manner := { ending := .dot }

@[simp] theorem Manner.toDirectory_endingAs (target : String) :
    Manner.toDirectory.endingAs target = .toDirectory := rfl

/-- Where names lead from the root if a directory is wanted there. -/
def follow (fs : FileSystem) (names : List String) : Except Errno Spot :=
  fs.walk maxLinks .toDirectory [] names

/-- The path leads to the directory at the place. -/
def Leads (fs : FileSystem) (p : Path) (place : Location) : Prop :=
  fs.follow p.names = .ok ⟨place, some .directory⟩

instance (fs : FileSystem) (p : Path) (place : Location) : Decidable (fs.Leads p place) :=
  inferInstanceAs (Decidable (fs.follow p.names = _))

/-- What comes of looking for a name in the directory at a place. -/
def arrive (fs : FileSystem) (place : Location) (name : String) : Except Errno Spot :=
  if !fs.mayRun place then .error .denied
  else if maxNameSize < Utf8.size name then .error .nameTooLong
  else
    match fs.get? (place ++ [name]) with
    | some e => .ok ⟨place ++ [name], some e⟩
    | none => if fs.isDirectoryAt place then .ok ⟨place ++ [name], none⟩ else .error .missing

/-! ## One step of a walk -/

/-- One step of a walk that does not end with the name that it looks at. -/
theorem walkWith_cons (fs : FileSystem) {manner : Manner}
    (jump : Location → String → List String → Except Errno Spot) (here : Location) (name : String)
    {rest : List String} (hrest : rest ≠ [] ∨ manner = .toDirectory) :
    fs.walkWith manner jump here (name :: rest) =
      if !fs.mayRun here then .error .denied
      else if name = ".." then fs.walkWith manner jump here.dropLast rest
      else if maxNameSize < Utf8.size name then .error .nameTooLong
      else
        match fs.get? (here ++ [name]) with
        | some .directory => fs.walkWith manner jump (here ++ [name]) rest
        | some (.link target) => jump here target rest
        | some _ => .error .notDirectory
        | none => .error .missing := by
  have hend : (rest.isEmpty && decide (manner.ending = .name)) = false := by
    rcases hrest with hrest | rfl
    · simp [hrest]
    · simp [Manner.toDirectory]
  have hcreating :
      (rest.isEmpty && manner.creating && decide (manner.ending = .slashes)) = false := by
    rcases hrest with hrest | rfl
    · simp [hrest]
    · simp [Manner.toDirectory]
  have hstep := walkWith.eq_2 fs manner jump here name rest
  simp only [hend, hcreating, Bool.false_and, Bool.false_eq_true, if_false] at hstep
  exact hstep

theorem walkWith_last (fs : FileSystem) {manner : Manner} (hname : manner.ending = .name)
    (jump : Location → String → List String → Except Errno Spot) (here : Location) {last : String}
    (hlast : last ≠ "..")
    (hlink : ∀ target, fs.get? (here ++ [last]) = some (.link target) →
      manner.followLast = false) :
    fs.walkWith manner jump here [last] = fs.arrive here last := by
  rw [walkWith, arrive]
  simp only [hname, hlast, List.isEmpty_nil, decide_true, Bool.and_true, Bool.true_and,
    reduceCtorEq, decide_false, Bool.and_false, Bool.false_eq_true, if_false, if_true]
  split
  · rfl
  split
  · rfl
  split <;> rename_i hget <;> rw [hget]
  · rfl
  · simp [hlink _ hget]

/-! ## Walks that want a directory find one -/

theorem walkWith_isDirectory (tree : fs.IsTree)
    {jump : Location → String → List String → Except Errno Spot}
    (hjump : ∀ {here target rest spot}, fs.get? here = some .directory →
      jump here target rest = .ok spot →
        spot.entry? = some .directory ∧ fs.get? spot.location = some .directory) :
    ∀ {names here spot}, fs.get? here = some .directory →
      fs.walkWith .toDirectory jump here names = .ok spot →
        spot.entry? = some .directory ∧ fs.get? spot.location = some .directory := by
  intro names
  induction names with
  | nil =>
      intro here spot hhere hwalk
      obtain rfl : (⟨here, some .directory⟩ : Spot) = spot := by simpa [walkWith] using hwalk
      exact ⟨rfl, hhere⟩
  | cons name rest ih =>
      intro here spot hhere hwalk
      rw [walkWith_cons fs jump here name (.inr rfl)] at hwalk
      split at hwalk
      · simp at hwalk
      split at hwalk
      · exact ih (tree.dropLast hhere) hwalk
      split at hwalk
      · simp at hwalk
      split at hwalk
      · next hthere => exact ih hthere hwalk
      · exact hjump hhere hwalk
      · simp at hwalk
      · simp at hwalk

theorem start_isDirectory {here : Location} (hhere : fs.get? here = some .directory)
    (target : String) : fs.get? (start here target) = some .directory := by
  unfold start
  split
  · rfl
  · exact hhere

theorem walk_isDirectory (tree : fs.IsTree) :
    ∀ {links names here spot}, fs.get? here = some .directory →
      fs.walk links .toDirectory here names = .ok spot →
        spot.entry? = some .directory ∧ fs.get? spot.location = some .directory := by
  intro links
  induction links with
  | zero => exact walkWith_isDirectory tree fun _ h => by simp at h
  | succ links ih =>
      refine walkWith_isDirectory tree fun {here target rest spot} hhere h => ?_
      rw [Manner.toDirectory_endingAs, ite_self] at h
      exact ih (start_isDirectory hhere target) h

/-- What names lead to is a directory, and it is there. -/
theorem leads_of_follow (tree : fs.IsTree) {p : Path} {spot : Spot}
    (h : fs.follow p.names = .ok spot) : fs.Leads p spot.location := by
  obtain ⟨place, entry?⟩ := spot
  obtain rfl := (walk_isDirectory tree (get?_nil fs) h).1
  exact h

theorem Leads.get? (tree : fs.IsTree) {p : Path} {place : Location} (h : fs.Leads p place) :
    fs.get? place = some .directory :=
  (walk_isDirectory tree (get?_nil fs) h).2

theorem Leads.unique {p : Path} {place place' : Location} (h : fs.Leads p place)
    (h' : fs.Leads p place') : place = place' := by
  have := h.symm.trans h'
  simpa using this

/-! ## The last name stands alone -/

/-- What following `names ++ [last]` comes to, when following `names` to a directory
comes to `found`: the same fault, or what is found of `last` there, if that is no link to
be followed further. -/
def Concat (fs : FileSystem) (manner : Manner) (last : String) (found whole : Except Errno Spot) :
    Prop :=
  match found with
  | .error e => whole = .error e
  | .ok spot =>
      (∀ target, fs.get? (spot.location ++ [last]) = some (.link target) →
        manner.followLast = false) →
      whole = fs.arrive spot.location last

theorem walkWith_concat {manner : Manner} (hname : manner.ending = .name) {last : String}
    (hlast : last ≠ "..") {jump jumpTo : Location → String → List String → Except Errno Spot}
    (hjump : ∀ here target rest,
      fs.Concat manner last (jumpTo here target rest) (jump here target (rest ++ [last]))) :
    ∀ names here, fs.Concat manner last (fs.walkWith .toDirectory jumpTo here names)
      (fs.walkWith manner jump here (names ++ [last])) := by
  intro names
  induction names with
  | nil =>
      intro here hlink
      exact walkWith_last fs hname jump here hlast hlink
  | cons name rest ih =>
      intro here
      rw [List.cons_append, walkWith_cons fs jump here name (.inl (by simp)),
        walkWith_cons fs jumpTo here name (.inr rfl)]
      split
      · rfl
      split
      · exact ih here.dropLast
      split
      · rfl
      split
      · exact ih (here ++ [name])
      · exact hjump here _ rest
      · rfl
      · rfl

theorem walk_concat {manner : Manner} (hname : manner.ending = .name) {last : String}
    (hlast : last ≠ "..") :
    ∀ links here names, fs.Concat manner last (fs.walk links .toDirectory here names)
      (fs.walk links manner here (names ++ [last])) := by
  intro links
  induction links with
  | zero =>
      refine fun here names => walkWith_concat hname hlast (fun _ _ _ => ?_) names here
      rfl
  | succ links ih =>
      refine fun here names => walkWith_concat hname hlast (fun here target rest => ?_) names here
      have hrest : (rest ++ [last]).isEmpty = false := by simp
      rw [Manner.toDirectory_endingAs, ite_self, hrest, if_neg Bool.false_ne_true,
        ← List.append_assoc]
      exact ih (start here target) (Path.namesIn target ++ rest)

/-! ## Directories stay where they are -/

theorem walkWith_grows (tree : fs.IsTree) (hgrows : fs.Grows fs')
    {jump jump' : Location → String → List String → Except Errno Spot}
    (hjump : ∀ {here target rest spot}, fs.get? here = some .directory →
      jump here target rest = .ok spot → jump' here target rest = .ok spot) :
    ∀ {names here spot}, fs.get? here = some .directory →
      fs.walkWith .toDirectory jump here names = .ok spot →
        fs'.walkWith .toDirectory jump' here names = .ok spot := by
  intro names
  induction names with
  | nil => exact fun _ hwalk => hwalk
  | cons name rest ih =>
      intro here spot hhere hwalk
      rw [walkWith_cons fs' jump' here name (.inr rfl), hgrows.mayRun (by simp [hhere])]
      rw [walkWith_cons fs jump here name (.inr rfl)] at hwalk
      split at hwalk
      · simp at hwalk
      next hrun =>
      rw [if_neg hrun]
      split at hwalk
      · next hdots =>
          rw [if_pos hdots]
          exact ih (tree.dropLast hhere) hwalk
      next hdots =>
      rw [if_neg hdots]
      split at hwalk
      · simp at hwalk
      next hsize =>
      rw [if_neg hsize]
      split at hwalk
      · next hthere =>
          rw [hgrows.directory hthere]
          exact ih hthere hwalk
      · next hthere =>
          rw [hgrows.link hthere]
          exact hjump hhere hwalk
      · simp at hwalk
      · simp at hwalk

theorem walk_grows (tree : fs.IsTree) (hgrows : fs.Grows fs') :
    ∀ {links names here spot}, fs.get? here = some .directory →
      fs.walk links .toDirectory here names = .ok spot →
        fs'.walk links .toDirectory here names = .ok spot := by
  intro links
  induction links with
  | zero => exact walkWith_grows tree hgrows fun _ h => by simp at h
  | succ links ih =>
      refine walkWith_grows tree hgrows fun {here target rest spot} hhere h => ?_
      rw [Manner.toDirectory_endingAs, ite_self] at h ⊢
      exact ih (start_isDirectory hhere target) h

theorem Leads.grows (tree : fs.IsTree) (hgrows : fs.Grows fs') {p : Path} {place : Location}
    (h : fs.Leads p place) : fs'.Leads p place :=
  walk_grows tree hgrows (get?_nil fs) h

/-! ## Looking for a directory -/

/-- Both walks come to the same directory, or neither comes to one. -/
def SameDirectory (found found' : Except Errno Spot) : Prop :=
  ∀ place, found = .ok ⟨place, some .directory⟩ ↔ found' = .ok ⟨place, some .directory⟩

theorem walkWith_sameDirectory {manner : Manner} (hfollow : manner.followLast = true)
    (hcreating : manner.creating = false)
    {jump jumpTo : Location → String → List String → Except Errno Spot}
    (hjump : ∀ here target rest, SameDirectory (jump here target rest) (jumpTo here target rest)) :
    ∀ names here, SameDirectory (fs.walkWith manner jump here names)
      (fs.walkWith .toDirectory jumpTo here names) := by
  intro names
  induction names with
  | nil => exact fun here place => Iff.rfl
  | cons name rest ih =>
      intro here
      rw [walkWith_cons fs jumpTo here name (.inr rfl), walkWith]
      simp only [hfollow, hcreating, Bool.and_false, Bool.false_and, Bool.not_true,
        Bool.false_eq_true, if_false]
      split
      · exact fun place => Iff.rfl
      split
      · exact ih here.dropLast
      split
      · exact fun place => Iff.rfl
      -- what is no directory and no link is found only where a name may end the path
      rcases hget : fs.get? (here ++ [name]) with _ | _ | _ | _ | _ | _ <;> dsimp only
      · intro place
        split <;> simp
      · exact ih (here ++ [name])
      · intro place
        split <;> simp
      · exact hjump here _ rest
      · intro place
        split <;> simp
      · intro place
        split <;> simp

theorem walk_sameDirectory :
    ∀ links {manner : Manner}, manner.followLast = true → manner.creating = false →
      ∀ here names, SameDirectory (fs.walk links manner here names)
        (fs.walk links .toDirectory here names) := by
  intro links
  induction links with
  | zero =>
      intro manner hfollow hcreating here names
      exact walkWith_sameDirectory hfollow hcreating (fun _ _ _ _ => Iff.rfl) names here
  | succ links ih =>
      intro manner hfollow hcreating here names
      refine walkWith_sameDirectory hfollow hcreating (fun here target rest => ?_) names here
      rw [Manner.toDirectory_endingAs, ite_self]
      split
      · exact @ih (manner.endingAs target) hfollow hcreating _ _
      · exact ih hfollow hcreating _ _

theorem leads_iff {p : Path} {place : Location} :
    fs.Leads p place ↔ fs.walk maxLinks {} [] p.names = .ok ⟨place, some .directory⟩ :=
  (@walk_sameDirectory fs maxLinks {} rfl rfl [] p.names place).symm

/-! ## What operations see that are given the text of a settled path -/

/-- Why a text cannot be given to the system as a path. -/
def textFault? (path : String) : Option Fault :=
  if path.toList.contains (Char.ofNat 0) then some .embeddedNul
  else if path = "" then some (.system .missing path)
  else if pathSizeLimit ≤ Utf8.size path then some (.system .nameTooLong path)
  else none

/-- A text leads nowhere if it is no path, and else where the walk along its names ends. -/
theorem locate_eq (fs : FileSystem) (here : Location) (manner : Manner) (path : String) :
    fs.locate here manner path =
      match textFault? path with
      | some fault => .error fault
      | none =>
        (fs.walk maxLinks (manner.endingAs path) (start here path) (Path.namesIn path)).mapError
          (.system · path) := by
  unfold locate textFault?
  split
  · rfl
  split
  · rfl
  split
  · rfl
  · rfl

theorem locate_of_textFault {path : String} {fault : Fault} (h : textFault? path = some fault)
    (here : Location) (manner : Manner) : fs.locate here manner path = .error fault := by
  rw [locate_eq, h]

theorem locate_settled {p : Path} (hp : p.IsSettled) (h : textFault? p.text = none)
    (here : Location) (manner : Manner) :
    fs.locate here manner p.text =
      (fs.walk maxLinks (manner.endingAs p.text) [] p.names).mapError (.system · p.text) := by
  rw [locate_eq, h, start, if_pos (Path.beginsWith_text hp.absolute), Path.namesIn_text hp]

section Child

variable {p : Path} {name : String} (hp : p.IsSettled) (hname : Path.Proper name)
  (htext : textFault? (p.child name).text = none) {manner : Manner} (hend : manner.ending = .name)
include hp hname htext hend

theorem locate_child_of_error {e : Errno} (h : fs.follow p.names = .error e) (here : Location) :
    fs.locate here manner (p.child name).text = .error (.system e (p.child name).text) := by
  have hending : (manner.endingAs (p.child name).text).ending = .name := by
    rw [Manner.endingAs, if_pos hend, PathEnding.ofString_text_child hp.absolute hname]
  have hconcat : fs.Concat _ name (fs.follow p.names) _ :=
    walk_concat hending hname.2.2.1 maxLinks [] p.names
  rw [h] at hconcat
  rw [locate_settled (hp.child hname) htext]
  show Except.mapError _ (fs.walk _ _ [] (p.names ++ [name])) = _
  rw [hconcat]
  rfl

theorem locate_child {place : Location} (h : fs.Leads p place)
    (hlink : ∀ target, fs.get? (place ++ [name]) = some (.link target) →
      manner.followLast = false) (here : Location) :
    fs.locate here manner (p.child name).text =
      (fs.arrive place name).mapError (.system · (p.child name).text) := by
  have hending : (manner.endingAs (p.child name).text).ending = .name := by
    rw [Manner.endingAs, if_pos hend, PathEnding.ofString_text_child hp.absolute hname]
  have hconcat : fs.Concat _ name (fs.follow p.names) _ :=
    walk_concat hending hname.2.2.1 maxLinks [] p.names
  rw [show fs.follow p.names = _ from h] at hconcat
  rw [locate_settled (hp.child hname) htext]
  show Except.mapError _ (fs.walk _ _ [] (p.names ++ [name])) = _
  rw [hconcat hlink]

end Child

/-- The path of a directory is looked up with success. -/
theorem stat?_of_leads {p : Path} (hp : p.IsSettled) (htext : textFault? p.text = none)
    {place : Location} (h : fs.Leads p place) (here : Location) :
    fs.stat? here p.text = .ok (some .directory) := by
  have hwalk := (@walk_sameDirectory fs maxLinks (({} : Manner).endingAs p.text) rfl rfl []
    p.names place).mpr h
  rw [stat?, stat, locate_settled hp htext, hwalk]
  rfl

/-- A path that is looked up as a directory leads to one. -/
theorem leads_of_stat? {p : Path} (hp : p.IsSettled) {here : Location}
    (h : fs.stat? here p.text = .ok (some .directory)) :
    textFault? p.text = none ∧ ∃ place, fs.Leads p place := by
  cases htext : textFault? p.text with
  | some fault =>
      rw [stat?, stat, locate_of_textFault htext] at h
      split at h <;> simp_all
  | none =>
      refine ⟨rfl, ?_⟩
      rw [stat?, stat, locate_settled hp htext] at h
      rcases hwalk : fs.walk maxLinks (({} : Manner).endingAs p.text) [] p.names with
        e | ⟨place, _ | e⟩
      · rw [hwalk] at h
        simp only [Except.mapError] at h
        split at h <;> simp_all
      · rw [hwalk] at h
        simp [Except.mapError] at h
      · rw [hwalk] at h
        simp only [Except.mapError, Except.ok.injEq, Option.some.injEq] at h
        rw [h] at hwalk
        exact ⟨place, (walk_sameDirectory maxLinks rfl rfl [] p.names place).mp hwalk⟩

end ComponentReference.FileSystem
