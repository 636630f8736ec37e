import ComponentReference.Proofs.Host.Following

/-!
# Making the directories on a path

`makeDirectories` tries the whole path, then the path to the directory that it lies in,
and so on, and makes on the way back what is missing.  The place where it ends up can be
told before: `FileSystem.placeOf`.  Whatever comes of it, all that is new are directories
on the way to that place, and nothing else has changed (`FileSystem.Made`).

The one subtle case is a directory that cannot be made after the one above it has been
made.  Then the place above is new, so that nothing lies in it, not even a link: the
refusal counts.
-/

namespace ComponentReference

@[simp] theorem Path.parent_child (p : Path) (name : String) : (p.child name).parent = p := by
  simp [Path.parent, Path.child]

/-- A settled path is the root or has a last name. -/
theorem Path.IsSettled.cases {p : Path} (hp : p.IsSettled) :
    p.names = [] ∨
      ∃ (above : Path) (name : String), above.IsSettled ∧ Proper name ∧ p = above.child name := by
  obtain ⟨anchor, names⟩ := p
  rcases names.eq_nil_or_concat with hnil | ⟨before, name, rfl⟩
  · exact .inl hnil
  · rw [List.concat_eq_append] at hp ⊢
    refine .inr ⟨⟨anchor, before⟩, name, ⟨hp.absolute, fun other hother => ?_⟩, ?_, rfl⟩
    · exact hp.proper other (List.mem_append_left _ hother)
    · exact hp.proper name (List.mem_append_right _ (List.mem_singleton_self name))

namespace FileSystem

variable {fs fs' : FileSystem} {p : Path} {name : String} {place : Location}

/-! ## The place of a path, made or not -/

/-- The place that names lead to, given from the last to the first, if what is missing is
made. -/
def placeOfReversed (fs : FileSystem) : List String → Location
  | [] => []
  | last :: before =>
      match fs.follow (before.reverse ++ [last]) with
      | .ok spot => spot.location
      | .error _ => fs.placeOfReversed before ++ [last]

/-- The place of the directory at a path: where the path leads, or, as far as it leads
nowhere, where it leads once the directories on it have been made. -/
def placeOf (fs : FileSystem) (p : Path) : Location :=
  fs.placeOfReversed p.names.reverse

theorem placeOf_child (fs : FileSystem) (p : Path) (name : String) :
    fs.placeOf (p.child name) = match fs.follow (p.names ++ [name]) with
      | .ok spot => spot.location
      | .error _ => fs.placeOf p ++ [name] := by
  simp [placeOf, Path.child, placeOfReversed]

theorem Leads.placeOf (h : fs.Leads p place) : fs.placeOf p = place := by
  rcases p with ⟨anchor, names⟩
  rcases names.eq_nil_or_concat with rfl | ⟨before, name, rfl⟩
  · exact h.unique rfl |>.symm
  · rw [List.concat_eq_append] at h ⊢
    have hchild := placeOf_child fs ⟨anchor, before⟩ name
    rw [show fs.follow (before ++ [name]) = _ from h] at hchild
    exact hchild

/-! ## One name further -/

/-- What comes of looking for a name in a directory that is there. -/
theorem arrive_of_directory (hdir : fs.get? place = some .directory) (name : String) :
    fs.arrive place name =
      if !fs.mayRun place then .error .denied
      else if maxNameSize < Utf8.size name then .error .nameTooLong
      else .ok ⟨place ++ [name], fs.get? (place ++ [name])⟩ := by
  rw [arrive, if_pos (isDirectoryAt_iff.mpr hdir)]
  rcases fs.get? (place ++ [name]) <;> rfl

theorem arrive_ok (hdir : fs.get? place = some .directory) {spot : Spot}
    (h : fs.arrive place name = .ok spot) :
    spot = ⟨place ++ [name], fs.get? (place ++ [name])⟩ := by
  rw [arrive_of_directory hdir] at h
  split at h
  · simp at h
  split at h
  · simp at h
  · exact (Except.ok.inj h).symm

/-- A path that leads to a directory leads through the one above. -/
theorem Leads.exists_parent (tree : fs.IsTree) (hname : Path.Proper name)
    (h : fs.Leads (p.child name) place) : ∃ above, fs.Leads p above := by
  have hwhole : fs.walk maxLinks {} [] (p.names ++ [name]) = _ := leads_iff.mp h
  have hconcat : fs.Concat {} name (fs.follow p.names) _ :=
    walk_concat rfl hname.2.2.1 maxLinks [] p.names
  cases hfollow : fs.follow p.names with
  | error e =>
      rw [hfollow] at hconcat
      exact absurd (hwhole.symm.trans hconcat) (by simp)
  | ok spot => exact ⟨spot.location, leads_of_follow tree hfollow⟩

/-- A path with one more name leads to a directory if there is one under that name. -/
theorem Leads.get?_child (tree : fs.IsTree) (hname : Path.Proper name) {above : Location}
    (habove : fs.Leads p above)
    (hlink : ∀ target, fs.get? (above ++ [name]) ≠ some (.link target))
    (h : fs.Leads (p.child name) place) :
    place = above ++ [name] ∧ fs.get? (above ++ [name]) = some .directory := by
  have hwhole : fs.walk maxLinks {} [] (p.names ++ [name]) = _ := leads_iff.mp h
  have hconcat : fs.Concat {} name (fs.follow p.names) _ :=
    walk_concat rfl hname.2.2.1 maxLinks [] p.names
  rw [show fs.follow p.names = _ from habove] at hconcat
  rw [hconcat fun target htarget => absurd htarget (hlink target)] at hwhole
  have hspot := arrive_ok (habove.get? tree) hwhole
  exact ⟨(Spot.mk.inj hspot).1, (Spot.mk.inj hspot).2.symm⟩

theorem leads_child (hname : Path.Proper name) {above : Location} (habove : fs.Leads p above)
    (hdir : fs.get? (above ++ [name]) = some .directory) (hrun : fs.mayRun above = true)
    (hsize : ¬ maxNameSize < Utf8.size name) : fs.Leads (p.child name) (above ++ [name]) := by
  have hconcat : fs.Concat {} name (fs.follow p.names) _ :=
    walk_concat rfl hname.2.2.1 maxLinks [] p.names
  rw [show fs.follow p.names = _ from habove] at hconcat
  have harrive := hconcat fun target htarget => by rw [hdir] at htarget; simp at htarget
  rw [arrive, hrun, if_neg (by simp), if_neg hsize, hdir] at harrive
  exact leads_iff.mpr harrive

/-- The place of a path that leads nowhere lies in the place of the one above. -/
theorem placeOf_child_of_not_leads (tree : fs.IsTree)
    (h : ∀ place, ¬ fs.Leads (p.child name) place) :
    fs.placeOf (p.child name) = fs.placeOf p ++ [name] := by
  rw [placeOf_child]
  cases hfollow : fs.follow (p.names ++ [name]) with
  | error e => rfl
  | ok spot => exact absurd (leads_of_follow (p := p.child name) tree hfollow) (h _)

/-! ## Making one directory -/

theorem makeDirectory_of_textFault {text : String} {fault : Fault}
    (h : textFault? text = some fault) (here : Location) :
    fs.makeDirectory here text = .error fault := by
  rw [makeDirectory, locate_of_textFault h]

theorem textFault?_ne_missing (hp : p.IsSettled) (text : String) :
    textFault? p.text ≠ some (.system .missing text) := by
  unfold textFault?
  rw [if_neg (Path.text_ne_empty hp.absolute)]
  split
  · simp
  · split <;> simp

section Child

variable (hp : p.IsSettled) (hname : Path.Proper name)
include hp hname

/-- What making a directory comes to where its path leads to the one above. -/
theorem makeDirectory_child {above : Location} (tree : fs.IsTree) (habove : fs.Leads p above)
    (htext : textFault? (p.child name).text = none) (here : Location) :
    fs.makeDirectory here (p.child name).text =
      if !fs.mayRun above then .error (.system .denied (p.child name).text)
      else if maxNameSize < Utf8.size name then .error (.system .nameTooLong (p.child name).text)
      else
        match fs.get? (above ++ [name]) with
        | some _ => .error (.system .present (p.child name).text)
        | none =>
          if fs.mayChange above then .ok (fs.make (above ++ [name]) .directory 0o755)
          else .error (.system .denied (p.child name).text) := by
  rw [makeDirectory, locate_child hp hname htext rfl habove fun _ _ => rfl,
    arrive_of_directory (habove.get? tree)]
  by_cases hrun : (!fs.mayRun above) = true
  · rw [if_pos hrun, if_pos hrun]
    rfl
  rw [if_neg hrun, if_neg hrun]
  by_cases hsize : maxNameSize < Utf8.size name
  · rw [if_pos hsize, if_pos hsize]
    rfl
  rw [if_neg hsize, if_neg hsize]
  cases fs.get? (above ++ [name]) with
  | some e => rfl
  | none => simp [Except.mapError]

/-- A directory is made in the one that the path leads to, where nothing is. -/
theorem makeDirectory_child_ok (tree : fs.IsTree) {here : Location}
    (h : fs.makeDirectory here (p.child name).text = .ok fs') :
    textFault? (p.child name).text = none ∧
    ∃ above, fs.Leads p above ∧ fs.get? (above ++ [name]) = none ∧
      fs.mayRun above = true ∧ ¬ maxNameSize < Utf8.size name ∧
      fs' = fs.make (above ++ [name]) .directory 0o755 := by
  cases htext : textFault? (p.child name).text with
  | some fault => rw [makeDirectory_of_textFault htext] at h; simp at h
  | none =>
      refine ⟨rfl, ?_⟩
      cases hfollow : fs.follow p.names with
      | error e =>
          rw [makeDirectory, locate_child_of_error hp hname htext rfl hfollow] at h
          simp at h
      | ok spot =>
          have habove := leads_of_follow tree hfollow
          refine ⟨spot.location, habove, ?_⟩
          rw [makeDirectory_child hp hname tree habove htext] at h
          split at h
          · simp at h
          next hrun =>
          split at h
          · simp at h
          next hsize =>
          split at h
          · simp at h
          next hnone =>
          split at h
          · exact ⟨hnone, by simpa using hrun, hsize, (Except.ok.inj h).symm⟩
          · simp at h

/-- A directory is missing on the way only where the path above leads nowhere. -/
theorem not_leads_of_makeDirectory_missing (tree : fs.IsTree) {here : Location} {text : String}
    (h : fs.makeDirectory here (p.child name).text = .error (.system .missing text)) :
    ∀ above, ¬ fs.Leads p above := by
  intro above habove
  cases htext : textFault? (p.child name).text with
  | some fault =>
      rw [makeDirectory_of_textFault htext] at h
      obtain rfl := Except.error.inj h
      exact textFault?_ne_missing (hp.child hname) text htext
  | none =>
      rw [makeDirectory_child hp hname tree habove htext] at h
      split at h
      · simp at h
      split at h
      · simp at h
      split at h
      · simp at h
      split at h <;> simp at h

end Child

theorem makeDirectory_root (hp : p.IsSettled) (hroot : p.names = []) (here : Location) :
    fs.makeDirectory here p.text = .error (.system .present p.text) := by
  have htext : textFault? p.text = none := by
    rcases p with ⟨_ | _ | _, names⟩
    · exact absurd rfl hp.absolute
    · obtain rfl : names = [] := hroot
      decide
    · obtain rfl : names = [] := hroot
      decide
  rw [makeDirectory, locate_settled hp htext, hroot]
  rfl

theorem unlessDirectory_ok {here : Location} {fault : Fault}
    (h : fs.unlessDirectory here p.text fault = .ok ()) :
    fs.stat? here p.text = .ok (some .directory) := by
  unfold unlessDirectory at h
  split at h
  · assumption
  · simp at h
  · simp at h

/-! ## Making all that is missing -/

/-- The second file system is the first one with directories on the way to the place, which
may be entered. -/
structure Made (fs fs' : FileSystem) (place : Location) : Prop where
  tree : fs'.IsTree
  grows : fs.Grows fs'
  names : ∀ {l}, fs.OneName l → fs'.OneName l
  enter : ∀ {l}, fs.get? l = none → fs'.get? l = some .directory → fs'.mayRun l = true
  new : ∀ l, fs'.get? l = fs.get? l ∨
    fs.get? l = none ∧ fs'.get? l = some .directory ∧ l <+: place

theorem Made.refl (tree : fs.IsTree) (place : Location) : Made fs fs place :=
  ⟨tree, .refl fs, id, fun hnone hdir => by simp [hnone] at hdir, fun _ => .inl rfl⟩

/-- One more directory has been made, at the place itself. -/
theorem Made.make {above : Location} (h : Made fs fs' above)
    (hdir : fs'.get? above = some .directory) (hname : Path.Proper name)
    (hnone : fs'.get? (above ++ [name]) = none) :
    Made fs (fs'.make (above ++ [name]) .directory 0o755) (above ++ [name]) := by
  refine ⟨h.tree.make hdir hname hnone _ _, h.grows.trans (grows_make _ _ hnone),
    fun hone => (h.names hone).make _ _ _, fun {l} hwas his => ?_, fun l => ?_⟩
  · by_cases hl : l = above ++ [name]
    · rw [hl, mayRun, rightsAt, attributesAt_make_self]
      simp
    · rw [get?_make, if_neg fun hand => hl hand.1] at his
      rw [mayRun, rightsAt_make_of_ne _ _ _ hl]
      exact h.enter hwas his
  rw [get?_make]
  split
  · next hl =>
      obtain ⟨rfl, -⟩ := hl
      refine .inr ⟨?_, rfl, List.prefix_rfl⟩
      rcases h.new (above ++ [name]) with hsame | ⟨-, hsome, -⟩
      · rw [← hsame, hnone]
      · rw [hnone] at hsome
        simp at hsome
  · rcases h.new l with hsame | ⟨hwas, his, honway⟩
    · exact .inl hsame
    · exact .inr ⟨hwas, his, honway.trans (List.prefix_append ..)⟩

theorem Made.mono {above : Location} (h : Made fs fs' above) (honway : above <+: place) :
    Made fs fs' place :=
  ⟨h.tree, h.grows, h.names, h.enter, fun l =>
    (h.new l).imp_right fun hl => ⟨hl.1, hl.2.1, hl.2.2.trans honway⟩⟩

/-- In the directory itself nothing has changed. -/
theorem Made.get?_child (h : Made fs fs' place) (name : String) :
    fs'.get? (place ++ [name]) = fs.get? (place ++ [name]) := by
  rcases h.new (place ++ [name]) with hsame | ⟨-, -, honway⟩
  · exact hsame
  · have := honway.length_le
    simp only [List.length_append, List.length_singleton] at this
    omega

/-- What has changed is a new directory on the way. -/
theorem Made.of_ne {l : Location} (h : Made fs fs' place) (hne : fs'.get? l ≠ fs.get? l) :
    l <+: place ∧ fs.get? l = none ∧ fs'.get? l = some .directory := by
  rcases h.new l with hsame | ⟨hnone, hdir, honway⟩
  · exact absurd hsame hne
  · exact ⟨honway, hnone, hdir⟩

/-- The path leads to its directory, which was there with all of the rest or is new. -/
structure Reached (fs fs' : FileSystem) (p : Path) : Prop where
  text : textFault? p.text = none
  leads : fs'.Leads p (fs.placeOf p)
  new : fs' = fs ∨ fs.get? (fs.placeOf p) = none

/-- A directory has been made where the path above led already. -/
theorem Made.makeDirectory {fs₁ : FileSystem} (hp : p.IsSettled) (hname : Path.Proper name)
    (hmade : Made fs fs₁ (fs.placeOf p))
    (hplace : ∀ above, fs₁.Leads p above → above = fs.placeOf p) (tree : fs.IsTree)
    {here : Location} (hok : fs₁.makeDirectory here (p.child name).text = .ok fs') :
    Made fs fs' (fs.placeOf (p.child name)) ∧ Reached fs fs' (p.child name) := by
  obtain ⟨htext, above, habove, hnone, hrun, hsize, rfl⟩ :=
    makeDirectory_child_ok hp hname hmade.tree hok
  have hdir := habove.get? hmade.tree
  have hnowhere : ∀ place, ¬ fs.Leads (p.child name) place := by
    intro place hleads
    have hthere := (habove.get?_child hmade.tree hname (by simp [hnone])
      (hleads.grows tree hmade.grows)).2
    simp [hnone] at hthere
  have hplaceOf : fs.placeOf (p.child name) = above ++ [name] := by
    rw [placeOf_child_of_not_leads tree hnowhere, ← hplace above habove]
  rw [← hplace above habove] at hmade
  have hmade' := hmade.make hdir hname hnone
  have hgrows := grows_make .directory 0o755 hnone
  have hnew : fs.get? (above ++ [name]) = none := by
    rcases hmade.new (above ++ [name]) with hsame | ⟨hwas, -, -⟩
    · rw [← hsame, hnone]
    · exact hwas
  rw [hplaceOf]
  refine ⟨hmade', htext, ?_, .inr (hplaceOf ▸ hnew)⟩
  rw [hplaceOf]
  refine leads_child hname (habove.grows hmade.tree hgrows) ?_ ?_ hsize
  · rw [get?_make, if_pos ⟨rfl, by simp⟩]
  · rw [hgrows.mayRun (by simp [hdir]), hrun]

/-- The first attempt succeeds. -/
theorem made_of_makeDirectory (hp : p.IsSettled) (tree : fs.IsTree) {here : Location}
    (hok : fs.makeDirectory here p.text = .ok fs') :
    Made fs fs' (fs.placeOf p) ∧ Reached fs fs' p := by
  rcases hp.cases with hroot | ⟨above, name, habove, hname, rfl⟩
  · rw [makeDirectory_root hp hroot] at hok
    simp at hok
  · exact (Made.refl tree _).makeDirectory habove hname
      (fun place hplace => hplace.placeOf.symm) tree hok

/-- The refusal does not matter where there is a directory. -/
theorem made_of_unlessDirectory (hp : p.IsSettled) (tree : fs.IsTree) (here : Location)
    (fault : Fault) :
    Made fs fs (fs.placeOf p) ∧
      (fs.unlessDirectory here p.text fault = .ok () → Reached fs fs p) := by
  refine ⟨.refl tree _, fun hok => ?_⟩
  obtain ⟨htext, place, hleads⟩ := leads_of_stat? hp (unlessDirectory_ok hok)
  exact ⟨htext, hleads.placeOf ▸ hleads, .inl rfl⟩

/-- A refusal counts after the directory above has been made. -/
theorem unlessDirectory_ne_ok {fs₁ : FileSystem} (hp : p.IsSettled) (hname : Path.Proper name)
    (tree : fs.IsTree) (hmade : Made fs fs₁ (fs.placeOf p)) (hreached : Reached fs fs₁ p)
    (hnowhere : ∀ above, ¬ fs.Leads p above) (here : Location) (fault : Fault) :
    fs₁.unlessDirectory here (p.child name).text fault ≠ .ok () := by
  intro hok
  obtain ⟨-, place, hleads⟩ := leads_of_stat? (hp.child hname) (unlessDirectory_ok hok)
  rcases hreached.new with rfl | hnone
  · exact hnowhere _ hreached.leads
  · have hempty : fs₁.get? (fs.placeOf p ++ [name]) = none := by
      rw [hmade.get?_child]
      exact tree.get?_append_eq_none (by simp [hnone]) (List.cons_ne_nil name [])
    have hthere := (hreached.leads.get?_child hmade.tree hname (by simp [hempty]) hleads).2
    simp [hempty] at hthere

/-- Whatever comes of making the directories on a path, only such directories are new;
and if all goes well, the path leads to its place. -/
theorem makeDirectories_spec (here : Location) (missing : Nat) :
    ∀ {p : Path} {fs : FileSystem}, p.IsSettled → fs.IsTree →
      Made fs (makeDirectories here missing p fs).2 (fs.placeOf p) ∧
        ((makeDirectories here missing p fs).1 = .ok () →
          Reached fs (makeDirectories here missing p fs).2 p) := by
  induction missing with
  | zero =>
      intro p fs hp tree
      unfold makeDirectories
      split
      · next hok =>
          obtain ⟨hmade, hreached⟩ := made_of_makeDirectory hp tree hok
          exact ⟨hmade, fun _ => hreached⟩
      · exact ⟨.refl tree _, fun hok => by simp at hok⟩
      · exact made_of_unlessDirectory hp tree here _
  | succ missing ih =>
      intro p fs hp tree
      unfold makeDirectories
      split
      · next hok =>
          obtain ⟨hmade, hreached⟩ := made_of_makeDirectory hp tree hok
          exact ⟨hmade, fun _ => hreached⟩
      · next hmissing =>
          rcases hp.cases with hroot | ⟨above, name, habove, hname, rfl⟩
          · rw [makeDirectory_root hp hroot] at hmissing
            simp at hmissing
          dsimp only
          rw [Path.parent_child]
          obtain ⟨hmade, hreached⟩ := ih habove tree
          have hnowhere := not_leads_of_makeDirectory_missing habove hname tree hmissing
          have hplace : fs.placeOf (above.child name) = fs.placeOf above ++ [name] :=
            placeOf_child_of_not_leads tree fun place hleads =>
              let ⟨place', hplace'⟩ := hleads.exists_parent tree hname
              hnowhere place' hplace'
          have hmade' := hmade.mono (hplace ▸ List.prefix_append (fs.placeOf above) [name])
          rcases hsteps : makeDirectories here missing above fs with ⟨_ | ⟨⟨⟩⟩, fs₁⟩ <;>
            rw [hsteps] at hmade hreached hmade'
          · exact ⟨hmade', fun hok => by simp at hok⟩
          have hreached := hreached rfl
          dsimp only
          split
          · next hok =>
              obtain ⟨hmade, hreached⟩ := hmade.makeDirectory habove hname
                (fun place hplace => hplace.unique hreached.leads) tree hok
              exact ⟨hmade, fun _ => hreached⟩
          · exact ⟨hmade', fun hok => by simp at hok⟩
          · refine ⟨hmade', fun hok => absurd hok ?_⟩
            exact unlessDirectory_ne_ok habove hname tree hmade hreached hnowhere here _
      · exact made_of_unlessDirectory hp tree here _

/-! ## Making what is there -/

/-- A directory that is there is not made again, and nothing on the way to it is missing. -/
theorem makeDirectory_of_leads (hp : p.IsSettled) (tree : fs.IsTree)
    (htext : textFault? p.text = none) (h : fs.Leads p place) (here : Location) :
    ∃ e, e ≠ .missing ∧ fs.makeDirectory here p.text = .error (.system e p.text) := by
  rcases hp.cases with hroot | ⟨q, name, hq, hname, rfl⟩
  · exact ⟨.present, by simp, makeDirectory_root hp hroot here⟩
  · obtain ⟨above, habove⟩ := h.exists_parent tree hname
    rw [makeDirectory_child hq hname tree habove htext]
    split
    · exact ⟨.denied, by simp, rfl⟩
    split
    · exact ⟨.nameTooLong, by simp, rfl⟩
    split
    · exact ⟨.present, by simp, rfl⟩
    · next hnone =>
        have hthere := (habove.get?_child tree hname (by simp [hnone]) h).2
        simp [hnone] at hthere

theorem makeDirectories_of_leads (hp : p.IsSettled) (tree : fs.IsTree)
    (htext : textFault? p.text = none) (h : fs.Leads p place) (here : Location) (missing : Nat) :
    makeDirectories here missing p fs = (.ok (), fs) := by
  obtain ⟨e, he, hmake⟩ := makeDirectory_of_leads hp tree htext h here
  have hunless : fs.unlessDirectory here p.text (.system e p.text) = .ok () := by
    simp only [unlessDirectory, stat?_of_leads hp htext h here]
  unfold makeDirectories
  rw [hmake]
  split
  · next heq => simp at heq
  · next heq => exact absurd (Fault.system.inj (Except.error.inj heq)).1 he
  · next heq => rw [← Except.error.inj heq, hunless]

end FileSystem

end ComponentReference
