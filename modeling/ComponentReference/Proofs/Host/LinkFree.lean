import ComponentReference.Proofs.Host.Directories
import ComponentReference.Proofs.Host.Resolving

/-!
# File systems without links

Without links a settled path leads to the place that its names make up, or nowhere, and
a path is resolved by its text alone.  So paths mean the same in two such file systems.

Looking something up still depends on the directories on the way: each that is there has
to be entered, and the next name must not be too long.  `Passable` says so, and
`stat?_settled_iff` that nothing else can go wrong.
-/

namespace ComponentReference.FileSystem

variable {fs fs' : FileSystem} {here : Location}

/-- There is no link. -/
def LinkFree (fs : FileSystem) : Prop :=
  ∀ l target, fs.get? l ≠ some (.link target)

/-- It is enough to count them. -/
theorem linkFree_of_linkCount (h : fs.linkCount = 0) : fs.LinkFree := by
  intro l target hlink
  have hnil : l ≠ [] := fun hnil => by simp [hnil] at hlink
  have := List.countP_eq_zero.mp h _ (mem_entries_of_get? hlink hnil)
  simp at this

/-! ## Walks -/

/-- A walk comes to no link, and does not go round in a circle. -/
theorem walkWith_of_linkFree (hfree : fs.LinkFree) (manner : Manner)
    (jump : Location → String → List String → Except Errno Spot) :
    ∀ names here, (∀ spot, fs.walkWith manner jump here names = .ok spot →
        ∀ target, spot.entry? ≠ some (.link target)) ∧
      fs.walkWith manner jump here names ≠ .error .linkLoop := by
  intro names
  induction names with
  | nil =>
      intro here
      refine ⟨fun spot h => ?_, by simp [walkWith]⟩
      rw [← Except.ok.inj h]
      simp
  | cons name rest ih =>
      intro here
      rw [walkWith]
      split
      · simp
      split
      · exact ih here.dropLast
      split
      · simp
      split
      · simp
      dsimp only
      split
      · exact ih (here ++ [name])
      · next target hlink => exact absurd hlink (hfree _ target)
      · next e hdir hlink hget =>
          split
          · refine ⟨fun spot h => ?_, by simp⟩
            rw [← Except.ok.inj h]
            exact fun target heq => hlink target (Option.some_inj.mp heq)
          · simp
      · split
        · refine ⟨fun spot h => ?_, by simp⟩
          rw [← Except.ok.inj h]
          simp
        · simp

theorem walk_of_linkFree (hfree : fs.LinkFree) (links : Nat) (manner : Manner)
    (here : Location) (names : List String) :
    (∀ spot, fs.walk links manner here names = .ok spot →
        ∀ target, spot.entry? ≠ some (.link target)) ∧
      fs.walk links manner here names ≠ .error .linkLoop := by
  cases links <;> exact walkWith_of_linkFree hfree manner _ names here

/-! ## Resolution -/

/-- Whether a text contains the character that no path can. -/
def HasNul (text : String) : Prop :=
  text.toList.contains (Char.ofNat 0) = true

instance (text : String) : Decidable (HasNul text) :=
  inferInstanceAs (Decidable (_ = true))

theorem hasNul_append (s t : String) : HasNul (s ++ t) ↔ HasNul s ∨ HasNul t := by
  simp [HasNul]

theorem hasNul_intercalate_slash (names : List String) :
    HasNul ("/".intercalate names) ↔ ∃ name ∈ names, HasNul name := by
  have hslash : ¬ HasNul "/" := by decide
  induction names with
  | nil => decide
  | cons first rest ih =>
      rcases rest with _ | ⟨second, rest⟩
      · simp
      · simp [String.intercalate_cons_cons, hasNul_append, hslash, ih]

/-- The character is in the text of a path if it is in one of its names. -/
theorem hasNul_text_iff (p : Path) : HasNul p.text ↔ ∃ name ∈ p.names, HasNul name := by
  have hslash : ¬ HasNul "/" := by decide
  have hslashes : ¬ HasNul "//" := by decide
  have hdot : ¬ HasNul "." := by decide
  unfold Path.text
  cases p.anchor with
  | nothing =>
      dsimp only
      split
      · next hnil => simp [hdot, List.isEmpty_iff.mp hnil]
      · exact hasNul_intercalate_slash p.names
  | slash => simp [hasNul_append, hslash, hasNul_intercalate_slash]
  | twoSlashes => simp [hasNul_append, hslashes, hasNul_intercalate_slash]

theorem textFault?_eq_none_iff {text : String} :
    textFault? text = none ↔
      ¬ HasNul text ∧ text ≠ "" ∧ Utf8.size text < pathSizeLimit := by
  unfold textFault? HasNul
  split
  · simp_all
  split
  · simp_all
  split
  · next hlimit => simp [Nat.not_lt.mpr hlimit]
  · next hlimit => simp_all [Nat.not_le.mp hlimit]

theorem textFault?_eq_embeddedNul_iff {text : String} :
    textFault? text = some .embeddedNul ↔ HasNul text := by
  unfold textFault? HasNul
  split
  · simp_all
  · split
    · simp_all
    · split <;> simp_all

theorem textFault?_ne_linkLoop (text other : String) :
    textFault? text ≠ some (.system .linkLoop other) := by
  unfold textFault?
  split
  · simp
  · split
    · simp
    · split <;> simp

theorem locate_of_linkFree (hfree : fs.LinkFree) (here : Location) (manner : Manner)
    (text : String) :
    (∀ spot, fs.locate here manner text = .ok spot → ∀ target, spot.entry? ≠ some (.link target)) ∧
      (∀ p, fs.locate here manner text ≠ .error (.system .linkLoop p)) ∧
      (fs.locate here manner text = .error .embeddedNul ↔ HasNul text) := by
  rw [locate_eq]
  cases htext : textFault? text with
  | some fault =>
      refine ⟨nofun, fun p hloop => ?_, ?_⟩
      · exact textFault?_ne_linkLoop text p (htext.trans (congrArg some (Except.error.inj hloop)))
      · rw [← textFault?_eq_embeddedNul_iff, htext, Except.error.injEq, Option.some_inj]
  | none =>
      have hnul := (textFault?_eq_none_iff.mp htext).1
      have hwalk := walk_of_linkFree hfree maxLinks (manner.endingAs text) (start here text)
        (Path.namesIn text)
      cases h : fs.walk maxLinks (manner.endingAs text) (start here text) (Path.namesIn text) with
      | error e =>
          rw [h] at hwalk
          simp_all [Except.mapError]
      | ok spot =>
          rw [h] at hwalk
          simp_all [Except.mapError]

theorem linkTarget?_of_linkFree (hfree : fs.LinkFree) (here : Location) (p : Path) :
    fs.linkTarget? here p = if HasNul p.text then .error .embeddedNul else .ok none := by
  obtain ⟨hspot, -, hnul⟩ := locate_of_linkFree hfree here { followLast := false } p.text
  unfold linkTarget?
  split
  · next hlink => exact absurd rfl (hspot _ hlink _)
  · next h => rw [if_pos (hnul.mp h)]
  · next h => rw [if_neg fun hn => h (hnul.mpr hn)]

/-- Resolution goes by the text alone. -/
theorem resolveWith_of_linkFree (hfree : fs.LinkFree) (hfree' : fs'.LinkFree)
    (jump jump' : MetLinks → Path → String → Except Fault (Resolution × MetLinks)) :
    ∀ pieces met path, fs.resolveWith here jump met path pieces =
      fs'.resolveWith here jump' met path pieces := by
  intro pieces
  induction pieces with
  | nil => exact fun _ _ => rfl
  | cons piece rest ih =>
      intro met path
      rw [resolveWith, resolveWith]
      dsimp only
      rw [linkTarget?_of_linkFree hfree, linkTarget?_of_linkFree hfree', ih, ih]
      by_cases hnul : HasNul (path.child piece).text
      · simp [hnul]
      · simp only [hnul, if_false]
        rw [ih]

theorem resolveText_of_linkFree (hfree : fs.LinkFree) (hfree' : fs'.LinkFree)
    (levels levels' : Nat) (met : MetLinks) (directory : Path) (text : String) :
    fs.resolveText here levels met directory text =
      fs'.resolveText here levels' met directory text := by
  cases levels <;> cases levels' <;> exact resolveWith_of_linkFree hfree hfree' _ _ _ _ _

theorem stat_of_linkFree (hfree : fs.LinkFree) (here : Location) (text : String) :
    (∀ p, fs.stat here text ≠ .error (.system .linkLoop p)) ∧
      (fs.stat here text = .error .embeddedNul ↔ HasNul text) := by
  obtain ⟨-, hloop, hnul⟩ := locate_of_linkFree hfree here {} text
  unfold stat
  cases hlocate : fs.locate here {} text with
  | error fault =>
      rw [hlocate] at hloop hnul
      dsimp only
      rw [← hnul]
      exact ⟨fun p heq => hloop p (by rw [Except.error.inj heq]), by simp⟩
  | ok spot =>
      rw [hlocate] at hnul
      obtain ⟨place, _ | e⟩ := spot <;> simp_all

theorem above_anchor (p : Path) : p.above.anchor = p.anchor := by
  unfold Path.above
  split
  · split <;> rfl
  · split <;> rfl

/-- Where a resolution has come to, the path begins where it began. -/
theorem resolveWith_anchor (hfree : fs.LinkFree)
    (jump : MetLinks → Path → String → Except Fault (Resolution × MetLinks)) :
    ∀ {pieces met path resolution met'},
      fs.resolveWith here jump met path pieces = .ok (resolution, met') →
        resolution.path.anchor = path.anchor := by
  intro pieces
  induction pieces with
  | nil =>
      intro met path resolution met' h
      rw [← (Prod.mk.inj (Except.ok.inj h)).1]
      rfl
  | cons piece rest ih =>
      intro met path resolution met' h
      rw [resolveWith] at h
      dsimp only at h
      rw [linkTarget?_of_linkFree hfree] at h
      split at h
      · exact ih h
      split at h
      · rw [ih h, above_anchor]
      by_cases hnul : HasNul (path.child piece).text
      · simp [hnul] at h
      · simp only [hnul, if_false] at h
        rw [ih h]
        rfl

/-- A path is resolved again as it was, unless it begins in the working directory, which is
not there any more. -/
theorem resolve_again (hfree : fs.LinkFree) (hfree' : fs'.LinkFree) {path resolved : Path}
    (hhere : path.anchor ≠ .nothing ∨
      (fs.isDirectoryAt here = true → fs'.isDirectoryAt here = true))
    (h : fs.resolve here path = .ok resolved) : fs'.resolve here path = .ok resolved := by
  unfold resolve at h ⊢
  rw [← resolveText_of_linkFree hfree hfree' (fs.linkCount * pathSizeLimit)]
  split at h
  · simp at h
  next resolution _ hresolution =>
  have hanchor : path.anchor ≠ .nothing → resolution.path.isAbsolute = true := by
    intro hpath
    have hstart : resolutionStart {} path.text = { anchor := .slash } := by
      rw [resolutionStart, if_pos (Path.beginsWith_text hpath)]
    have hresolved : resolution.path.anchor = (resolutionStart {} path.text).anchor := by
      unfold resolveText at hresolution
      split at hresolution <;> exact resolveWith_anchor hfree _ hresolution
    rw [Path.isAbsolute, hresolved, hstart]
    rfl
  split at h
  · simp at h
  next absolute habsolute =>
  have habsolute' : fs'.absolute here resolution.path = .ok absolute := by
    unfold FileSystem.absolute at habsolute ⊢
    split at habsolute
    · next hcond =>
        rw [Bool.or_eq_true] at hcond
        have hcond' : resolution.path.isAbsolute = true ∨ fs'.isDirectoryAt here = true :=
          hhere.elim (fun hpath => .inl (hanchor hpath)) fun hdir => hcond.imp_right hdir
        rw [if_pos (by rw [Bool.or_eq_true]; exact hcond')]
        exact habsolute
    · simp at habsolute
  obtain ⟨hloop, hnul⟩ := stat_of_linkFree hfree here absolute.text
  obtain ⟨hloop', hnul'⟩ := stat_of_linkFree hfree' here absolute.text
  rw [habsolute']
  dsimp only
  split at h
  · next hstat => exact absurd hstat (hloop _)
  · simp at h
  · next hstat =>
      have hnot : ¬ HasNul absolute.text := fun hn => hstat (hnul.mpr hn)
      split
      · next hstat' => exact absurd hstat' (hloop' _)
      · next hstat' => exact absurd (hnul'.mp hstat') hnot
      · exact h

theorem append_anchor {p : Path} (hp : p.anchor ≠ .nothing) (q : Path) :
    (p ++ q).anchor ≠ .nothing := by
  show (Path.append p q).anchor ≠ .nothing
  unfold Path.append
  split
  · next hq => simpa [Path.isAbsolute] using hq
  · exact hp

theorem resolvePath_again (env : Environment) (hfree : fs.LinkFree) (hfree' : fs'.LinkFree)
    {root : Path} (hroot : root.IsSettled) {value : String} {p : Path}
    (h : env.resolvePath fs here root value = .ok p) :
    env.resolvePath fs' here root value = .ok p := by
  unfold Environment.resolvePath at h ⊢
  split at h
  · simp at h
  · exact resolve_again hfree hfree' (.inl (append_anchor hroot.absolute _)) h

/-! ## Settled paths -/

/-- Every directory on the way along the names can be entered, and no name that is looked
for in one of them is too long. -/
def Passable (fs : FileSystem) (here : Location) (names : List String) : Prop :=
  ∀ before name after, names = before ++ name :: after →
    fs.get? (here ++ before) = some .directory →
      fs.mayRun (here ++ before) = true ∧ Utf8.size name ≤ maxNameSize

theorem passable_cons {name : String} {rest : List String} :
    fs.Passable here (name :: rest) ↔
      (fs.get? here = some .directory → fs.mayRun here = true ∧ Utf8.size name ≤ maxNameSize) ∧
        fs.Passable (here ++ [name]) rest := by
  constructor
  · intro h
    refine ⟨fun hdir => ?_, fun before next after hsplit hdir => ?_⟩
    · simpa using h [] name rest rfl (by simpa using hdir)
    · have := h (name :: before) next after (by rw [hsplit]; rfl) (by simpa using hdir)
      simpa using this
  · rintro ⟨hfirst, hrest⟩ before next after hsplit hdir
    rcases before with _ | ⟨first, before⟩
    · obtain ⟨rfl, rfl⟩ := List.cons.inj hsplit
      rw [List.append_nil] at hdir ⊢
      exact hfirst hdir
    · obtain ⟨rfl, rfl⟩ := List.cons.inj hsplit
      have := hrest before next after rfl (by simpa using hdir)
      simpa using this

/-- Nothing has to be passed below what is no directory. -/
theorem passable_of_get?_ne (tree : fs.IsTree) {l : Location} (h : fs.get? l ≠ some .directory)
    (names : List String) : fs.Passable l names := by
  intro before name after _ hdir
  rcases before with _ | ⟨first, before⟩
  · rw [List.append_nil] at hdir
    exact absurd hdir h
  · rw [tree.get?_append_eq_none h (List.cons_ne_nil _ _)] at hdir
    simp at hdir

/-- What has been looked for at a place is found, or it is not there. -/
def Found (fs : FileSystem) (l : Location) (found : Except Errno Spot) : Prop :=
  found = .ok ⟨l, fs.get? l⟩ ∨
    fs.get? l = none ∧ (found = .error .missing ∨ found = .error .notDirectory)

/-- No link on the way along the names is followed: the user is sent back before it, or it comes
last and is not to be followed. -/
def Unfollowed (fs : FileSystem) (manner : Manner) (here : Location) (names : List String) :
    Prop :=
  ∀ before name after target, names = before ++ name :: after →
    fs.get? (here ++ before ++ [name]) = some (.link target) →
      after = [] ∧ manner.followLast = false ∨ ¬ fs.Passable here (before ++ [name])

theorem LinkFree.unfollowed (hfree : fs.LinkFree) (manner : Manner) (here : Location)
    (names : List String) : fs.Unfollowed manner here names :=
  fun _ _ _ target _ hlink => absurd hlink (hfree _ target)

theorem Unfollowed.tail {manner : Manner} {name : String} {rest : List String}
    (h : fs.Unfollowed manner here (name :: rest))
    (hpass : fs.mayRun here = true ∧ Utf8.size name ≤ maxNameSize) :
    fs.Unfollowed manner (here ++ [name]) rest := by
  intro before next after target hsplit hlink
  have hwhole := h (name :: before) next after target (by rw [hsplit]; rfl) (by simpa using hlink)
  refine hwhole.imp_right fun hnot hrest => hnot ?_
  rw [List.cons_append, passable_cons]
  exact ⟨fun _ => hpass, hrest⟩

/-- Proper names that are followed from a directory lead to their own place, if all is
passable.  If not, the user is sent back. -/
theorem walkWith_settled (tree : fs.IsTree) {manner : Manner} (hcreating : manner.creating = false)
    (jump : Location → String → List String → Except Errno Spot) :
    ∀ {names here}, fs.Unfollowed manner here names → (names ≠ [] → manner.ending = .name) →
      (∀ name ∈ names, Path.Proper name) → fs.get? here = some .directory →
        fs.Passable here names ∧ fs.Found (here ++ names) (fs.walkWith manner jump here names) ∨
        ¬ fs.Passable here names ∧ (fs.walkWith manner jump here names = .error .denied ∨
          fs.walkWith manner jump here names = .error .nameTooLong) := by
  intro names
  induction names with
  | nil =>
      intro here _ _ _ hhere
      refine .inl ⟨fun before name after hsplit => by simp at hsplit, .inl ?_⟩
      rw [List.append_nil, hhere]
      rfl
  | cons name rest ih =>
      intro here hlinks hending hproper hhere
      have hname := hproper name (List.mem_cons_self ..)
      have hend := hending (List.cons_ne_nil _ _)
      rw [walkWith, passable_cons]
      simp only [hname.2.2.1, hcreating, hend, hhere, Bool.and_false, Bool.false_and,
        Bool.false_eq_true, if_false, decide_true, Bool.and_true, forall_const]
      by_cases hrun : fs.mayRun here = true
      swap
      · simp [hrun]
      by_cases hsize : maxNameSize < Utf8.size name
      · simp [hrun, hsize, Nat.not_le.mpr hsize]
      have hpass : fs.mayRun here = true ∧ Utf8.size name ≤ maxNameSize :=
        ⟨hrun, Nat.not_lt.mp hsize⟩
      simp only [hrun, hsize, hpass.2, Bool.not_true, Bool.false_eq_true, if_false, and_self,
        true_and]
      have hsplit : here ++ name :: rest = here ++ [name] ++ rest := by simp
      rw [hsplit]
      -- below what is no directory the rest is passable, and nothing is there
      have hbelow : fs.get? (here ++ [name]) ≠ some .directory →
          fs.Passable (here ++ [name]) rest ∧
            (rest ≠ [] → fs.get? (here ++ [name] ++ rest) = none) := fun hdir =>
        ⟨passable_of_get?_ne tree hdir rest, tree.get?_append_eq_none hdir⟩
      have hisDir := isDirectoryAt_iff.mpr hhere
      rcases hget : fs.get? (here ++ [name]) with _ | _ | _ | target | _ | _
      case none =>
          obtain ⟨hnext, hnone⟩ := hbelow (by simp [hget])
          refine .inl ⟨hnext, ?_⟩
          rcases rest with _ | ⟨next, rest⟩
          · exact .inl (by simp [hisDir, hget])
          · exact .inr ⟨hnone (by simp), .inl rfl⟩
      case some.directory =>
          exact ih (hlinks.tail hpass) (fun _ => hend)
            (fun name hmem => hproper name (List.mem_cons_of_mem _ hmem)) hget
      case some.link =>
          -- the user has come to the link, so it is the last name
          have hfirst : fs.Passable here [name] :=
            passable_cons.mpr ⟨fun _ => hpass, fun before next after hnil => by simp at hnil⟩
          have hcome := hlinks [] name rest target rfl (by simpa using hget)
          obtain ⟨rfl, hlast⟩ := hcome.resolve_right (not_not_intro hfirst)
          obtain ⟨hnext, -⟩ := hbelow (by simp [hget])
          exact .inl ⟨hnext, .inl (by simp [hlast, hget])⟩
      all_goals
        obtain ⟨hnext, hnone⟩ := hbelow (by simp [hget])
        refine .inl ⟨hnext, ?_⟩
        rcases rest with _ | ⟨next, rest⟩
        · exact .inl (by simp [hget])
        · exact .inr ⟨hnone (by simp), .inr rfl⟩

theorem walk_settled (tree : fs.IsTree) (links : Nat) {manner : Manner}
    (hcreating : manner.creating = false) {names : List String}
    (hlinks : fs.Unfollowed manner [] names) (hending : names ≠ [] → manner.ending = .name)
    (hproper : ∀ name ∈ names, Path.Proper name) :
    fs.Passable [] names ∧ fs.Found names (fs.walk links manner [] names) ∨
      ¬ fs.Passable [] names ∧ (fs.walk links manner [] names = .error .denied ∨
        fs.walk links manner [] names = .error .nameTooLong) := by
  cases links <;>
    exact walkWith_settled tree hcreating _ hlinks hending hproper (get?_nil fs)

theorem ending_settled {p : Path} (hp : p.IsSettled) (hne : p.names ≠ []) :
    (({} : Manner).endingAs p.text).ending = .name := by
  rcases hp.cases with hnil | ⟨above, name, habove, hname, rfl⟩
  · exact absurd hnil hne
  · rw [Manner.endingAs, if_pos rfl, PathEnding.ofString_text_child habove.absolute hname]

/-- What is looked up at a settled path is what is at its place, if the path is passable. -/
theorem stat?_settled_iff (hfree : fs.LinkFree) (tree : fs.IsTree) {p : Path}
    (hp : p.IsSettled) (htext : textFault? p.text = none) (here : Location)
    {e? : Option Entry} :
    fs.stat? here p.text = .ok e? ↔ fs.Passable [] p.names ∧ e? = fs.get? p.names := by
  have hwalk := @walk_settled fs tree maxLinks (({} : Manner).endingAs p.text) rfl p.names
    (hfree.unfollowed _ _ _) (ending_settled hp) hp.proper
  rw [stat?, stat, locate_settled hp htext]
  rcases hwalk with ⟨hpass, hfound | ⟨hnone, hfound | hfound⟩⟩ | ⟨hpass, hfound | hfound⟩ <;>
    rw [hfound]
  · cases hget : fs.get? p.names <;> simp [hpass, Except.mapError, eq_comm]
  · simp [hpass, hnone, Except.mapError, eq_comm]
  · simp [hpass, hnone, Except.mapError, eq_comm]
  · simp [hpass, Except.mapError]
  · simp [hpass, Except.mapError]

/-- A settled path leads to the directory at its own place, if it leads to one. -/
theorem Leads.eq_names (hfree : fs.LinkFree) (tree : fs.IsTree) {p : Path} (hp : p.IsSettled)
    {place : Location} (h : fs.Leads p place) : place = p.names := by
  have hwalk := @walk_settled fs tree maxLinks {} rfl p.names (hfree.unfollowed _ _ _)
    (fun _ => rfl) hp.proper
  rw [leads_iff.mp h] at hwalk
  rcases hwalk with ⟨-, hfound | ⟨-, hfound | hfound⟩⟩ | ⟨-, hfound | hfound⟩
  · exact (Spot.mk.inj (Except.ok.inj hfound)).1
  all_goals simp at hfound

/-- The place of a settled path is that of its names, whether it is there or not. -/
theorem placeOf_of_linkFree (hfree : fs.LinkFree) (tree : fs.IsTree) :
    ∀ {p : Path}, p.IsSettled → fs.placeOf p = p.names := by
  rintro ⟨anchor, names⟩
  induction names using List.reverseRecOn with
  | nil => intro _; rfl
  | append_singleton before name ih =>
      intro hp
      have hbefore : (⟨anchor, before⟩ : Path).IsSettled :=
        ⟨hp.absolute, fun other hother => hp.proper other (List.mem_append_left _ hother)⟩
      have hchild := fs.placeOf_child ⟨anchor, before⟩ name
      cases hfollow : fs.follow (before ++ [name]) with
      | error e =>
          rw [show (⟨anchor, before⟩ : Path).names = before from rfl, hfollow, ih hbefore] at hchild
          exact hchild
      | ok spot =>
          have hleads : fs.Leads ⟨anchor, before ++ [name]⟩ spot.location :=
            leads_of_follow tree hfollow
          rw [hleads.placeOf]
          exact hleads.eq_names hfree tree hp

theorem stat?_of_textFault {text : String} {fault : Fault} (h : textFault? text = some fault)
    {e? : Option Entry} (hstat : fs.stat? here text = .ok e?) :
    e? = none ∧ fs'.stat? here text = .ok none := by
  have hboth : fs'.stat? here text = fs.stat? here text := by
    simp only [stat?, stat, locate_of_textFault h]
  have hnone : e? = none := by
    rw [stat?, stat, locate_of_textFault h] at hstat
    dsimp only at hstat
    split at hstat <;> simp_all
  rw [hboth, hstat, hnone]
  exact ⟨rfl, rfl⟩

/-- What is found at a settled path is found at its own place. -/
theorem locate_of_stat? (hfree : fs.LinkFree) (tree : fs.IsTree) {p : Path} (hp : p.IsSettled)
    {e : Entry} (h : fs.stat? here p.text = .ok (some e)) :
    fs.locate here {} p.text = .ok ⟨p.names, some e⟩ := by
  cases htext : textFault? p.text with
  | some fault =>
      have hnone : some e = none ∧ fs.stat? here p.text = .ok none := stat?_of_textFault htext h
      simp at hnone
  | none =>
      obtain ⟨hpass, he⟩ := (stat?_settled_iff hfree tree hp htext here).mp h
      have hwalk := @walk_settled fs tree maxLinks (({} : Manner).endingAs p.text) rfl p.names
        (hfree.unfollowed _ _ _) (ending_settled hp) hp.proper
      rw [locate_settled hp htext, he]
      rcases hwalk with ⟨-, hfound | ⟨hnone, -⟩⟩ | ⟨hnot, -⟩
      · rw [hfound]
        rfl
      · rw [hnone] at he
        simp at he
      · exact absurd hpass hnot

/-- There is nothing to read in a directory. -/
theorem read_directory (hfree : fs.LinkFree) (tree : fs.IsTree) {p : Path} (hp : p.IsSettled)
    (h : fs.stat? here p.text = .ok (some .directory)) :
    ∃ fault, fs.read here p.text = .error fault := by
  rw [read, locate_of_stat? hfree tree hp h]
  dsimp only
  split
  · exact ⟨_, rfl⟩
  · exact ⟨_, rfl⟩

/-! ## Looking again -/

/-- There is more now than before, but still no link, and directories that are new may be
entered. -/
structure Later (fs fs' : FileSystem) : Prop where
  tree : fs.IsTree
  tree' : fs'.IsTree
  free : fs.LinkFree
  free' : fs'.LinkFree
  grows : fs.Grows fs'
  enter : ∀ {l}, fs.get? l = none → fs'.get? l = some .directory → fs'.mayRun l = true

/-- No name that is looked for in a new directory on the way is too long. -/
def FitsNew (fs fs' : FileSystem) (names : List String) : Prop :=
  ∀ before name after, names = before ++ name :: after → fs.get? before = none →
    fs'.get? before = some .directory → Utf8.size name ≤ maxNameSize

theorem Later.trans {fs'' : FileSystem} (h : fs.Later fs') (h' : fs'.Later fs'') :
    fs.Later fs'' := by
  refine ⟨h.tree, h'.tree', h.free, h'.free', h.grows.trans h'.grows, fun {l} hnone hdir => ?_⟩
  by_cases hnone' : fs'.get? l = none
  · exact h'.enter hnone' hdir
  · rw [h'.grows.mayRun hnone', h.enter hnone (h'.grows.directory_of hnone' hdir)]

section Later

variable (h : fs.Later fs')
include h

theorem Later.pathOf {env : Environment} {text : String} {p : Path}
    (hpath : env.pathOf fs here text = .ok p) : env.pathOf fs' here text = .ok p := by
  unfold Environment.pathOf at hpath ⊢
  split at hpath
  · simp at hpath
  · exact resolve_again h.free h.free' (.inr h.grows.isDirectoryAt) hpath

/-- What can be passed can be passed again. -/
theorem Later.passable {names : List String} (hpass : fs.Passable [] names)
    (hfits : fs.FitsNew fs' names) : fs'.Passable [] names := by
  intro before name after hsplit hdir'
  rw [List.nil_append] at hdir' ⊢
  by_cases hnone : fs.get? before = none
  · exact ⟨h.enter hnone hdir', hfits before name after hsplit hnone hdir'⟩
  · obtain ⟨hrun, hsize⟩ := hpass before name after hsplit (h.grows.directory_of hnone hdir')
    exact ⟨(h.grows.mayRun hnone).trans hrun, hsize⟩

/-- What could be looked up can be looked up again.  It is what is there now, unless the
path is no path at all. -/
theorem Later.stat? {p : Path} (hp : p.IsSettled) (hfits : fs.FitsNew fs' p.names)
    {e? : Option Entry} (hstat : fs.stat? here p.text = .ok e?) :
    e? = none ∧ fs'.stat? here p.text = .ok none ∨
      e? = fs.get? p.names ∧ fs'.stat? here p.text = .ok (fs'.get? p.names) := by
  cases htext : textFault? p.text with
  | some fault => exact .inl (stat?_of_textFault htext hstat)
  | none =>
      obtain ⟨hpass, he⟩ := (stat?_settled_iff h.free h.tree hp htext here).mp hstat
      exact .inr ⟨he, (stat?_settled_iff h.free' h.tree' hp htext here).mpr
        ⟨h.passable hpass hfits, rfl⟩⟩

/-- The same entry is read again in the same way. -/
theorem Later.read {p : Path} (hp : p.IsSettled) {e : Entry}
    (hget : fs.get? p.names = some e) (hstat : fs.stat? here p.text = .ok (some e))
    (hstat' : fs'.stat? here p.text = .ok (some e)) :
    fs'.read here p.text = fs.read here p.text := by
  rw [FileSystem.read, FileSystem.read, locate_of_stat? h.free h.tree hp hstat,
    locate_of_stat? h.free' h.tree' hp hstat']
  simp only [h.grows.mayRead (show fs.get? p.names ≠ none by simp [hget])]

end Later

/-! ## What leaves a file system without links -/

theorem Made.linkFree {place : Location} (h : fs.Made fs' place) (hfree : fs.LinkFree) :
    fs'.LinkFree := by
  intro l target hlink
  rcases h.new l with hsame | ⟨-, hdir, -⟩
  · exact hfree l target (by rw [← hsame, hlink])
  · rw [hdir] at hlink
    simp at hlink

theorem Made.later {place : Location} (h : fs.Made fs' place) (tree : fs.IsTree)
    (hfree : fs.LinkFree) : fs.Later fs' :=
  ⟨tree, h.tree, hfree, h.linkFree hfree, h.grows, h.enter⟩

end ComponentReference.FileSystem
