import ComponentReference.Proofs.Host.PathText
import ComponentReference.Host.Resolve

/-!
# Resolved paths

Whatever the links and double dots in a path and whatever is on the way, its resolved
path is settled: `isSettled_of_resolve`.  Resolution only ever puts names together that
stand between slashes, and at the end takes back the double dots.  A path seen from a
directory gets the names of that directory, which are proper because the directory is
there.
-/

namespace ComponentReference

namespace Path

/-! ## Names that a text can write -/

/-- Every name of the path is written between two slashes, and may be a double dot. -/
def Written (p : Path) : Prop :=
  ∀ name ∈ p.names, name = ".." ∨ Proper name

instance (p : Path) : Decidable p.Written :=
  inferInstanceAs (Decidable (∀ name ∈ p.names, _))

variable {p q : Path}

theorem IsSettled.written (h : p.IsSettled) : p.Written :=
  fun name hname => .inr (h.proper name hname)

theorem written_of_isName {piece : String} (hslash : '/' ∉ piece.toList)
    (hname : isName piece = true) : piece = ".." ∨ Proper piece := by
  by_cases hdots : piece = ".."
  · exact .inl hdots
  · rw [isName, decide_eq_true_eq] at hname
    exact .inr ⟨hname.1, hname.2, hdots, hslash⟩

theorem written_ofString (s : String) : (ofString s).Written := by
  intro name hname
  obtain ⟨hpiece, hisName⟩ := List.mem_filter.mp hname
  exact written_of_isName (not_mem_of_mem_pieces hpiece) hisName

/-- The system finds the names of an absolute path in its text. -/
theorem Written.namesIn_text (h : p.Written) (hp : p.anchor ≠ .nothing) :
    namesIn p.text = p.names := by
  refine namesIn_text_of_absolute hp fun name hname => ?_
  rcases h name hname with rfl | hproper
  · decide
  · exact hproper.namesIn

theorem Written.child (h : p.Written) {name : String} (hname : name = ".." ∨ Proper name) :
    (p.child name).Written := by
  intro name' hname'
  rcases List.mem_append.mp hname' with hold | hnew
  · exact h name' hold
  · rw [List.mem_singleton.mp hnew]
    exact hname

theorem written_append (hp : p.Written) (hq : q.Written) : (p ++ q).Written := by
  show Path.Written (append p q)
  unfold append
  split
  · exact hq
  · intro name hname
    rcases List.mem_append.mp hname with hleft | hright
    · exact hp name hleft
    · exact hq name hright

theorem Written.above (h : p.Written) : p.above.Written := by
  unfold Path.above
  split
  · split
    · exact h
    · exact h.child (.inl rfl)
  · split
    · exact h.child (.inl rfl)
    · exact fun name hname => h name (List.dropLast_subset _ hname)

theorem mem_withoutDots {names : List String} {name : String} (h : name ∈ withoutDots names) :
    name ∈ names ∧ name ≠ ".." := by
  unfold withoutDots at h
  induction names using List.reverseRecOn with
  | nil => simp at h
  | append_singleton before last ih =>
      rw [List.foldl_append, List.foldl_cons, List.foldl_nil] at h
      split at h
      · obtain ⟨hmem, hne⟩ := ih (List.dropLast_subset _ h)
        exact ⟨List.mem_append_left _ hmem, hne⟩
      · next hlast =>
          rcases List.mem_append.mp h with hbefore | hmem
          · obtain ⟨hmem, hne⟩ := ih hbefore
            exact ⟨List.mem_append_left _ hmem, hne⟩
          · rw [List.mem_singleton.mp hmem]
            exact ⟨by simp, hlast⟩

/-- The absolute path of a path is settled if its names are written, and those of the
directory that it is seen from are proper. -/
theorem Written.absoluteFrom (hp : p.Written) {here : Location}
    (hhere : p.isAbsolute = true ∨ ∀ name ∈ here, Proper name) :
    (p.absoluteFrom here).IsSettled := by
  unfold Path.absoluteFrom
  dsimp only
  refine ⟨?_, fun name hname => ?_⟩
  · show (Path.append _ _).anchor ≠ _
    unfold Path.append
    split
    · next habsolute => simpa [isAbsolute] using habsolute
    · simp [Location.path]
  · obtain ⟨hmem, hne⟩ := mem_withoutDots hname
    have hwhole : (here.path ++ p).Written := by
      rcases hhere with habsolute | hproper
      · show Path.Written (Path.append _ _)
        rwa [Path.append, if_pos habsolute]
      · exact written_append (fun name hname => .inr (hproper name hname)) hp
    exact (hwhole name hmem).resolve_left hne

end Path

namespace FileSystem

variable {fs fs' : FileSystem} {here : Location}

/-! ## Resolution keeps to written names -/

/-- All that the links met so far were resolved to is written. -/
def MetLinks.Written (met : MetLinks) : Prop :=
  ∀ link resolved, met.lookup link = some (some resolved) → Path.Written resolved

theorem MetLinks.Written.cons {met : MetLinks} (h : met.Written) (link : Path)
    {resolved? : Option Path}
    (hresolved : ∀ resolved, resolved? = some resolved → resolved.Written) :
    MetLinks.Written ((link, resolved?) :: met) := by
  intro other resolved hlookup
  rw [List.lookup_cons] at hlookup
  split at hlookup
  · exact hresolved resolved (Option.some_inj.mp hlookup)
  · exact h other resolved hlookup

theorem resolveWith_written
    {jump : MetLinks → Path → String → Except Fault (Resolution × MetLinks)}
    (hjump : ∀ {met directory target resolution met'}, MetLinks.Written met →
      Path.Written directory → jump met directory target = .ok (resolution, met') →
        resolution.path.Written ∧ met'.Written) :
    ∀ {pieces met path resolution met'}, (∀ piece ∈ pieces, '/' ∉ piece.toList) →
      MetLinks.Written met → Path.Written path →
      fs.resolveWith here jump met path pieces = .ok (resolution, met') →
        resolution.path.Written ∧ met'.Written := by
  intro pieces
  induction pieces with
  | nil =>
      intro met path resolution met' _ hmet hpath h
      obtain ⟨rfl, rfl⟩ := Prod.mk.inj (Except.ok.inj h)
      exact ⟨hpath, hmet⟩
  | cons piece rest ih =>
      intro met path resolution met' hpieces hmet hpath h
      have hrest : ∀ piece ∈ rest, '/' ∉ piece.toList :=
        fun piece hpiece => hpieces piece (List.mem_cons_of_mem _ hpiece)
      rw [resolveWith] at h
      split at h
      · exact ih hrest hmet hpath h
      next hname =>
      split at h
      · exact ih hrest hmet hpath.above h
      have hchild : (path.child piece).Written :=
        hpath.child (Path.written_of_isName (hpieces piece (List.mem_cons_self ..))
          (by simpa using hname))
      dsimp only at h
      split at h
      · simp at h
      · exact ih hrest hmet hchild h
      split at h
      · next resolved hlookup => exact ih hrest hmet (hmet _ resolved hlookup) h
      · obtain ⟨rfl, rfl⟩ := Prod.mk.inj (Except.ok.inj h)
        exact ⟨Path.written_append hchild (Path.written_ofString _), hmet⟩
      split at h
      · simp at h
      · next hresolved =>
          obtain ⟨hpath', hmet'⟩ := hjump (hmet.cons _ (by simp)) hpath hresolved
          refine ih hrest (hmet'.cons _ fun other hother => ?_) hpath' h
          rw [← Option.some_inj.mp hother]
          exact hpath'
      · next hstuck =>
          obtain ⟨hpath', hmet'⟩ := hjump (hmet.cons _ (by simp)) hpath hstuck
          obtain ⟨rfl, rfl⟩ := Prod.mk.inj (Except.ok.inj h)
          exact ⟨Path.written_append hpath' (Path.written_ofString _), hmet'⟩

theorem resolutionStart_written {directory : Path} (h : directory.Written) (text : String) :
    (resolutionStart directory text).Written := by
  unfold resolutionStart
  split
  · exact fun name hname => absurd hname (by simp)
  · exact h

theorem resolveText_written (levels : Nat) :
    ∀ {met directory text resolution met'}, MetLinks.Written met → Path.Written directory →
      fs.resolveText here levels met directory text = .ok (resolution, met') →
        resolution.path.Written ∧ met'.Written := by
  induction levels with
  | zero =>
      intro met directory text resolution met' hmet hdirectory h
      refine resolveWith_written (fun hmet hdirectory h => ?_)
        (fun piece hpiece => Path.not_mem_of_mem_pieces hpiece) hmet
        (resolutionStart_written hdirectory text) h
      obtain ⟨rfl, rfl⟩ := Prod.mk.inj (Except.ok.inj h)
      exact ⟨hdirectory, hmet⟩
  | succ levels ih =>
      intro met directory text resolution met' hmet hdirectory h
      exact resolveWith_written ih (fun piece hpiece => Path.not_mem_of_mem_pieces hpiece) hmet
        (resolutionStart_written hdirectory text) h

/-- Every resolved path is settled. -/
theorem isSettled_of_resolve (tree : fs.IsTree) {path resolved : Path}
    (h : fs.resolve here path = .ok resolved) : resolved.IsSettled := by
  unfold resolve at h
  split at h
  · simp at h
  next resolution met hresolution =>
  have hwritten : resolution.path.Written :=
    (resolveText_written _ (fun _ _ hlookup => by simp at hlookup)
      (fun name hname => absurd hname (by simp)) hresolution).1
  split at h
  · simp at h
  next absolute habsolute =>
  have heq : absolute = resolved := by
    split at h
    · simp at h
    · simp at h
    · exact Except.ok.inj h
  unfold FileSystem.absolute at habsolute
  split at habsolute
  · next hhere =>
      rw [← heq, ← Except.ok.inj habsolute]
      refine hwritten.absoluteFrom ?_
      rw [Bool.or_eq_true, isDirectoryAt_iff] at hhere
      exact hhere.imp_right fun hdir => tree.proper_of_mem hdir
  · simp at habsolute

end FileSystem

/-- A path that an environment makes of a text is settled. -/
theorem Environment.isSettled_of_resolvePath {env : Environment} {fs : FileSystem}
    (tree : fs.IsTree) {here : Location} {root : Path} {value : String} {p : Path}
    (h : env.resolvePath fs here root value = .ok p) : p.IsSettled := by
  unfold Environment.resolvePath at h
  split at h
  · simp at h
  · exact FileSystem.isSettled_of_resolve tree h

theorem Environment.isSettled_of_pathOf {env : Environment} {fs : FileSystem}
    (tree : fs.IsTree) {here : Location} {text : String} {p : Path}
    (h : env.pathOf fs here text = .ok p) : p.IsSettled := by
  unfold Environment.pathOf at h
  split at h
  · simp at h
  · exact FileSystem.isSettled_of_resolve tree h

end ComponentReference
