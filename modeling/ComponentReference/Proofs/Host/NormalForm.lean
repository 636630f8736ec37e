import ComponentReference.Proofs.Host.Leading
import Mathlib.Data.List.Perm.Subperm

/-!
# Resolved paths are a normal form

In a file system without links that lead back to themselves, an absolute path is resolved to
the path of the place that its names lead to: `resolve_ok_iff`.  From then on the relation
`Resolves` is enough, and the notes that a resolution keeps are forgotten.  It gives what
`Environment.resolvePath_normalForm` says of configured paths.

Three things hold all along a resolution.  What has been noted of links is right.  The links
that are being resolved lead through every link that is met, so that none of them is met
again.  And they are as many as the levels that have been used, so that levels are left.
-/

namespace ComponentReference

namespace Path

theorem above_path {l : Location} (h : ".." ∉ l) :
    (Location.path l).above = Location.path l.dropLast := by
  unfold above Location.path
  cases hlast : l.getLast? with
  | none =>
      rw [List.getLast?_eq_none_iff.mp hlast]
      rfl
  | some name =>
      have hname : name ≠ ".." := fun heq => h (heq ▸ List.mem_of_getLast? hlast)
      dsimp only
      rw [if_neg hname]
      rfl

theorem withoutDots_of_not_mem {names : List String} (h : ".." ∉ names) :
    withoutDots names = names := by
  unfold withoutDots
  induction names using List.reverseRecOn with
  | nil => rfl
  | append_singleton before last ih =>
      rw [List.mem_append, not_or] at h
      rw [List.foldl_append, ih h.1, List.foldl_cons, List.foldl_nil,
        if_neg fun heq => h.2 (by simp [heq])]

theorem append_of_isAbsolute {p q : Path} (h : q.isAbsolute = true) : p ++ q = q :=
  if_pos h

theorem append_of_not_isAbsolute {p q : Path} (h : q.isAbsolute = false) :
    p ++ q = ⟨p.anchor, p.names ++ q.names⟩ :=
  if_neg (by simp [h])

theorem absoluteFrom_path {l : Location} (h : ".." ∉ l) (here : Location) :
    l.path.absoluteFrom here = l.path := by
  have happend : here.path ++ l.path = l.path := rfl
  unfold absoluteFrom
  rw [happend]
  dsimp only [Location.path]
  rw [withoutDots_of_not_mem h]

end Path

/-- Whether an entry is a link. -/
def Entry.isLink : Entry → Bool
  | .link _ => true
  | _ => false

namespace FileSystem

variable {fs : FileSystem} {here l k m : Location} {name : String} {names rest : List String}
  {met : MetLinks} {pending : List Location}

/-- Links that are being resolved at one time are no more than there are. -/
theorem length_le_linkCount (hnodup : pending.Nodup)
    (hlinks : ∀ l ∈ pending, ∃ target, fs.LinkAt l target) : pending.length ≤ fs.linkCount := by
  have hcount : fs.linkCount =
      ((fs.entries.filter fun entry => entry.2.isLink).map Prod.fst).length := by
    rw [List.length_map, ← List.countP_eq_length_filter]
    rfl
  rw [hcount]
  refine (hnodup.subperm fun l hl => ?_).length_le
  obtain ⟨target, hlink⟩ := hlinks l hl
  have hne : l ≠ [] := by
    rintro rfl
    simpa using hlink.1
  exact List.mem_map.mpr ⟨(l, .link target),
    List.mem_filter.mpr ⟨mem_entries_of_get? hlink.1 hne, rfl⟩, rfl⟩

/-! ## What is known of the links met -/

/-- What has been noted of links is right, and only those in the list are being resolved. -/
structure MetLinks.Sound (fs : FileSystem) (pending : List Location) (met : MetLinks) : Prop where
  resolved : ∀ l name path, met.lookup (Location.path (l ++ [name])) = some (some path) →
    ∃ k : Location, path = k.path ∧ fs.Resolves l [name] k
  waiting : ∀ path, met.lookup path = some none → ∃ l ∈ pending, path = l.path

theorem MetLinks.sound_nil (fs : FileSystem) : MetLinks.Sound fs [] [] :=
  ⟨fun _ _ _ h => by simp at h, fun _ h => by simp at h⟩

/-- A link begins to be resolved. -/
theorem MetLinks.Sound.wait (h : MetLinks.Sound fs pending met) (l : Location) :
    MetLinks.Sound fs (l :: pending) ((l.path, none) :: met) := by
  refine ⟨fun l' name path hlookup => ?_, fun path hlookup => ?_⟩ <;>
    rw [List.lookup_cons] at hlookup <;> split at hlookup
  · simp at hlookup
  · exact h.resolved l' name path hlookup
  · next heq => exact ⟨l, List.mem_cons_self .., eq_of_beq heq⟩
  · obtain ⟨k, hk, hpath⟩ := h.waiting path hlookup
    exact ⟨k, List.mem_cons_of_mem _ hk, hpath⟩

/-- The link has been resolved. -/
theorem MetLinks.Sound.done (h : MetLinks.Sound fs ((l ++ [name]) :: pending) met)
    (hlink : fs.Resolves l [name] k) :
    MetLinks.Sound fs pending (((l ++ [name]).path, some k.path) :: met) := by
  refine ⟨fun l' name' path hlookup => ?_, fun path hlookup => ?_⟩ <;>
    rw [List.lookup_cons] at hlookup <;> split at hlookup
  · next heq =>
      obtain ⟨-, heq⟩ := Path.mk.inj (eq_of_beq heq)
      obtain ⟨rfl, hname⟩ := List.append_inj' heq rfl
      obtain rfl := List.singleton_inj.mp hname
      exact ⟨k, by simpa using hlookup.symm, hlink⟩
  · exact h.resolved l' name' path hlookup
  · simp at hlookup
  · next hne =>
      obtain ⟨l', hl', rfl⟩ := h.waiting path hlookup
      rcases List.mem_cons.mp hl' with rfl | hl'
      · simp at hne
      · exact ⟨l', hl', rfl⟩

/-- What may come of resolving names from a place: a fault if they lead nowhere, or else the
place that they lead to. -/
inductive Outcome (fs : FileSystem) (pending : List Location) (l : Location)
    (names : List String) : Except Fault (Resolution × MetLinks) → Prop where
  | refused {fault : Fault} (h : ∀ m, ¬ fs.Resolves l names m) :
      Outcome fs pending l names (.error fault)
  | whole {m : Location} {met : MetLinks} (h : fs.Resolves l names m)
      (hmet : MetLinks.Sound fs pending met) :
      Outcome fs pending l names (.ok (.whole m.path, met))

theorem Outcome.cons {out : Except Fault (Resolution × MetLinks)}
    (h : Outcome fs pending k rest out) (hfirst : fs.Resolves l [name] k) :
    Outcome fs pending l (name :: rest) out := by
  cases h with
  | refused h =>
      refine .refused fun m hm => ?_
      obtain ⟨k', hk', hrest⟩ := resolves_cons_iff.mp hm
      obtain rfl := hfirst.unique hk'
      exact h m hrest
  | whole h hmet => exact .whole (resolves_cons_iff.mpr ⟨k, hfirst, h⟩) hmet

/-! ## What resolution comes to -/

theorem resolutionStart_path (l : Location) (text : String) :
    resolutionStart l.path text = (start l text).path := by
  unfold resolutionStart start
  split <;> rfl

/-- Every link that is being resolved leads through the links that the names meet. -/
def LeadThrough (fs : FileSystem) (pending : List Location) (l : Location)
    (names : List String) : Prop :=
  ∀ k ∈ pending, ∀ l', fs.Meets l names l' → Relation.TransGen fs.LeadsThrough k l'

theorem LeadThrough.tail (h : fs.LeadThrough pending l (name :: rest))
    (hfirst : fs.Resolves l [name] k) : fs.LeadThrough pending k rest :=
  fun k' hk' l' hl' => h k' hk' l' (meets_cons_iff.mpr (.inr ⟨k, hfirst, hl'⟩))

section Resolving

variable (tree : fs.IsTree) (acyclic : fs.Acyclic)
include tree acyclic

/-- Names are resolved if the links on the way are. -/
theorem resolveWith_outcome
    {jump : MetLinks → Path → String → Except Fault (Resolution × MetLinks)}
    (hjump : ∀ {l name target met}, fs.Normal l → fs.LinkAt (l ++ [name]) target →
      (∀ k ∈ pending, Relation.TransGen fs.LeadsThrough k (l ++ [name])) →
      MetLinks.Sound fs ((l ++ [name]) :: pending) met →
        Outcome fs ((l ++ [name]) :: pending) (start l target) (Path.namesIn target)
          (jump met l.path target)) :
    ∀ {pieces met l}, (∀ piece ∈ pieces, '/' ∉ piece.toList) → fs.Normal l →
      MetLinks.Sound fs pending met → fs.LeadThrough pending l (pieces.filter Path.isName) →
        Outcome fs pending l (pieces.filter Path.isName)
          (fs.resolveWith here jump met l.path pieces) := by
  intro pieces
  induction pieces with
  | nil => exact fun _ _ hmet _ => .whole (.here _) hmet
  | cons piece rest ih =>
      intro met l hpieces hl hmet hpending
      obtain ⟨hslash, hrest⟩ := List.forall_mem_cons.mp hpieces
      rw [resolveWith]
      by_cases hname : Path.isName piece = true
      swap
      · rw [if_pos (by simp [hname]), List.filter_cons_of_neg hname]
        rw [List.filter_cons_of_neg hname] at hpending
        exact ih hrest hl hmet hpending
      rw [if_neg (by simp [hname]), List.filter_cons_of_pos hname]
      rw [List.filter_cons_of_pos hname] at hpending
      by_cases hdots : piece = ".."
      · subst hdots
        have hfirst : fs.Resolves l [".."] l.dropLast := .up (.here _)
        rw [if_pos rfl, Path.above_path fun hmem => (hl.proper _ hmem).2.2.1 rfl]
        exact (ih hrest (hl.of_prefix (List.dropLast_prefix l)) hmet (hpending.tail hfirst)).cons
          hfirst
      have hproper := (Path.written_of_isName hslash hname).resolve_left hdots
      rw [if_neg hdots, show l.path.child piece = (l ++ [piece]).path from rfl]
      dsimp only
      rcases linkTarget?_concat tree hl hproper here with
        ⟨hnul, hseen⟩ | ⟨target, hlink, hseen⟩ | ⟨hnul, hnone, hseen⟩ <;> rw [hseen] <;> dsimp only
      · refine .refused fun m hm => ?_
        cases hm with
        | up => exact hdots rfl
        | name _ hnot => exact hnot hnul
        | link _ hlink =>
            exact (textFault?_eq_none_iff.mp hlink.2.text).1 ((hasNul_concat hl piece).mpr hnul)
      · have hmeets : fs.Meets l (piece :: rest.filter Path.isName) (l ++ [piece]) :=
          meets_cons_iff.mpr (.inl ⟨hdots, rfl, target, hlink⟩)
        have hleads : ∀ k ∈ pending, Relation.TransGen fs.LeadsThrough k (l ++ [piece]) :=
          fun k hk => hpending k hk _ hmeets
        cases hlookup : met.lookup (l ++ [piece]).path with
        | some noted =>
            cases noted with
            | some path =>
                obtain ⟨k, rfl, hfirst⟩ := hmet.resolved l piece path hlookup
                have hk := hfirst.normal hl (by simpa using .inr hproper)
                exact (ih hrest hk hmet (hpending.tail hfirst)).cons hfirst
            | none =>
                obtain ⟨k, hk, hpath⟩ := hmet.waiting _ hlookup
                obtain rfl : l ++ [piece] = k := (Path.mk.inj hpath).2
                exact absurd (hleads _ hk) (acyclic _)
        | none =>
            have hinner := hjump hl hlink hleads (hmet.wait (l ++ [piece]))
            dsimp only
            generalize jump _ l.path target = found at hinner ⊢
            cases hinner with
            | refused hnot =>
                refine .refused fun m hm => ?_
                cases hm with
                | up => exact hdots rfl
                | name _ _ hnone => exact hnone target hlink
                | link _ hlink' htarget =>
                    obtain rfl := hlink.unique hlink'
                    exact hnot _ htarget
            | @whole m _ htarget hmet =>
                have hfirst : fs.Resolves l [piece] m := .link hdots hlink htarget (.here m)
                have hm := hfirst.normal hl (by simpa using .inr hproper)
                exact (ih hrest hm (hmet.done hfirst) (hpending.tail hfirst)).cons hfirst
      · have hfirst : fs.Resolves l [piece] (l ++ [piece]) := .name hdots hnul hnone (.here _)
        exact (ih hrest (hl.concat hproper hnul hnone) hmet (hpending.tail hfirst)).cons hfirst

/-- A text is resolved if there are as many levels as links that are not being resolved. -/
theorem resolveText_outcome (levels : Nat) :
    ∀ {pending met l text}, pending.Nodup → (∀ k ∈ pending, ∃ target, fs.LinkAt k target) →
      fs.linkCount ≤ pending.length + levels → fs.Normal l → MetLinks.Sound fs pending met →
      fs.LeadThrough pending (start l text) (Path.namesIn text) →
        Outcome fs pending (start l text) (Path.namesIn text)
          (fs.resolveText here levels met l.path text) := by
  induction levels with
  | zero =>
      intro pending met l text hnodup hlinks hlevels hl hmet hpending
      rw [resolveText, resolutionStart_path]
      refine resolveWith_outcome tree acyclic (fun {l name target met} _ hlink hleads _ => ?_)
        (fun piece hpiece => Path.not_mem_of_mem_pieces hpiece) (hl.start text) hmet hpending
      -- the new link would be one more than there are
      have hnew : l ++ [name] ∉ pending := fun hmem => acyclic _ (hleads _ hmem)
      have hcount := length_le_linkCount (List.nodup_cons.mpr ⟨hnew, hnodup⟩)
        (List.forall_mem_cons.mpr ⟨⟨target, hlink⟩, hlinks⟩)
      rw [List.length_cons] at hcount
      omega
  | succ levels ih =>
      intro pending met l text hnodup hlinks hlevels hl hmet hpending
      rw [resolveText, resolutionStart_path]
      refine resolveWith_outcome tree acyclic (fun {l name target met} hl hlink hleads hmet => ?_)
        (fun piece hpiece => Path.not_mem_of_mem_pieces hpiece) (hl.start text) hmet hpending
      have hnew : l ++ [name] ∉ pending := fun hmem => acyclic _ (hleads _ hmem)
      refine ih (List.nodup_cons.mpr ⟨hnew, hnodup⟩)
        (List.forall_mem_cons.mpr ⟨⟨target, hlink⟩, hlinks⟩) (by rw [List.length_cons]; omega) hl
        hmet fun k hk l' hl' => ?_
      have hstep : fs.LeadsThrough (l ++ [name]) l' :=
        ⟨target, hlink, by rwa [List.dropLast_concat]⟩
      rcases List.mem_cons.mp hk with rfl | hk
      · exact .single hstep
      · exact (hleads k hk).tail hstep

/-- An absolute path is resolved to the path of the place that its names lead to, and not at
all if they lead to none. -/
theorem resolve_ok_iff {path resolved : Path} (hpath : path.anchor ≠ .nothing)
    (hwritten : path.Written) :
    fs.resolve here path = .ok resolved ↔
      ∃ l : Location, resolved = l.path ∧ fs.Resolves [] path.names l := by
  have hnames := hwritten.namesIn_text hpath
  have hbegins := Path.beginsWith_text hpath
  have houtcome := @resolveText_outcome fs here tree acyclic (fs.linkCount * pathSizeLimit) [] []
    [] path.text List.nodup_nil (by simp) (by simp [pathSizeLimit]; omega)
    fs.normal_root (MetLinks.sound_nil fs) (fun k hk => by simp at hk)
  rw [hnames, start, if_pos hbegins] at houtcome
  have hstart : fs.resolveText here (fs.linkCount * pathSizeLimit) [] {} path.text =
      fs.resolveText here (fs.linkCount * pathSizeLimit) [] (Location.path []) path.text := by
    cases fs.linkCount * pathSizeLimit <;>
      simp only [resolveText, resolutionStart, if_pos hbegins]
  unfold resolve
  rw [hstart]
  generalize fs.resolveText here _ [] _ path.text = found at houtcome ⊢
  cases houtcome with
  | refused hnot => simp [hnot]
  | @whole m met hm hmet =>
      have hnormal := hm.normal fs.normal_root hwritten
      have habsolute : fs.absolute here m.path = .ok m.path := by
        rw [absolute, if_pos (by simp [Path.isAbsolute, Location.path]),
          Path.absoluteFrom_path fun hmem => (hnormal.proper _ hmem).2.2.1 rfl]
      obtain ⟨hnul, hloop⟩ := stat_normal tree hnormal here
      dsimp only [Resolution.path]
      rw [habsolute]
      dsimp only
      split
      · next hstat => exact absurd hstat (hloop _)
      · next hstat => exact absurd hstat hnul
      · refine ⟨fun h => ⟨m, (Except.ok.inj h).symm, hm⟩, ?_⟩
        rintro ⟨l, rfl, hl⟩
        rw [hm.unique hl]

/-- A resolved path is resolved to itself. -/
theorem resolve_of_resolve {path resolved : Path} (hpath : path.anchor ≠ .nothing)
    (hwritten : path.Written) (h : fs.resolve here path = .ok resolved) :
    fs.resolve here resolved = .ok resolved := by
  obtain ⟨l, rfl, hl⟩ := (resolve_ok_iff tree acyclic hpath hwritten).mp h
  have hnormal := hl.normal fs.normal_root hwritten
  exact (resolve_ok_iff tree acyclic hnormal.isSettled.absolute hnormal.isSettled.written).mpr
    ⟨l, rfl, hnormal.resolves_self⟩

/-- What is resolved from a root can as well be resolved from the resolved root. -/
theorem resolve_append_iff {root path p : Path} (hroot : root.anchor ≠ .nothing)
    (hwritten : root.Written) (hpath : path.isAbsolute = false) (hnames : path.Written) :
    fs.resolve here (root ++ path) = .ok p ↔
      ∃ resolved, fs.resolve here root = .ok resolved ∧
        fs.resolve here (resolved ++ path) = .ok p := by
  have hwhole : ∀ {q : Path}, q.anchor ≠ .nothing → q.Written →
      (fs.resolve here (q ++ path) = .ok p ↔
        ∃ l : Location, p = l.path ∧ fs.Resolves [] (q.names ++ path.names) l) := fun hq hq' => by
    rw [resolve_ok_iff tree acyclic (append_anchor hq path) (Path.written_append hq' hnames),
      Path.append_of_not_isAbsolute hpath]
  rw [hwhole hroot hwritten]
  constructor
  · rintro ⟨l, rfl, hl⟩
    obtain ⟨k, hk, hrest⟩ := resolves_append_iff.mp hl
    have hnormal := hk.normal fs.normal_root hwritten
    exact ⟨k.path, (resolve_ok_iff tree acyclic hroot hwritten).mpr ⟨k, rfl, hk⟩,
      (hwhole hnormal.isSettled.absolute hnormal.isSettled.written).mpr
        ⟨l, rfl, resolves_append_iff.mpr ⟨k, hnormal.resolves_self, hrest⟩⟩⟩
  · rintro ⟨resolved, hresolved, h⟩
    obtain ⟨k, rfl, hk⟩ := (resolve_ok_iff tree acyclic hroot hwritten).mp hresolved
    have hnormal := hk.normal fs.normal_root hwritten
    obtain ⟨l, rfl, hl⟩ := (hwhole hnormal.isSettled.absolute hnormal.isSettled.written).mp h
    obtain ⟨k', hk', hrest⟩ := resolves_append_iff.mp hl
    obtain rfl := hnormal.resolves_self.unique hk'
    exact ⟨l, rfl, resolves_append_iff.mpr ⟨_, hk, hrest⟩⟩

end Resolving

end FileSystem

/-! ## Configured paths -/

namespace Path

theorem takeWhile_slash_text {l : Location} (h : ∀ name ∈ l, Proper name) :
    l.path.text.toList.takeWhile (· = '/') = ['/'] := by
  have htext : l.path.text = "/" ++ "/".intercalate l := rfl
  rw [htext, String.toList_append]
  rcases l with _ | ⟨first, rest⟩
  · rfl
  obtain ⟨hne, -, -, hslash⟩ := h first (List.mem_cons_self ..)
  -- a name that is not empty begins with another character
  obtain ⟨c, cs, hfirst⟩ : ∃ c cs, first.toList = c :: cs := by
    rcases hfirst : first.toList with _ | ⟨c, cs⟩
    · exact absurd (String.toList_eq_nil_iff.mp hfirst) hne
    · exact ⟨c, cs, rfl⟩
  have hc : c ≠ '/' := fun heq => hslash (by simp [hfirst, heq])
  obtain ⟨more, hmore⟩ : ∃ more, ("/".intercalate (first :: rest)).toList = c :: more := by
    rcases rest with _ | ⟨next, rest⟩
    · exact ⟨cs, by simpa using hfirst⟩
    · exact ⟨_, by rw [String.intercalate_cons_cons]; simp [hfirst]; rfl⟩
  rw [hmore]
  simp [hc]

/-- The text of the path of a place writes that path. -/
theorem ofString_text {l : Location} (h : ∀ name ∈ l, Proper name) :
    ofString l.path.text = l.path := by
  have hnames : namesIn l.path.text = l := namesIn_text (p := l.path) ⟨by simp [Location.path], h⟩
  rw [ofString, takeWhile_slash_text h, hnames]
  rfl

end Path

namespace Environment

variable {fs : FileSystem} {here : Location} {env : Environment} {value : String} {path : Path}

/-- A text stands for the same path wherever it is seen from: it writes an absolute path, or
begins with a tilde that stands for one. -/
def IsRooted (env : Environment) (value : String) : Prop :=
  (Path.ofString value).isAbsolute = true ∨
    ∃ first rest home, Path.ofString value = ⟨.nothing, first :: rest⟩ ∧
      Text.beginsWith "~" first = true ∧
      env.homeOf? (String.ofList (first.toList.drop 1)) = some home ∧
      (Path.ofString home).isAbsolute = true

/-- A tilde is replaced where it begins a path, and nothing else is. -/
theorem expandHome_cases {q : Path} (h : env.expandHome q = .ok path) :
    (path = q ∧ ∀ first rest, q = ⟨.nothing, first :: rest⟩ → Text.beginsWith "~" first = false) ∨
      ∃ first rest home, q = ⟨.nothing, first :: rest⟩ ∧ Text.beginsWith "~" first = true ∧
        env.homeOf? (String.ofList (first.toList.drop 1)) = some home ∧
        path = ⟨(Path.ofString home).anchor, (Path.ofString home).names ++ rest⟩ := by
  obtain ⟨anchor, names⟩ := q
  unfold expandHome at h
  dsimp only at h
  split at h
  · next first rest =>
      split at h
      · next htilde =>
          split at h
          · next home hhome =>
              split at h
              · simp at h
              · exact .inr ⟨first, rest, home, rfl, htilde, hhome, by simpa using h.symm⟩
          · simp at h
      · next htilde =>
          refine .inl ⟨(Except.ok.inj h).symm, fun first' rest' heq => ?_⟩
          obtain ⟨rfl, rfl⟩ := List.cons.inj (Path.mk.inj heq).2
          simpa using htilde
  · next hnames =>
      refine .inl ⟨(Except.ok.inj h).symm, fun first rest heq => ?_⟩
      obtain ⟨rfl, rfl⟩ := Path.mk.inj heq
      exact absurd rfl (hnames first rest rfl)

theorem written_of_expandHome (h : env.expandHome (Path.ofString value) = .ok path) :
    path.Written := by
  rcases expandHome_cases h with ⟨rfl, -⟩ | ⟨first, rest, home, hvalue, -, -, rfl⟩
  · exact Path.written_ofString value
  · intro name hname
    rcases List.mem_append.mp hname with hhome | hrest
    · exact Path.written_ofString home name hhome
    · exact Path.written_ofString value name (by rw [hvalue]; exact List.mem_cons_of_mem _ hrest)

theorem isRooted_iff (h : env.expandHome (Path.ofString value) = .ok path) :
    env.IsRooted value ↔ path.isAbsolute = true := by
  unfold IsRooted
  rcases expandHome_cases h with ⟨rfl, hnone⟩ | ⟨first, rest, home, hvalue, htilde, hhome, rfl⟩
  · refine or_iff_left ?_
    rintro ⟨first, rest, home, hvalue, htilde, -⟩
    simp [hnone first rest hvalue] at htilde
  · rw [hvalue]
    constructor
    · rintro (habsolute | ⟨first', rest', home', heq, -, hhome', habsolute⟩)
      · simp [Path.isAbsolute] at habsolute
      · obtain ⟨rfl, rfl⟩ := List.cons.inj (Path.mk.inj heq).2
        obtain rfl := Option.some_inj.mp (hhome.symm.trans hhome')
        exact habsolute
    · exact fun habsolute => .inr ⟨first, rest, home, rfl, htilde, hhome, habsolute⟩

/-- A resolved path is a normal form: it is absolute and made of proper names, and on the way is
no link that can be looked at.  Resolved again it stays what it is, from wherever it is seen.
The root does not matter to a text that says itself where it begins; for any other, it can as
well be the resolved root. -/
theorem resolvePath_normalForm (tree : fs.IsTree) (acyclic : fs.Acyclic) {root : Path}
    (hroot : root.isAbsolute = true) (hwritten : root.Written) {p : Path}
    (h : env.resolvePath fs here root value = .ok p) :
    p.IsSettled ∧
      (∀ l target, l <+: p.names → fs.get? l = some (.link target) → ¬ fs.Shown l) ∧
      (∀ root', env.resolvePath fs here root' p.text = .ok p) ∧
      (env.IsRooted value → ∀ root', env.resolvePath fs here root' value = .ok p) ∧
      (¬ env.IsRooted value → ∃ resolved, fs.resolve here root = .ok resolved) ∧
      ∀ resolved, fs.resolve here root = .ok resolved →
        env.resolvePath fs here resolved value = .ok p := by
  have hanchor : root.anchor ≠ .nothing := by simpa [Path.isAbsolute] using hroot
  obtain ⟨path, hexpand⟩ : ∃ path, env.expandHome (Path.ofString value) = .ok path := by
    cases hexpand : env.expandHome (Path.ofString value) with
    | error fault => simp [resolvePath, hexpand] at h
    | ok path => exact ⟨path, rfl⟩
  have hresolve : ∀ root', env.resolvePath fs here root' value = fs.resolve here (root' ++ path) :=
    fun root' => by rw [resolvePath, hexpand]
  have hpath := written_of_expandHome hexpand
  have hrooted := isRooted_iff hexpand
  rw [hresolve] at h
  simp only [hresolve]
  obtain ⟨l, rfl, hl⟩ := (FileSystem.resolve_ok_iff tree acyclic
    (FileSystem.append_anchor hanchor path) (Path.written_append hwritten hpath)).mp h
  have hnormal := hl.normal fs.normal_root (Path.written_append hwritten hpath)
  have hsame : ∀ root', env.IsRooted value → fs.resolve here (root' ++ path) = .ok l.path := by
    intro root' hvalue
    rw [hrooted] at hvalue
    rwa [Path.append_of_isAbsolute hvalue] at h ⊢
  have hfrom : ¬ env.IsRooted value → ∃ resolved, fs.resolve here root = .ok resolved ∧
      fs.resolve here (resolved ++ path) = .ok l.path := by
    intro hvalue
    rw [hrooted, Bool.not_eq_true] at hvalue
    exact (FileSystem.resolve_append_iff tree acyclic hanchor hwritten hvalue hpath).mp h
  refine ⟨hnormal.isSettled, fun k target hk hlink hshown => ?_, fun root' => ?_,
    fun hvalue root' => hsame root' hvalue, fun hvalue => ?_, fun resolved hresolved => ?_⟩
  · exact hnormal.noLink k target hk ⟨hlink, hshown⟩
  · rw [resolvePath, Path.ofString_text hnormal.proper]
    exact FileSystem.resolve_of_resolve tree acyclic (FileSystem.append_anchor hanchor path)
      (Path.written_append hwritten hpath) h
  · obtain ⟨resolved, hresolved, -⟩ := hfrom hvalue
    exact ⟨resolved, hresolved⟩
  · by_cases hvalue : env.IsRooted value
    · exact hsame resolved hvalue
    · obtain ⟨resolved', hresolved', hp⟩ := hfrom hvalue
      obtain rfl := Except.ok.inj (hresolved'.symm.trans hresolved)
      exact hp

end Environment

/-- A link to the directory around it, and a link that leads through that one. -/
def Sample.winding : FileSystem where
  entries := [(["w"], .directory), (["w", "c"], .directory), (["w", "c", "up"], .link ".."),
    (["w", "l"], .link "c/up")]
  nodup := by decide

theorem Sample.acyclic_winding : Sample.winding.Acyclic := by
  have hc : ∀ text, ¬ Sample.winding.LinkAt ["w", "c"] text := fun text h => by
    have hget : some Entry.directory = some (.link text) := h.1
    simp at hget
  have hinto : Sample.winding.Resolves ["w"] ["c"] ["w", "c"] :=
    .name (by decide) (by decide) hc (.here _)
  refine FileSystem.acyclic_of_rank List.length fun l target hmem l' hmeets => ?_
  obtain ⟨rfl, rfl⟩ | ⟨rfl, rfl⟩ :
      l = ["w", "c", "up"] ∧ target = ".." ∨ l = ["w", "l"] ∧ target = "c/up" := by
    simpa [Sample.winding] using hmem
  · -- no link is met on the way up
    have hup : Sample.winding.Meets ["w", "c"] [".."] l' := hmeets
    obtain ⟨h, -⟩ | ⟨k, -, hnil⟩ := FileSystem.meets_cons_iff.mp hup
    · exact absurd rfl h
    · exact absurd hnil FileSystem.not_meets_nil
  · have hdown : Sample.winding.Meets ["w"] ["c", "up"] l' := hmeets
    obtain ⟨-, rfl, text, hlink⟩ | ⟨k, hk, hrest⟩ := FileSystem.meets_cons_iff.mp hdown
    · exact absurd hlink (hc text)
    obtain rfl := hinto.unique hk
    obtain ⟨-, rfl, -⟩ | ⟨k, -, hnil⟩ := FileSystem.meets_cons_iff.mp hrest
    · decide
    · exact absurd hnil FileSystem.not_meets_nil

theorem Environment.resolvePath_normalForm_winding :
    let env : Environment := { home := "/" }
    (∀ root, env.resolvePath Sample.winding ["w"] root "/w/x" = .ok ⟨.slash, ["w", "x"]⟩) ∧
      ∃ resolved, Sample.winding.resolve ["w"] ⟨.slash, ["w", "l"]⟩ = .ok resolved ∧
        env.resolvePath Sample.winding ["w"] resolved "c/up/x" = .ok ⟨.slash, ["w", "x"]⟩ := by
  intro env
  have tree : Sample.winding.IsTree := FileSystem.isTree_of_entries (by decide +kernel)
  have hresolves : env.resolvePath Sample.winding ["w"] ⟨.slash, ["w", "l"]⟩ "c/up/x" =
      .ok ⟨.slash, ["w", "x"]⟩ := by
    decide +kernel
  obtain ⟨-, -, hagain, -, hroot, hresolved⟩ :=
    Environment.resolvePath_normalForm tree Sample.acyclic_winding rfl (by decide) hresolves
  have hrooted : env.IsRooted "c/up/x" ↔ Path.isAbsolute ⟨.nothing, ["c", "up", "x"]⟩ = true :=
    Environment.isRooted_iff (by decide +kernel)
  obtain ⟨resolved, hresolve⟩ := hroot (by rw [hrooted]; decide)
  exact ⟨hagain, resolved, hresolve, hresolved resolved hresolve⟩

/-- A link in a directory that may not be entered. -/
def Sample.hidden : FileSystem where
  entries := [(["w"], .directory), (["w", "d"], .directory), (["w", "d", "l"], .link "/")]
  nodup := by decide
  attributes := [(["w", "d"], { mode := 0 })]

/-- A link that cannot be looked at is taken for a name, so that it stays in the path.  And what
a tilde stands for is seen from the root if it is not absolute. -/
theorem Environment.resolvePath_ends_in_link :
    let env : Environment := { home := "h" }
    Sample.hidden.IsTree ∧ Sample.hidden.Acyclic ∧ Sample.hidden.linkCount = 1 ∧
      Sample.hidden.get? ["w", "d", "l"] = some (.link "/") ∧
      env.resolvePath Sample.hidden ["w"] ⟨.slash, ["w"]⟩ "d/l" = .ok ⟨.slash, ["w", "d", "l"]⟩ ∧
      env.resolvePath Sample.hidden ["w"] ⟨.slash, ["w"]⟩ "~" = .ok ⟨.slash, ["w", "h"]⟩ ∧
      env.resolvePath Sample.hidden ["w"] ⟨.slash, []⟩ "~" = .ok ⟨.slash, ["h"]⟩ := by
  refine ⟨FileSystem.isTree_of_entries (by decide +kernel), ?_, by decide +kernel⟩
  refine FileSystem.acyclic_of_rank (fun _ => 0) fun l target hmem l' hmeets => ?_
  obtain ⟨rfl, rfl⟩ : l = ["w", "d", "l"] ∧ target = "/" := by simpa [Sample.hidden] using hmem
  -- the link leads to the root, and no name is in the way
  exact absurd hmeets FileSystem.not_meets_nil

end ComponentReference
