import ComponentReference.Proofs.Actions
import ComponentReference.Proofs.Host.Differing

/-!
# Two actions side by side

Two actions run side by side if, in worlds that differ in their records and in the content of
the log file alone, they come to values that are related, or to the same fault, and leave worlds
that again differ in nothing else.  There is one rule for each way of building actions, so that
two programs are compared along their text.  What they report does not matter.
-/

namespace ComponentReference

variable {α β γ δ : Type} {R : α → β → Prop} {S : γ → δ → Prop}

/-- The worlds differ in their records, and in what the log file holds if one is open. -/
structure World.Beside (w v : World) : Prop where
  directory : v.directory = w.directory
  logFile : v.logFile = w.logFile
  same : w.logFile = none → v.files = w.files
  differ : ∀ log, w.logFile = some log → w.files.SameBut log.location v.files

namespace World.Beside

variable {w v : World}

theorem refl (h : ∀ log, w.logFile = some log → w.files.Coherent) : w.Beside w :=
  ⟨rfl, rfl, fun _ => rfl, fun log hlog => .refl (h log hlog) _⟩

theorem symm (h : w.Beside v) : v.Beside w where
  directory := h.directory.symm
  logFile := h.logFile.symm
  same hlog := (h.same (h.logFile ▸ hlog)).symm
  differ log hlog := (h.differ log (h.logFile ▸ hlog)).symm

/-- A record in one of the worlds makes no other difference. -/
theorem report (h : w.Beside v) (r : Record) : w.Beside (v.report r) := by
  refine ⟨h.directory, h.logFile, fun hlog => ?_, fun log hlog => ?_⟩
  · have hlog' : v.logFile = none := h.logFile.trans hlog
    rw [← h.same hlog]
    simp [World.report, hlog']
  · have hlog' : v.logFile = some log := h.logFile.trans hlog
    have hdiffer := h.differ log hlog
    simp only [World.report, hlog']
    split
    · exact hdiffer.trans (hdiffer.coherent'.extend ..)
    · exact hdiffer

theorem foldl_report (h : w.Beside v) (records : List Record) :
    w.Beside (records.foldl World.report v) := by
  induction records generalizing v with
  | nil => exact h
  | cons r rest ih => exact ih (h.report r)

/-- In both worlds a path is resolved to the same one. -/
theorem resolvePath (h : w.Beside v) (env : Environment) (root : Path) (value : String) :
    env.resolvePath v.files v.directory root value =
      env.resolvePath w.files w.directory root value := by
  rw [h.directory]
  cases hlog : w.logFile with
  | none => rw [h.same hlog]
  | some log => exact (h.differ log hlog).resolvePath env root value

/-- Both worlds have, or refuse, what a path leads to. -/
theorem isSome_stat? (h : w.Beside v) (here : Location) (path : String) :
    (v.files.stat? here path).map Option.isSome = (w.files.stat? here path).map Option.isSome := by
  cases hlog : w.logFile with
  | none => rw [h.same hlog]
  | some log => exact (h.differ log hlog).isSome_stat? here path

/-- Writing the same content goes equally well in both worlds, and leaves such worlds. -/
theorem write (h : w.Beside v) (path : String) (content : Bytes) :
    (∃ fault, w.files.write w.directory path content = .error fault ∧
        v.files.write v.directory path content = .error fault) ∨
      ∃ files files', w.files.write w.directory path content = .ok files ∧
        v.files.write v.directory path content = .ok files' ∧
        World.Beside { w with files } { v with files := files' } := by
  have hdirectory := h.directory
  obtain hlog | ⟨log, hlog⟩ := Option.eq_none_or_eq_some w.logFile
  · have hsame := h.same hlog
    cases hwrite : w.files.write w.directory path content with
    | error fault => exact .inl ⟨fault, rfl, by rw [hsame, hdirectory, hwrite]⟩
    | ok files =>
        refine .inr ⟨files, files, rfl, by rw [hsame, hdirectory, hwrite], ?_⟩
        exact ⟨h.directory, h.logFile, fun _ => rfl, fun log hsome => by simp [hlog] at hsome⟩
  · obtain ⟨fault, hw, hv⟩ | ⟨files, files', hw, hv, hdiffer⟩ :=
      (h.differ log hlog).write w.directory path content
    · exact .inl ⟨fault, hw, by rw [hdirectory, hv]⟩
    · refine .inr ⟨files, files', hw, by rw [hdirectory, hv], ?_⟩
      refine ⟨h.directory, h.logFile, fun hnone => by simp [hlog] at hnone, fun log' hlog' => ?_⟩
      obtain rfl := Option.some_inj.mp (hlog.symm.trans hlog')
      exact hdiffer

/-- Away from the log file there is the same in both worlds. -/
theorem get?_eq (h : w.Beside v) {l : Location}
    (hl : ∀ log, w.logFile = some log → l ∉ w.files.reached log.location) :
    v.files.get? l = w.files.get? l := by
  cases hlog : w.logFile with
  | none => rw [h.same hlog]
  | some log => exact (h.differ log hlog).elsewhere l (hl log hlog)

end World.Beside

/-- Both have succeeded, with values that are related, or both have stopped at the same
fault. -/
inductive Matched (R : α → β → Prop) : Except Fault α → Except Fault β → Prop
  | ok {x : α} {y : β} (h : R x y) : Matched R (.ok x) (.ok y)
  | error (fault : Fault) : Matched R (.error fault) (.error fault)

theorem Matched.exists_ok {x : α} {r : Except Fault β} (h : Matched R (.ok x) r) :
    ∃ y, r = .ok y ∧ R x y := by
  cases h with
  | ok hxy => exact ⟨_, rfl, hxy⟩

namespace Action

/-- In worlds beside each other the two actions come to related values, and leave such
worlds. -/
def Parallel (R : α → β → Prop) (a : Action α) (b : Action β) : Prop :=
  ∀ w v : World, w.Beside v →
    Matched R (exec a w).1 (exec b v).1 ∧ (exec a w).2.Beside (exec b v).2

variable {a : Action α} {b : Action β} {f : α → Action γ} {g : β → Action δ}

theorem parallel_pure {x : α} {y : β} (h : R x y) :
    Parallel R (pure x : Action α) (pure y : Action β) :=
  fun _ _ hbeside => ⟨.ok h, hbeside⟩

theorem parallel_report (level level' : Level) (reporter reporter' : Reporter)
    (message message' : String) :
    Parallel (fun _ _ => True) (report level reporter message)
      (report level' reporter' message') :=
  fun _ _ hbeside => ⟨.ok trivial,
    ((hbeside.report ⟨level', reporter', message'⟩).symm.report ⟨level, reporter, message⟩).symm⟩

theorem parallel_changePartly
    {change : FileSystem → Location → Except Fault Unit × FileSystem}
    (h : ∀ w v : World, w.Beside v →
      (change v.files v.directory).1 = (change w.files w.directory).1 ∧
        World.Beside { w with files := (change w.files w.directory).2 }
          { v with files := (change v.files v.directory).2 }) :
    Parallel (fun _ _ => True) (changePartly change) (changePartly change) := by
  intro w v hbeside
  obtain ⟨houtcome, hworld⟩ := h w v hbeside
  rw [exec_changePartly, exec_changePartly, houtcome]
  refine ⟨?_, hworld⟩
  cases (change w.files w.directory).1 with
  | ok => exact .ok trivial
  | error fault => exact .error fault

theorem Parallel.bind (h : Parallel R a b) (hrest : ∀ x y, R x y → Parallel S (f x) (g y)) :
    Parallel S (a >>= f) (b >>= g) := by
  intro w v hbeside
  obtain ⟨hvalue, hworld⟩ := h w v hbeside
  rw [exec_bind, exec_bind]
  rcases ha : exec a w with ⟨r, w'⟩
  rcases hb : exec b v with ⟨r', v'⟩
  rw [ha, hb] at hvalue hworld
  cases hvalue with
  | ok hxy => exact hrest _ _ hxy w' v' hworld
  | error fault => exact ⟨.error fault, hworld⟩

/-- An action that only says something, and comes to a known value, may stand on one side
alone. -/
theorem Parallel.bind_left {x : α} {b : Action δ}
    (h : ∀ w : World, ∃ records : List Record,
      exec a w = (.ok x, records.foldl World.report w))
    (hrest : Parallel S (f x) b) : Parallel S (a >>= f) b := by
  intro w v hbeside
  obtain ⟨records, hexec⟩ := h w
  rw [exec_bind_of_ok hexec]
  exact hrest _ v (hbeside.symm.foldl_report records).symm

/-- If the one action succeeds, so does the other. -/
theorem Parallel.exists_ok (h : Parallel R a b) {w v w' : World} {x : α} (hbeside : w.Beside v)
    (hexec : exec a w = (.ok x, w')) :
    ∃ y v', exec b v = (.ok y, v') ∧ R x y ∧ w'.Beside v' := by
  obtain ⟨hvalue, hworld⟩ := h w v hbeside
  rw [hexec] at hvalue hworld
  obtain ⟨y, hy, hxy⟩ := hvalue.exists_ok
  exact ⟨y, _, exec_eq_of_fst hy, hxy, hworld⟩

end Action

end ComponentReference
