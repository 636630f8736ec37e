import ComponentReference.Host.World

/-!
# What actions do to a world

`Action.exec` runs an action in a world.  Each way of building actions has one equation
here, so that later proofs take a run apart step by step and never open the monad.

Most actions only look and leave records.  `Action.Quiet` says so: as long as no log
file is open, such an action leaves the files, the working directory and the log as they
are, whether it succeeds or stops at a fault.
-/

namespace ComponentReference

variable {α β : Type}

/-- What is done in two parts succeeds only if both parts do. -/
theorem exists_ok_of_bind {ε : Type} {x : Except ε α} {f : α → Except ε β} {b : β}
    (h : (do f (← x)) = .ok b) : ∃ a, x = .ok a ∧ f a = .ok b := by
  cases x with
  | error fault => cases h
  | ok a => exact ⟨a, rfl, h⟩

/-- What is done in two parts stops in the first one, or after it in the second. -/
theorem error_of_bind {ε : Type} {x : Except ε α} {f : α → Except ε β} {fault : ε}
    (h : (do f (← x)) = .error fault) : x = .error fault ∨ ∃ a, x = .ok a ∧ f a = .error fault := by
  cases x with
  | error refusal =>
      cases h
      exact .inl rfl
  | ok a => exact .inr ⟨a, rfl, h⟩

namespace Action

/-- What an action comes to in a world: its value, or the fault that stops it, and the
world afterwards. -/
def exec (a : Action α) (w : World) : Except Fault α × World :=
  a.run.run w

/-! ## One equation for each way of building actions -/

@[simp] theorem exec_pure (a : α) (w : World) : exec (pure a) w = (.ok a, w) := rfl

@[simp] theorem exec_throw (fault : Fault) (w : World) :
    exec (throw fault : Action α) w = (.error fault, w) := rfl

theorem exec_bind (a : Action α) (f : α → Action β) (w : World) :
    exec (a >>= f) w = match exec a w with
      | (.ok x, w') => exec (f x) w'
      | (.error fault, w') => (.error fault, w') := by
  unfold exec
  simp only [ExceptT.run_bind, StateT.run_bind]
  rcases StateT.run (ExceptT.run a) w with ⟨_ | _, _⟩ <;> rfl

theorem exec_bind_of_ok {a : Action α} {w w' : World} {x : α} (h : exec a w = (.ok x, w'))
    (f : α → Action β) : exec (a >>= f) w = exec (f x) w' := by
  rw [exec_bind, h]

theorem exec_bind_of_error {a : Action α} {w w' : World} {fault : Fault}
    (h : exec a w = (.error fault, w')) (f : α → Action β) :
    exec (a >>= f) w = (.error fault, w') := by
  rw [exec_bind, h]

theorem exec_eq_of_fst {a : Action α} {w : World} {r : Except Fault α} (h : (exec a w).1 = r) :
    exec a w = (r, (exec a w).2) := by
  rw [← h]

/-- An action in two parts succeeds only if both parts do. -/
theorem exec_bind_ok {a : Action α} {f : α → Action β} {w w' : World} {b : β}
    (h : exec (a >>= f) w = (.ok b, w')) :
    ∃ x w₁, exec a w = (.ok x, w₁) ∧ exec (f x) w₁ = (.ok b, w') := by
  rw [exec_bind] at h
  rcases ha : exec a w with ⟨_ | x, w₁⟩
  · simp [ha] at h
  · rw [ha] at h
    exact ⟨x, w₁, rfl, h⟩

/-- An action in two parts stops in the first one, or after it in the second. -/
theorem exec_bind_error_iff {a : Action α} {f : α → Action β} {w : World} {fault : Fault} :
    (exec (a >>= f) w).1 = .error fault ↔
      (exec a w).1 = .error fault ∨
        ∃ x w', exec a w = (.ok x, w') ∧ (exec (f x) w').1 = .error fault := by
  rw [exec_bind]
  rcases exec a w with ⟨refusal | x, w'⟩ <;> simp [and_assoc]

@[simp] theorem exec_report (level : Level) (reporter : Reporter) (message : String) (w : World) :
    exec (report level reporter message) w = (.ok (), w.report ⟨level, reporter, message⟩) := rfl

theorem exec_report_bind (level : Level) (reporter : Reporter) (message : String)
    (f : Unit → Action β) (w : World) : exec (report level reporter message >>= f) w =
      exec (f ()) (w.report ⟨level, reporter, message⟩) :=
  exec_bind_of_ok (exec_report level reporter message w) f

@[simp] theorem exec_get (w : World) : exec get w = (.ok w, w) := rfl

@[simp] theorem exec_set (w w' : World) : exec (set w') w = (.ok ⟨⟩, w') := rfl

@[simp] theorem exec_look (f : FileSystem → Location → Except Fault α) (w : World) :
    exec (look f) w = (f w.files w.directory, w) := by
  unfold look
  rw [exec_bind, exec_get]
  cases h : f w.files w.directory <;> simp [look.liftExcept, h]

theorem exec_look_ok {f : FileSystem → Location → Except Fault α} {w w' : World} {a : α}
    (h : exec (look f) w = (.ok a, w')) : f w.files w.directory = .ok a ∧ w' = w := by
  rw [exec_look] at h
  exact ⟨(Prod.mk.inj h).1, (Prod.mk.inj h).2.symm⟩

theorem exec_look_bind_error_iff {g : FileSystem → Location → Except Fault α} {f : α → Action β}
    {w : World} {fault : Fault} : (exec (look g >>= f) w).1 = .error fault ↔
      g w.files w.directory = .error fault ∨
        ∃ x, g w.files w.directory = .ok x ∧ (exec (f x) w).1 = .error fault := by
  rw [exec_bind, exec_look]
  rcases g w.files w.directory with refusal | x <;> simp

@[simp] theorem exec_change (f : FileSystem → Location → Except Fault FileSystem) (w : World) :
    exec (change f) w = match f w.files w.directory with
      | .ok files => (.ok (), { w with files })
      | .error fault => (.error fault, w) := by
  unfold change
  rw [exec_bind, exec_look]
  cases f w.files w.directory <;> rfl

@[simp] theorem exec_changePartly (f : FileSystem → Location → Except Fault Unit × FileSystem)
    (w : World) :
    exec (changePartly f) w =
      ((f w.files w.directory).1, { w with files := (f w.files w.directory).2 }) := by
  unfold changePartly
  rw [exec_bind, exec_get]
  dsimp only
  rcases f w.files w.directory with ⟨_ | _, _⟩ <;> rfl

/-- The world after several records have been left. -/
theorem exec_reportAll (records : List Record) (w : World) :
    exec (reportAll records) w = (.ok (), records.foldl World.report w) := by
  induction records generalizing w with
  | nil => rfl
  | cons r rest ih =>
      have hfirst : exec (modify (·.report r) : Action PUnit) w = (.ok ⟨⟩, w.report r) := rfl
      have hsplit : reportAll (r :: rest) = (do modify (·.report r); reportAll rest) := by
        simp [reportAll]
      rw [hsplit, exec_bind_of_ok hfirst, ih]
      rfl

end Action

theorem World.records_foldl_report (records : List Record) (w : World) :
    (records.foldl World.report w).records = w.records ++ records := by
  induction records generalizing w with
  | nil => simp
  | cons r rest ih =>
      rw [List.foldl_cons, ih, World.report, List.append_assoc, List.singleton_append]

/-! ## Quiet actions -/

/-- The worlds have no log file, and differ in their records alone. -/
structure World.Alike (w w' : World) : Prop where
  files : w'.files = w.files
  directory : w'.directory = w.directory
  logFile : w.logFile = none ∧ w'.logFile = none

theorem World.Alike.refl {w : World} (hlog : w.logFile = none) : w.Alike w :=
  ⟨rfl, rfl, hlog, hlog⟩

theorem World.Alike.trans {w w' w'' : World} (h : w.Alike w') (h' : w'.Alike w'') :
    w.Alike w'' :=
  ⟨h'.files.trans h.files, h'.directory.trans h.directory, h.logFile.1, h'.logFile.2⟩

theorem World.alike_report {w : World} (hlog : w.logFile = none) (r : Record) :
    w.Alike (w.report r) := by
  refine ⟨?_, rfl, hlog, hlog⟩
  simp [World.report, hlog]

theorem World.alike_foldl_report {w : World} (hlog : w.logFile = none) (records : List Record) :
    w.Alike (records.foldl World.report w) := by
  induction records generalizing w with
  | nil => exact .refl hlog
  | cons r rest ih => exact (World.alike_report hlog r).trans (ih hlog)

namespace Action

/-- The action looks and leaves records, and does nothing else as long as no log file is
open. -/
def Quiet (a : Action α) : Prop :=
  ∀ w : World, w.logFile = none → w.Alike (exec a w).2

theorem quiet_pure (a : α) : Quiet (pure a : Action α) :=
  fun _ hlog => .refl hlog

theorem quiet_throw (fault : Fault) : Quiet (throw fault : Action α) :=
  fun _ hlog => .refl hlog

theorem quiet_get : Quiet (get : Action World) :=
  fun _ hlog => .refl hlog

theorem quiet_look (f : FileSystem → Location → Except Fault α) : Quiet (look f) := by
  intro w hlog
  rw [exec_look]
  exact .refl hlog

theorem quiet_report (level : Level) (reporter : Reporter) (message : String) :
    Quiet (report level reporter message) :=
  fun _ hlog => World.alike_report hlog _

theorem quiet_reportAll (records : List Record) : Quiet (reportAll records) := by
  intro w hlog
  rw [exec_reportAll]
  exact World.alike_foldl_report hlog records

theorem Quiet.bind {a : Action α} {f : α → Action β} (ha : Quiet a) (hf : ∀ x, Quiet (f x)) :
    Quiet (a >>= f) := by
  intro w hlog
  rw [exec_bind]
  have hfirst := ha w hlog
  rcases hstep : exec a w with ⟨_ | x, w₁⟩ <;> rw [hstep] at hfirst
  · exact hfirst
  · exact hfirst.trans (hf x w₁ hfirst.logFile.2)

/-- What a quiet action leaves when it is known what it comes to. -/
theorem Quiet.alike {a : Action α} (ha : Quiet a) {w w' : World} (hlog : w.logFile = none)
    {r : Except Fault α} (h : exec a w = (r, w')) : w.Alike w' := by
  have := ha w hlog
  rwa [h] at this

end Action

end ComponentReference
