import ComponentReference.Proofs.Actions
import ComponentReference.Proofs.Host.Directories
import ComponentReference.Proofs.Host.Resolving
import ComponentReference.Site.Run

/-!
# The steps before the first page

Up to the first page a run changes files in one step alone, the making of the output
directory.  Planning, discovery and the reading of custom content are quiet.  So
`Run.started` can say what the files are when all components are found, or when one of
the steps has failed: as they were, or as `makeDirectories` leaves them.  If all has gone
well, `Run.exec_start_ok_iff` takes the steps apart.
-/

namespace ComponentReference

variable {env : Environment} {find : Finder} {path : String} {overrides : Json.Fields}

/-! ## Quiet steps -/

theorem Config.quiet_applyFile (c : Config) (file : Option Config.Layer) :
    (Config.applyFile c file).Quiet := by
  unfold Config.applyFile
  split
  · exact Action.quiet_pure _
  · exact (Action.quiet_reportAll _).bind fun _ => Action.quiet_pure _
  · exact (Action.quiet_report _ _ _).bind fun _ => Action.quiet_pure _

theorem Config.quiet_load (root : Path) (overrides : Json.Fields) :
    (Config.load root overrides).Quiet := by
  unfold Config.load
  refine (Action.quiet_look _).bind fun file =>
    (Config.quiet_applyFile _ file).bind fun config => ?_
  exact (Action.quiet_reportAll _).bind fun _ => (Action.quiet_reportAll _).bind fun _ =>
    Action.quiet_pure _

theorem Run.quiet_plan (env : Environment) (path : String) (overrides : Json.Fields) :
    (Run.plan env path overrides).Quiet := by
  unfold Run.plan
  refine (Action.quiet_look _).bind fun root =>
    (Config.quiet_load root overrides).bind fun config => ?_
  exact (Action.quiet_report _ _ _).bind fun _ => (Action.quiet_look _).bind fun outDir =>
    Action.quiet_pure _

theorem quiet_discover (env : Environment) (suffix root : String) :
    (discover env suffix root).Quiet := by
  unfold discover
  refine (Action.quiet_look _).bind fun path => (Action.quiet_look _).bind fun e? => ?_
  split
  · exact Action.quiet_throw _
  · exact (Action.quiet_look _).bind fun found => (Action.quiet_report _ _ _).bind fun _ =>
      Action.quiet_pure _
  · exact Action.quiet_throw _

theorem Run.quiet_componentFiles (hfind : ∀ dir, (find dir).Quiet) (root : Path)
    (config : Config) : (Run.componentFiles env find root config).Quiet := by
  unfold Run.componentFiles
  exact (Action.quiet_look _).bind fun dir => (Action.quiet_report _ _ _).bind fun _ => hfind _

theorem quiet_readCustomContent (env : Environment) (config : Config) (root : Path) :
    (readCustomContent env config root).Quiet := by
  unfold readCustomContent
  split
  · exact Action.quiet_pure _
  refine (Action.quiet_look _).bind fun path => (Action.quiet_look _).bind fun e? => ?_
  split
  · exact (Action.quiet_report _ _ _).bind fun _ => Action.quiet_pure _
  · refine Action.quiet_get.bind fun world => ?_
    split
    · exact Action.quiet_pure _
    · exact (Action.quiet_report _ _ _).bind fun _ => Action.quiet_pure _

/-! ## Planning -/

/-- What is planned: the directory and the output directory are resolved, and the
configuration is loaded. -/
theorem Run.plan_ok {w w' : World} {root : Path} {run : Run} (hlog : w.logFile = none)
    (h : (Run.plan env path overrides).exec w = (.ok (root, run), w')) :
    env.pathOf w.files w.directory path = .ok root ∧
      (∃ w₁, (Config.load root overrides).exec w = (.ok run.config, w₁)) ∧
      env.resolvePath w.files w.directory root run.config.outDir = .ok run.outDir ∧
      run = { config := run.config, outDir := run.outDir } := by
  obtain ⟨root', w₁, hroot, hrest⟩ := Action.exec_bind_ok h
  obtain ⟨hroot, rfl⟩ := Action.exec_look_ok hroot
  obtain ⟨config, w₂, hconfig, hrest⟩ := Action.exec_bind_ok hrest
  obtain ⟨_, w₃, hreport, hrest⟩ := Action.exec_bind_ok hrest
  obtain ⟨outDir, w₄, houtDir, hend⟩ := Action.exec_bind_ok hrest
  obtain ⟨houtDir, rfl⟩ := Action.exec_look_ok houtDir
  rw [Action.exec_pure] at hend
  obtain ⟨rfl, rfl⟩ := Prod.mk.inj (Except.ok.inj (Prod.mk.inj hend).1)
  have hload := (Config.quiet_load _ overrides).alike hlog hconfig
  have halike := hload.trans ((Action.quiet_report _ _ _).alike hload.logFile.2 hreport)
  rw [halike.files, halike.directory] at houtDir
  exact ⟨hroot, ⟨w₂, hconfig⟩, houtDir, rfl⟩

/-- A planned run is in a settled directory, and has a settled output directory. -/
theorem Run.isSettled_of_plan {w w' : World} {root : Path} {run : Run}
    (hlog : w.logFile = none) (tree : w.files.IsTree)
    (h : (Run.plan env path overrides).exec w = (.ok (root, run), w')) :
    root.IsSettled ∧ run.outDir.IsSettled := by
  obtain ⟨hroot, -, houtDir, -⟩ := Run.plan_ok hlog h
  exact ⟨env.isSettled_of_pathOf tree hroot, env.isSettled_of_resolvePath tree houtDir⟩

/-! ## Up to the component files -/

/-- How a run comes to its component files, or fails to do so. -/
inductive Run.Started (env : Environment) (path : String) (overrides : Json.Fields)
    (w : World) (r : Except Fault (Path × Run × List Path)) (w' : World) : Prop
  /-- The run could not be planned. -/
  | unplanned (hr : ∀ x, r ≠ .ok x) (halike : w.Alike w')
  /-- The run was planned.  The output directory may have been made, and is there if all
  has gone well. -/
  | planned (root : Path) (run : Run) (w₀ : World)
      (hplan : (Run.plan env path overrides).exec w = (.ok (root, run), w₀))
      (hlog : w'.logFile = none) (hdirectory : w'.directory = w.directory)
      (hmade : w.files.Made w'.files (w.files.placeOf run.outDir))
      (hok : ∀ root' run' files, r = .ok (root', run', files) →
        root' = root ∧ run' = run ∧ w.files.Reached w'.files run.outDir)

theorem exec_ensureDirectory (outDir : Path) (w : World) :
    (ensureDirectory outDir).exec w =
      ((FileSystem.makeDirectories w.directory outDir.names.length outDir w.files).1,
        { w with
          files :=
            (FileSystem.makeDirectories w.directory outDir.names.length outDir w.files).2 }) :=
  Action.exec_changePartly _ _

/-- The component files are those that are found in the components directory. -/
theorem Run.exec_componentFiles_ok_iff {w w' : World} {root : Path} {config : Config}
    {files : List Path} : (Run.componentFiles env find root config).exec w = (.ok files, w') ↔
      ∃ dir, env.resolvePath w.files w.directory root config.componentsDir = .ok dir ∧
        (find dir.text).exec
          (w.report ⟨.info, .run, "Searching for components under " ++ dir.text⟩) =
            (.ok files, w') := by
  unfold Run.componentFiles
  rw [Action.exec_bind, Action.exec_look]
  cases env.resolvePath w.files w.directory root config.componentsDir with
  | error fault => simp
  | ok dir =>
      dsimp only
      rw [Action.exec_bind, Action.exec_report]
      simp

/-- A run has started if it has been planned, its output directory has been made, and the
component files have been found. -/
theorem Run.exec_start_ok_iff {w w' : World} {root : Path} {run : Run} {files : List Path} :
    (Run.start env find path overrides).exec w = (.ok (root, run, files), w') ↔
      ∃ w₁ w₂, (Run.plan env path overrides).exec w = (.ok (root, run), w₁) ∧
        (ensureDirectory run.outDir).exec w₁ = (.ok (), w₂) ∧
        (Run.componentFiles env find root run.config).exec w₂ = (.ok files, w') := by
  unfold Run.start
  constructor
  · intro h
    obtain ⟨⟨root', run'⟩, w₁, hplan, hafterPlan⟩ := Action.exec_bind_ok h
    obtain ⟨_, w₂, hmake, hafterMake⟩ := Action.exec_bind_ok hafterPlan
    obtain ⟨files', w₃, hfiles, hend⟩ := Action.exec_bind_ok hafterMake
    obtain ⟨hvalue, rfl⟩ := Prod.mk.inj hend
    obtain ⟨rfl, hpair⟩ := Prod.mk.inj (Except.ok.inj hvalue)
    obtain ⟨rfl, rfl⟩ := Prod.mk.inj hpair
    exact ⟨w₁, w₂, hplan, hmake, hfiles⟩
  · rintro ⟨w₁, w₂, hplan, hmake, hfiles⟩
    rw [Action.exec_bind_of_ok hplan]
    dsimp only
    rw [Action.exec_bind_of_ok hmake, Action.exec_bind_of_ok hfiles]
    rfl

/-- Once the output directory has been made, a start leaves nothing but records. -/
theorem Run.alike_of_start (hfind : ∀ dir, (find dir).Quiet) {w w' : World} {root : Path}
    {run : Run} {files : List Path} (hlog : w.logFile = none)
    (h : (Run.start env find path overrides).exec w = (.ok (root, run, files), w')) :
    ∃ w₁ w₂, (Run.plan env path overrides).exec w = (.ok (root, run), w₁) ∧
      (ensureDirectory run.outDir).exec w₁ = (.ok (), w₂) ∧
      (Run.componentFiles env find root run.config).exec w₂ = (.ok files, w') ∧
      w₂.Alike w' := by
  obtain ⟨w₁, w₂, hplan, hmake, hfiles⟩ := Run.exec_start_ok_iff.mp h
  have hlog₂ : w₂.logFile = none := by
    rw [exec_ensureDirectory] at hmake
    rw [← (Prod.mk.inj hmake).2]
    exact ((Run.quiet_plan env path overrides).alike hlog hplan).logFile.2
  exact ⟨w₁, w₂, hplan, hmake, hfiles,
    (Run.quiet_componentFiles hfind root run.config).alike hlog₂ hfiles⟩

theorem Run.started (hfind : ∀ dir, (find dir).Quiet) {w w' : World}
    {r : Except Fault (Path × Run × List Path)} (hlog : w.logFile = none)
    (tree : w.files.IsTree) (h : (Run.start env find path overrides).exec w = (r, w')) :
    Run.Started env path overrides w r w' := by
  unfold Run.start at h
  rcases hplan : (Run.plan env path overrides).exec w with ⟨fault | ⟨root, run⟩, w₀⟩
  · rw [Action.exec_bind_of_error hplan] at h
    obtain ⟨rfl, rfl⟩ := Prod.mk.inj h
    exact .unplanned (by simp) ((Run.quiet_plan env path overrides).alike hlog hplan)
  rw [Action.exec_bind_of_ok hplan] at h
  have halike := (Run.quiet_plan env path overrides).alike hlog hplan
  have hspec := FileSystem.makeDirectories_spec w₀.directory run.outDir.names.length
    (Run.isSettled_of_plan hlog tree hplan).2 tree
  rw [← halike.files] at hspec
  have hensure := exec_ensureDirectory run.outDir w₀
  rcases hmake : FileSystem.makeDirectories w₀.directory run.outDir.names.length run.outDir
    w₀.files with ⟨fault | ⟨⟨⟩⟩, files⟩ <;> rw [hmake] at hensure hspec <;>
    obtain ⟨hmade, hreached⟩ := hspec <;> rw [halike.files] at hmade hreached
  · dsimp only at h
    rw [Action.exec_bind_of_error hensure] at h
    obtain ⟨rfl, rfl⟩ := Prod.mk.inj h
    exact .planned root run w₀ hplan halike.logFile.2 halike.directory hmade (by simp)
  · dsimp only at h
    rw [Action.exec_bind_of_ok hensure] at h
    rcases hfiles : (Run.componentFiles env find root run.config).exec { w₀ with files } with
      ⟨r', w₂⟩
    have hquiet : World.Alike { w₀ with files } w₂ :=
      (Run.quiet_componentFiles hfind root run.config).alike
        (show ({ w₀ with files } : World).logFile = none from halike.logFile.2) hfiles
    have hdirectory : w₂.directory = w.directory := hquiet.directory.trans halike.directory
    cases r' with
    | error fault =>
        rw [Action.exec_bind_of_error hfiles] at h
        obtain ⟨rfl, rfl⟩ := Prod.mk.inj h
        exact .planned root run w₀ hplan hquiet.logFile.2 hdirectory (hquiet.files ▸ hmade)
          (by simp)
    | ok found =>
        rw [Action.exec_bind_of_ok hfiles, Action.exec_pure] at h
        obtain ⟨rfl, rfl⟩ := Prod.mk.inj h
        refine .planned root run w₀ hplan hquiet.logFile.2 hdirectory (hquiet.files ▸ hmade) ?_
        intro root' run' files' hok
        obtain ⟨rfl, hpair⟩ := Prod.mk.inj (Except.ok.inj hok)
        obtain ⟨rfl, rfl⟩ := Prod.mk.inj hpair
        exact ⟨rfl, rfl, hquiet.files ▸ hreached rfl⟩

end ComponentReference
