import ChrootScan.Proofs.Pipeline.Routine

/-!
# The stages of a scan

The phases of a scan are a list of stages, done one after the other (`runPhases_eq`). `trail` tells
which stage has started which program; the stages stand in it in their order (`pairwise_trail`).
-/

namespace ChrootScan

open Effect Work

/-! ## Stages -/

/-- The programs started since the bench was that of an earlier job. -/
def Job.callsSince {η : Type} (job earlier : Job η) : List Call :=
  job.bench.machine.calls.drop earlier.bench.machine.calls.length

theorem Job.Onward.calls_eq {η : Type} {job job' : Job η} (h : job.Onward job') :
    job'.bench.machine.calls = job.bench.machine.calls ++ job'.callsSince job :=
  (List.prefix_iff_eq_append.1 h.calls).symm

/-- Work that a scan announces as a phase. -/
structure Stage (η : Type) where
  name : String
  /-- The plan asks for the stage. -/
  wanted : Plan η → Bool := fun _ => true
  work : Work η Unit

/-- A program start, and the stage that it falls into. -/
structure StageCall where
  stage : String
  call : Call
deriving DecidableEq, Repr

namespace Stage

variable {η : Type}

/-- Does the work of a stage, if the plan asks for it. -/
def run (s : Stage η) : Work η Unit := do
  if s.wanted (← getPlan) then phase s.name s.work

/-- Does the work of stages, one after the other. -/
def runAll : List (Stage η) → Work η Unit
  | [] => pure ()
  | s :: rest => do
    s.run
    runAll rest

/-- The programs that a stage starts on a job. -/
def calls (s : Stage η) (job : Job η) : List StageCall :=
  ((eval s.run job).2.callsSince job).map (⟨s.name, ·⟩)

/-- The programs that stages start on a job, in order. -/
def trail : List (Stage η) → Job η → List StageCall
  | [], _ => []
  | s :: rest, job =>
    match eval s.run job with
    | (.ok (), job') => s.calls job ++ trail rest job'
    | (.error _, _) => s.calls job

theorem run_of_wanted {s : Stage η} (h : s.wanted = fun _ => true) :
    s.run = phase s.name s.work := by
  rw [run, h]
  rfl

variable {stages : List (Stage η)}

theorem onward_run {s : Stage η} (hs : Keeps Job.Onward s.work) : Keeps Job.Onward s.run :=
  onward_getPlan.bind fun _ => .ite (onward_phase _ hs) (.pure _)

theorem keeps_runAll {R : Job η → Job η → Prop} [IsPreorder (Job η) R]
    (hstages : ∀ s ∈ stages, Keeps R s.run) : Keeps R (runAll stages) := by
  induction stages with
  | nil => exact .pure _
  | cons s rest ih =>
    obtain ⟨hs, hrest⟩ := List.forall_mem_cons.1 hstages
    exact hs.bind fun _ => ih hrest

/-- The trail is what a run adds to the calls on record. -/
theorem calls_runAll (hstages : ∀ s ∈ stages, Keeps Job.Onward s.work) (job : Job η) :
    (eval (runAll stages) job).2.bench.machine.calls =
      job.bench.machine.calls ++ (trail stages job).map StageCall.call := by
  induction stages generalizing job with
  | nil => exact (List.append_nil _).symm
  | cons s rest ih =>
    obtain ⟨hs, hrest⟩ := List.forall_mem_cons.1 hstages
    have hrun := (onward_run hs job).calls_eq
    have hcalls : (s.calls job).map StageCall.call = (eval s.run job).2.callsSince job := by
      rw [calls, List.map_map]
      exact List.map_id _
    rw [runAll, trail]
    rcases heval : eval s.run job with ⟨e | ⟨⟩, job'⟩
    · -- a stage that fails is the last one, and its calls are still on the trail
      rw [heval] at hrun hcalls
      rw [eval_bind_error heval, hcalls]
      exact hrun
    · rw [heval] at hrun hcalls
      rw [eval_bind_ok heval, ih hrest job', List.map_append, hcalls, ← List.append_assoc, ← hrun]

theorem stage_of_mem_calls {s : Stage η} {c : StageCall} {job : Job η} (hc : c ∈ s.calls job) :
    c.stage = s.name := by
  obtain ⟨call, -, rfl⟩ := List.mem_map.1 hc
  rfl

/-- Whatever is on the trail falls into one of the stages. -/
theorem stage_mem_of_mem_trail {c : StageCall} {job : Job η} (hc : c ∈ trail stages job) :
    c.stage ∈ stages.map Stage.name := by
  induction stages generalizing job with
  | nil => cases hc
  | cons s rest ih =>
    rw [trail] at hc
    rw [List.map_cons, List.mem_cons]
    rcases heval : eval s.run job with ⟨e | ⟨⟩, job'⟩
    · rw [heval] at hc
      exact .inl (stage_of_mem_calls hc)
    · rw [heval] at hc
      obtain hc | hc := List.mem_append.1 hc
      · exact .inl (stage_of_mem_calls hc)
      · exact .inr (ih hc)

/-- The stages stand on the trail in their order. -/
theorem pairwise_trail {R : String → String → Prop} (hrefl : ∀ name, R name name)
    (hnames : (stages.map Stage.name).Pairwise R) (job : Job η) :
    (trail stages job).Pairwise fun c c' => R c.stage c'.stage := by
  induction stages generalizing job with
  | nil => exact List.Pairwise.nil
  | cons s rest ih =>
    rw [List.map_cons, List.pairwise_cons] at hnames
    -- the calls of one stage bear one name, and those of later stages come behind them
    have hcalls : (s.calls job).Pairwise fun c c' => R c.stage c'.stage :=
      List.pairwise_map.2 (List.pairwise_of_forall fun _ _ => hrefl s.name)
    rw [trail]
    rcases heval : eval s.run job with ⟨e | ⟨⟩, job'⟩
    · exact hcalls
    · refine List.pairwise_append.2 ⟨hcalls, ih hnames.2 job', fun c hc c' hc' => ?_⟩
      rw [stage_of_mem_calls hc]
      exact hnames.1 _ (stage_mem_of_mem_trail hc')

end Stage

/-! ## The stages of a scan -/

namespace Pipeline

variable {η : Type} (model : HookModel η)

/-- The stage in which the hooks of a phase run. -/
def hookStage (phase : HookPhase) : Stage η where
  name := phase.name
  work := do runGenerations model phase (generations model ((← getPlan).hooks phase))

/-- The stage that installs the package, which a plan may ask for. -/
def installation : Stage η where
  name := "install"
  wanted plan := plan.needInstall || plan.runCheck
  work := do scan (installStage (← getPlan))

/-- The stages of the scan of a source package, in order. -/
def stages (srpm nvr : String) : List (Stage η) :=
  [hookStage model .preMock,
    { name := "chroot-init", work := do scan (initChroot srpm nvr (← getPlan)) },
    hookStage model .postDepinst,
    { name := "build", work := do scan (build srpm nvr (← getPlan)) },
    { name := "post-build", work := do scan ((← getPlan).postBuildCmds.forM afterBuild) },
    installation,
    hookStage model .postInstall,
    { name := "copy-out", work := do scan ((← getPlan).copyOutFiles.forM copyOut) },
    hookStage model .postProcess,
    { name := "results", work := collect }]

/-- The names of all stages, in order. -/
def stageNames : List String :=
  ["pre-mock", "chroot-init", "post-depinst", "build", "post-build", "install", "post-install",
    "copy-out", "post-process", "results"]

theorem map_name_stages (srpm nvr : String) :
    (stages model srpm nvr).map Stage.name = stageNames :=
  rfl

/-- The install stage is left out where the plan does not ask for it. -/
theorem run_install (rest : Work η Unit) :
    (do
      let plan ← getPlan
      if plan.needInstall || plan.runCheck then
        phase "install" do scan (installStage plan)
      rest) =
    (installation : Stage η).run >>= fun _ => rest := by
  refine eval_ext fun job => ?_
  -- reporting the phase leaves the plan alone, so it makes no difference where it is read
  have hphase : eval (phase "install" do scan (installStage (← getPlan))) job =
      eval (phase "install" (scan (installStage job.plan))) job := by
    rw [eval_phase, eval_phase, eval_getPlan_bind]
    rfl
  rw [eval_getPlan_bind, Stage.run, bind_assoc, eval_getPlan_bind]
  by_cases hwanted : (job.plan.needInstall || job.plan.runCheck) = true
  · have hinstall : (installation : Stage η).wanted job.plan = true := hwanted
    rw [if_pos hwanted, if_pos hinstall, eval_bind, eval_bind, ← hphase]
    rfl
  · have hinstall : ¬ (installation : Stage η).wanted job.plan = true := hwanted
    rw [if_neg hwanted, if_neg hinstall, pure_bind]

/-- The phases of a scan are its stages, once the source package is found. -/
theorem runPhases_eq :
    runPhases model = source >>= fun (srpm, nvr) => Stage.runAll (stages model srpm nvr) := by
  have hhooks (phase : HookPhase) : (hookStage model phase).run = runHooks model phase :=
    Stage.run_of_wanted rfl
  unfold runPhases
  refine congrArg (source >>= ·) (funext fun ⟨srpm, nvr⟩ => ?_)
  simp only [stages, Stage.runAll, bind_pure_unit, run_install]
  rw [hhooks, hhooks, hhooks, hhooks]
  simp only [Stage.run_of_wanted]

variable {model}

/-- What holds of the hooks of every phase and of routine work holds of the work of all stages. -/
theorem forall_stages {P : Work η Unit → Prop} (hhooks : ∀ phase, P (hookStage model phase).work)
    (hroutine : ∀ x, Work.Routine True x → P x) (srpm nvr : String) :
    ∀ s ∈ stages model srpm nvr, P s.work := by
  have hscan {f : Plan η → Scan Unit} (hf : ∀ plan, Scan.Routine True (f plan)) :
      P (do scan (f (← getPlan))) :=
    hroutine _ (.bind .getPlan fun plan => .scan (hf plan))
  simp only [stages, List.forall_mem_cons, List.not_mem_nil, false_implies, implies_true, and_true]
  refine ⟨hhooks _, ?chroot, hhooks _, ?build, ?afterBuild, ?installation, hhooks _, ?copyOut,
    hhooks _, ?results⟩
  case chroot => exact hscan (routine_initChroot srpm nvr)
  case build => exact hscan (routine_build srpm nvr)
  case afterBuild => exact hscan fun _ => .forM routine_afterBuild _
  case installation => exact hscan routine_installStage
  case copyOut => exact hscan fun _ => .forM routine_copyOut _
  case results => exact hroutine _ routine_collect

theorem onward_hookStage (hmodel : model.GoesOnward) (phase : HookPhase) :
    Keeps Job.Onward (hookStage model phase).work :=
  onward_getPlan.bind fun _ => onward_runGenerations hmodel phase _

theorem onward_stages (hmodel : model.GoesOnward) (srpm nvr : String) :
    ∀ s ∈ stages model srpm nvr, Keeps Job.Onward s.work :=
  forall_stages (onward_hookStage hmodel) (fun _ hx => hx.keeps Onward.routineKept) srpm nvr

variable (model)

/-- The programs that the phases of a scan start, in order. -/
def trail (job : Job η) : List StageCall :=
  match eval source job with
  | (.ok (srpm, nvr), job') => Stage.trail (stages model srpm nvr) job'
  | (.error _, _) => []

/-- Finding the source package leaves the job alone. -/
theorem eval_source (job : Job η) : (eval source job).2 = job := by
  rw [source, eval_getPlan_bind]
  rcases job.plan.srpm with _ | srpm
  · rfl
  · dsimp only
    rcases Rpm.nvr? srpm with _ | nvr
    · rfl
    · rfl

/-- The trail of a scan is what its phases add to the calls on record. -/
theorem calls_runPhases (hmodel : model.GoesOnward) (job : Job η) :
    (eval (runPhases model) job).2.bench.machine.calls =
      job.bench.machine.calls ++ (trail model job).map StageCall.call := by
  -- the source package is looked up in the plan, so the stages begin with the job as it is
  have hjob := eval_source job
  rw [runPhases_eq, trail]
  rcases hsource : eval source job with ⟨e | ⟨srpm, nvr⟩, job'⟩
  · rw [hsource] at hjob
    rw [eval_bind_error hsource, show job' = job from hjob]
    exact (List.append_nil _).symm
  · rw [hsource] at hjob
    rw [eval_bind_ok hsource, show job' = job from hjob]
    exact Stage.calls_runAll (onward_stages hmodel srpm nvr) job

/-- The stages stand on the trail of a scan in their order. -/
theorem pairwise_trail {R : String → String → Prop} (hrefl : ∀ name, R name name)
    (hnames : stageNames.Pairwise R) (job : Job η) :
    (trail model job).Pairwise fun c c' => R c.stage c'.stage := by
  rw [trail]
  rcases eval source job with ⟨e | ⟨srpm, nvr⟩, job'⟩
  · exact List.Pairwise.nil
  · rw [← map_name_stages model srpm nvr] at hnames
    exact Stage.pairwise_trail hrefl hnames job'

end Pipeline
end ChrootScan
