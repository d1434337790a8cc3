import ChrootScan.Pipeline
import ChrootScan.Proofs.Record.Commands

/-!
# Work on a job

How work on a job runs, and when it goes onward: nothing that was started is taken back, the code on
record does not drop and a dying scan stays one. Of hooks this is a hypothesis
(`HookModel.GoesOnward`).
-/

namespace ChrootScan

open Effect

/-! ## Work on a job -/

/-- The job with one more report. -/
def Job.reported {η : Type} (job : Job η) (event : Event) : Job η :=
  { job with events := job.events ++ [event] }

/-- The bench of one job has gone onward to that of another. -/
def Job.Onward {η : Type} (job job' : Job η) : Prop :=
  ChrootScan.Onward job.bench job'.bench

/-- No hook takes back what was done. -/
def HookModel.GoesOnward {η : Type} (model : HookModel η) : Prop :=
  ∀ hook, Keeps Job.Onward (model.run hook)

/-- No hook reports anything itself. -/
def HookModel.Silent {η : Type} (model : HookModel η) : Prop :=
  ∀ hook job, (eval (model.run hook) job).2.events = job.events

/-- What hooks cannot do: report anything themselves, take back what was done, and begin a chroot or
have it forgotten. -/
structure HookModel.Confined {η : Type} (model : HookModel η) : Prop where
  silent : model.Silent
  goesOnward : model.GoesOnward
  chroot : ∀ hook, Keeps
    (fun job job' => job'.bench.chroot.initialized = job.bench.chroot.initialized) (model.run hook)

namespace Work

variable {η α : Type}

instance : IsPreorder (Job η) Job.Onward where
  refl job := refl_of ChrootScan.Onward job.bench
  trans _ _ _ := trans_of ChrootScan.Onward

/-- Work on the record leaves the rest of the job alone. -/
theorem eval_scan (x : Scan α) (job : Job η) :
    eval (scan x) job = ((eval x job.bench).1.mapError Failure.ofScan,
      { job with bench := (eval x job.bench).2 }) := by
  have hx : eval x job.bench = x.run.run job.bench := rfl
  rw [scan, eval_get_bind, hx]
  rcases x.run.run job.bench with ⟨e | a, b⟩
  · rfl
  · rfl

/-- A context is put around a failure, and nothing else differs. -/
theorem eval_within (context : String) (x : Work η α) (job : Job η) :
    eval (within context x) job =
      ((eval x job).1.mapError (Failure.within context), (eval x job).2) := by
  have hwithin : eval (within context x) job =
      ((fun answer => answer.mapError (Failure.within context)) <$> x.run).run job := rfl
  rw [hwithin]
  rfl

/-- Work on the record leaves the bench that it leaves by itself. -/
theorem bench_scan (x : Scan α) (job : Job η) :
    (eval (scan x) job).2.bench = (eval x job.bench).2 := by
  rw [eval_scan]

theorem eval_getPlan_bind (f : Plan η → Work η α) (job : Job η) :
    eval (getPlan >>= f) job = eval (f job.plan) job :=
  rfl

theorem eval_notify_bind (event : Event) (f : Unit → Work η α) (job : Job η) :
    eval (notify event >>= f) job = eval (f ()) (job.reported event) :=
  rfl

/-- A phase reports that it has started before its work, and that it is complete after it. -/
theorem eval_phase (name : String) (x : Work η α) (job : Job η) :
    eval (phase name x) job = match eval x (job.reported (.phaseStarted name)) with
      | (.ok a, job') => (.ok a, job'.reported (.phaseComplete name))
      | (.error e, job') => (.error e, job') := by
  rw [phase, eval_notify_bind, eval_bind]
  rcases eval x (job.reported (.phaseStarted name)) with ⟨e | a, job'⟩
  · rfl
  · rfl

/-- Work on a job goes onward where its work on the record does. -/
theorem onward_scan {x : Scan α} (hx : Keeps Onward x) :
    Keeps Job.Onward (scan x : Work η α) := by
  intro job
  rw [Job.Onward, bench_scan]
  exact hx job.bench

theorem onward_getPlan : Keeps Job.Onward (getPlan : Work η (Plan η)) :=
  fun job => refl_of Onward job.bench

theorem onward_modifyPlan (f : Plan η → Plan η) : Keeps Job.Onward (modifyPlan f : Work η Unit) :=
  fun job => refl_of Onward job.bench

theorem onward_notify (event : Event) : Keeps Job.Onward (notify event : Work η Unit) :=
  fun job => refl_of Onward job.bench

/-- A phase goes onward if its work does: reports are not on the bench. -/
theorem onward_phase {x : Work η α} (name : String) (hx : Keeps Job.Onward x) :
    Keeps Job.Onward (phase name x) :=
  (onward_notify _).bind fun _ => hx.bind fun _ => (onward_notify _).bind fun _ => .pure _

/-- The context of a failure is no step. -/
theorem onward_within {x : Work η α} (context : String) (hx : Keeps Job.Onward x) :
    Keeps Job.Onward (within context x) := by
  intro job
  have hsame : (eval (within context x) job).2 = (eval x job).2 := rfl
  rw [hsame]
  exact hx job

end Work

/-! ## Phases -/

namespace Pipeline

open Work

variable {η : Type} {model : HookModel η}

/-- Running a hook goes onward, and so does the error that its exit code may make. -/
theorem onward_runHook (hmodel : model.GoesOnward) (phase : HookPhase) (hook : η) :
    Keeps Job.Onward (runHook model phase hook) := by
  refine (onward_within _ (hmodel hook)).bind fun _ => (onward_notify _).bind fun _ => ?_
  exact .ite (onward_scan (Onward.workKept.error _ _)) (.pure _)

/-- Generation by generation the hooks of a phase go onward. -/
theorem onward_runGenerations (hmodel : model.GoesOnward) (phase : HookPhase) (fuel : Nat) :
    Keeps Job.Onward (runGenerations model phase fuel) := by
  induction fuel with
  | zero => exact .pure _
  | succ fuel ih =>
    have htake : Keeps Job.Onward (takeHooks phase : Work η (List η)) :=
      onward_getPlan.bind fun _ => (onward_modifyPlan _).bind fun _ => .pure _
    refine htake.bind fun _ => .ite (.bind (.forM (fun _ => ?_) _) fun _ => ih) (.pure _)
    exact onward_runHook hmodel phase _

end Pipeline
end ChrootScan
