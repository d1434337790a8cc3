import ChrootScan.Proofs.Hook.Routine
import ChrootScan.Proofs.Pipeline.Reports

/-!
# The codes that failures carry

A scan that fails for good carries a code, and whoever gets the failure takes it as recorded already.
It is: all phases and all hooks of a scan fail for good only with the code on record, which is not
zero (`accounts_runPhases`), and what comes behind the phases does not lower it.
-/

namespace ChrootScan

open Effect Work

/-- Hooks fail for good only with the code on record. -/
def HookModel.Accounts {η : Type} (model : HookModel η) : Prop :=
  ∀ hook, Work.Accounts (model.run hook)

/-- The hooks of the analyzers fail for good only with the code on record, since they are routine.
-/
theorem Hook.model_accounts : Hook.model.Accounts :=
  fun hook => (Hook.routine_run hook).accounts

namespace Stage

variable {η : Type}

/-- A stage accounts for itself if its work does, whether or not it is left out. -/
theorem accounts_run {s : Stage η} (hs : Accounts s.work) : Accounts s.run :=
  .bind .getPlan fun _ => .ite (.phase _ hs) (.pure _)

/-- Stages account for themselves one behind the other. -/
theorem accounts_runAll {stages : List (Stage η)} (hstages : ∀ s ∈ stages, Accounts s.work) :
    Accounts (runAll stages) := by
  induction stages with
  | nil => exact .pure _
  | cons s rest ih =>
    obtain ⟨hs, hrest⟩ := List.forall_mem_cons.1 hstages
    exact (accounts_run hs).bind fun _ => ih hrest

end Stage

namespace Pipeline

variable {η : Type} {model : HookModel η}

/-- Running a hook accounts for itself; its exit code makes an error, which is routine. -/
theorem accounts_runHook (hmodel : model.Accounts) (phase : HookPhase) (hook : η) :
    Accounts (runHook model phase hook) := by
  have herror (text : String) : Scan.Routine False (Scan.error text phase.errorCode) := .error _ _
  refine ((hmodel hook).within _).bind fun code => (Accounts.notify _).bind fun _ => ?_
  exact .ite (.scan (herror _)) (.pure _)

/-- Generation by generation the hooks of a phase account for themselves. -/
theorem accounts_runGenerations (hmodel : model.Accounts) (phase : HookPhase) (fuel : Nat) :
    Accounts (runGenerations model phase fuel) := by
  induction fuel with
  | zero => exact .pure _
  | succ fuel ih =>
    have htake : Accounts (takeHooks phase : Work η (List η)) :=
      .bind .getPlan fun _ => .bind (.modifyPlan _) fun _ => .pure _
    refine htake.bind fun _ => .ite (.bind (.forM (fun _ => ?_) _) fun _ => ih) (.pure _)
    exact accounts_runHook hmodel phase _

theorem accounts_hookStage (hmodel : model.Accounts) (phase : HookPhase) :
    Accounts (hookStage model phase).work :=
  .bind .getPlan fun _ => accounts_runGenerations hmodel phase _

/-- Every stage of a scan accounts for itself: those of hooks by the hooks, the others as routine.
-/
theorem accounts_stages (hmodel : model.Accounts) (srpm nvr : String) :
    ∀ s ∈ stages model srpm nvr, Accounts s.work :=
  forall_stages (accounts_hookStage hmodel) (fun _ hx => hx.accounts) srpm nvr

/-- Without a source package the command line cannot be used, which is not on record. -/
theorem accounts_source : Accounts (source : Work η (String × String)) := by
  refine .bind .getPlan fun plan => ?_
  rcases plan.srpm with _ | srpm
  · exact .refuse rfl
  · dsimp only
    rcases Rpm.nvr? srpm with _ | nvr
    · exact .refuse rfl
    · exact .pure _

/-- Cleaning up accounts for itself. -/
theorem accounts_cleanUp (noClean : Bool) : Accounts (cleanUp noClean : Work η Unit) := by
  have hroutine : Work.Routine False (cleanUp noClean : Work η Unit) := routine_cleanUp noClean
  exact hroutine.accounts

/-- All phases of a scan account for themselves. -/
theorem accounts_runPhases (hmodel : model.Accounts) : Accounts (runPhases model) := by
  rw [runPhases_eq]
  exact accounts_source.bind fun _ => Stage.accounts_runAll (accounts_stages hmodel _ _)

/-! ## Whole scans -/

/-- The code on record when a scan begins to clean up does not drop any more. -/
theorem le_ec_ending (noClean : Bool) (result : Except Failure Unit) (job : Job η) :
    job.bench.record.ec ≤ (eval (ending noClean result) job).2.bench.record.ec := by
  have honward : Job.Onward job (eval (cleanUp noClean) job).2 :=
    (routine_cleanUp noClean).keeps Onward.routineKept job
  rw [bench_ending]
  exact honward.ec

/-- A scan leaves a sound bench, however it ends. -/
theorem sound_execute (hmodel : model.Accounts) (noClean : Bool) {job : Job η}
    (h : job.bench.Sound) : (eval (execute model noClean) job).2.bench.Sound := by
  have hphases := (accounts_runPhases hmodel).sound (announced job) h
  rw [eval_execute, bench_ending]
  exact (accounts_cleanUp noClean).sound _ hphases

/-- A scan that fails for good carries a code that is not zero, and no less is on record. -/
theorem accounted_execute (hmodel : model.Accounts) (noClean : Bool) {job : Job η}
    (h : job.bench.Sound) {e : Failure} (he : (eval (execute model noClean) job).1 = .error e)
    (hfatal : e.isFatal = true) :
    ∃ code, e.scanError? = some (.fatal code) ∧ 1 ≤ code ∧
      code ≤ (eval (execute model noClean) job).2.bench.record.ec := by
  have haccounts := accounts_runPhases hmodel
  have hphases := haccounts.accounted (announced job) h
  have hsound := haccounts.sound (announced job) h
  rw [eval_execute, result_ending] at he
  rw [eval_execute]
  rcases hrun : eval (runPhases model) (announced job) with ⟨e' | ⟨⟩, after⟩
  · rw [hrun] at he hphases
    cases he
    obtain ⟨hcode, hpos⟩ := hphases _ rfl hfatal
    exact ⟨_, hcode, hpos, le_ec_ending noClean _ _⟩
  · -- the phases have succeeded, so it is the cleaning up that has failed
    rw [hrun] at he hsound
    obtain ⟨hcode, hpos⟩ := (accounts_cleanUp noClean).accounted after hsound e he hfatal
    rw [bench_ending]
    exact ⟨_, hcode, hpos, le_rfl⟩

end Pipeline
end ChrootScan
