import ChrootScan.Proofs.Pipeline.Onward

/-!
# Cleaning up

A scan ends with cleaning its chroot away, whatever became of its phases. The command that cleans
is run like any other one, though: a scan that is not dying looks for signals before the start, and
a code on record that is that of a signal stops it there.
-/

namespace ChrootScan

open Effect

/-! ## The command that cleans -/

namespace Chroot

/-- The call that cleans a chroot away. -/
def cleaning (c : Chroot) : Shell.Command :=
  .argv (c.call ["--clean"])

/-- Cleaning is running that call, and recording an error if it fails. -/
theorem eval_clean (b : Bench) :
    eval clean b = match eval ((Manner.logged true).call b.chroot.cleaning) b with
      | (.error e, b') => (.error e, b')
      | (.ok code, b') =>
        eval (if code ≠ 0 then Scan.error "failed to clean the chroot" 0 else pure ()) b' := by
  have hexec : eval (exec ["--clean"]) b =
      eval ((Manner.logged true).call b.chroot.cleaning) b := by
    rw [exec, eval_get_bind, Scan.exec, Manner.eval_execWith]
    rfl
  rw [clean, eval_bind, hexec]
  rcases eval ((Manner.logged true).call b.chroot.cleaning) b with ⟨e | code, b'⟩
  · rfl
  · rfl

/-- What is started for cleaning is what that call starts. -/
theorem calls_clean (b : Bench) :
    (eval clean b).2.machine.calls =
      (eval ((Manner.logged true).call b.chroot.cleaning) b).2.machine.calls := by
  rw [eval_clean]
  rcases eval ((Manner.logged true).call b.chroot.cleaning) b with ⟨e | code, b'⟩
  · rfl
  · have hstill : Keeps Still
        (if code ≠ 0 then Scan.error "failed to clean the chroot" 0 else pure ()) :=
      .ite (Scan.still_error _ _) (.pure _)
    exact (hstill b').calls

end Chroot

/-! ## Whole scans -/

namespace Pipeline

open Work

variable {η : Type} (model : HookModel η)

/-- The job that the phases of a scan begin with. -/
def announced (job : Job η) : Job η :=
  { job with
    events := job.events ++ [.started (job.plan.pkg.getD "") job.bench.chroot.profile] }

/-- What a scan does once its phases have ended. -/
def ending (noClean : Bool) : Except Failure Unit → Work η Unit
  | .ok () => do
    cleanUp noClean
    notify (.completed (← getRecord).ec)
  | .error e => do
    let _ ← liftM (outcome (cleanUp (η := η) noClean))
    notify (.failed e.full)
    throw e

/-- A scan is its phases, and what comes behind them, whatever became of them. -/
theorem eval_execute (noClean : Bool) (job : Job η) :
    eval (execute model noClean) job =
      eval (ending noClean (eval (runPhases model) (announced job)).1)
        (eval (runPhases model) (announced job)).2 := by
  have hphases : act (outcome (runPhases model)) (announced job) =
      eval (runPhases model) (announced job) := rfl
  rw [← hphases, execute, eval_get_bind, notify, eval_modify_bind, eval_liftM_bind]
  unfold announced
  rcases act (outcome (runPhases model)) _ with ⟨e | ⟨⟩, after⟩
  · rfl
  · rfl

/-- The bench behind a scan is the one that cleaning up leaves. -/
theorem bench_ending (noClean : Bool) (result : Except Failure Unit) (job : Job η) :
    (eval (ending noClean result) job).2.bench = (eval (cleanUp noClean) job).2.bench := by
  rcases result with e | ⟨⟩
  · rfl
  · rw [ending, eval_bind]
    rcases eval (cleanUp noClean) job with ⟨e | ⟨⟩, after⟩
    · rfl
    · rfl

/-- Cleaning up is one command in the chroot, if there is one that is not to be kept. -/
theorem bench_cleanUp (noClean : Bool) (job : Job η) :
    (eval (cleanUp noClean) job).2.bench =
      if !noClean && job.bench.chroot.initialized then (eval Chroot.clean job.bench).2
      else job.bench := by
  rw [cleanUp, eval_get_bind, eval_ite]
  split
  · rw [bench_scan]
  · rfl

/-- The bench that the phases of a scan leave behind, with or without an error. -/
def afterPhases (job : Job η) : Bench :=
  (eval (runPhases model) (announced job)).2.bench

/-- A chroot whose creation was begun is cleaned away after the phases, whatever became of them,
exactly if the command that cleans is not stopped on its way: the two looks before its start leave
no code of a signal on record, unless the scan is dying, and the system does not refuse it. -/
theorem cleaned_iff (job : Job η)
    (hinitialized : (afterPhases model job).chroot.initialized = true) :
    (∃ location rest, (eval (execute model false) job).2.bench.machine.calls =
      (afterPhases model job).machine.calls ++
        ⟨location, (afterPhases model job).chroot.call ["--clean"]⟩ :: rest) ↔
    ((afterPhases model job).record.seen (afterPhases model job).machine.takeSignal.1).stops
        = false ∧
      (((afterPhases model job).record.seen (afterPhases model job).machine.takeSignal.1).seen
        (afterPhases model job).machine.takeSignal.2.takeSignal.1).stops = false ∧
      (((afterPhases model job).ready (.logged true)
        (afterPhases model job).chroot.cleaning).machine.start
          ((afterPhases model job).chroot.call ["--clean"])).1.isOk = true := by
  set b := afterPhases model job with hb
  -- reports aside, all that comes behind the phases is the command that cleans
  have hbench : (eval (execute model false) job).2.bench = (eval Chroot.clean b).2 := by
    rw [eval_execute, bench_ending, bench_cleanUp]
    exact if_pos hinitialized
  have hready := b.record_ready (.logged true) b.chroot.cleaning
  rw [Manner.echoes, if_pos rfl] at hready
  rw [hbench, Chroot.calls_clean, ← hready, ← Bench.record_look]
  exact Manner.spawned_iff

/-- A scan that does not find its chroot is given up, and the chroot is cleaned away. -/
theorem cleaned_without_root :
    let model : HookModel Empty := { name := nofun, rank := nofun, run := nofun }
    let job : Job Empty :=
      { bench :=
          { machine :=
              { behaviour := fun _ _ _ argv => .started
                  { location := "/usr/bin/mock"
                    ending := fun _ =>
                      .exited (if argv.contains "--print-root-path" then 1 else 0) } }
            record := Record.ofOptions { output := "out" } "/tmp/csmock" }
        plan := { srpm := some "demo-1-1.src.rpm" } }
    (afterPhases model job).record.dying = true ∧
      ∃ location rest, (eval (execute model false) job).2.bench.machine.calls =
        (afterPhases model job).machine.calls ++
          ⟨location, (afterPhases model job).chroot.call ["--clean"]⟩ :: rest := by
  intro model job
  refine ⟨by decide +kernel, (cleaned_iff model job (by decide +kernel)).2 ⟨?_, ?_, ?_⟩⟩
  · decide +kernel
  · decide +kernel
  · decide +kernel

/-- A scan whose build fails leaves its chroot behind, if a signal arrives right then. -/
theorem not_cleaned_after_signal :
    let model : HookModel Empty := { name := nofun, rank := nofun, run := nofun }
    let job : Job Empty :=
      { bench :=
          { machine :=
              { behaviour := fun n _ _ _ => .started
                  { location := "/usr/bin/mock"
                    ending := fun _ => .exited (if n = 6 then 1 else 0) }
                arrivals := fun n => if n = 14 then some 15 else none }
            record := Record.ofOptions { output := "out" } "/tmp/csmock" }
        plan := { srpm := some "demo-1-1.src.rpm" } }
    (afterPhases model job).chroot.initialized = true ∧
      ¬ ∃ location rest, (eval (execute model false) job).2.bench.machine.calls =
        (afterPhases model job).machine.calls ++
          ⟨location, (afterPhases model job).chroot.call ["--clean"]⟩ :: rest := by
  intro model job
  -- the look before the start stops the scan: not one program more is started
  have hlength : (eval (execute model false) job).2.bench.machine.calls.length =
      (afterPhases model job).machine.calls.length := by
    decide +kernel
  refine ⟨by decide +kernel, ?_⟩
  rintro ⟨location, rest, hrest⟩
  rw [hrest, List.length_append, List.length_cons] at hlength
  omega

end Pipeline
end ChrootScan
