import ChrootScan.Proofs.Hook.Routine
import ChrootScan.Proofs.Record.Calm

/-!
# Hooks behind the scan

The hooks that run on the host once the findings are copied out are to report a failure without an
influence on the exit code: the error that is recorded for one has no code. But the exit code of the
command itself comes on record before that, if it is above 128. So the failures of these hooks are
harmless exactly as long as no command exits with 192 or more.
-/

namespace ChrootScan

open Effect Work Pipeline

/-! ## Runs of hooks -/

/-- A hook that runs a command on the host. -/
def Hook.isHostCmd : Hook → Bool
  | hostCmd _ _ => true
  | _ => false

/-- The command that a hook on the host runs, if there is one to run. -/
def Hook.command? : Hook → Bench → Option String
  | hostCmd _ render, b => render b
  | _, _ => none

/-- A hook that has run, and the code that its command ended with, if it had one to run. -/
structure HookRun where
  hook : Hook
  ending : Option Int

namespace HookRun

/-- What the hook returned. -/
def code (run : HookRun) : Int :=
  run.ending.getD 0

/-- How a run is reported. -/
def report (phase : HookPhase) (run : HookRun) : Event :=
  .hookComplete phase.name run.hook.name run.code

/-- Only a hook that may find nothing to do has done nothing. -/
def Honest (run : HookRun) : Prop :=
  run.ending = none → ∃ b, run.hook.command? b = none

end HookRun

/-- The code that a hook returned, if that is what is reported. -/
def Event.hookCode? : Event → Option Int
  | hookComplete _ _ code => some code
  | _ => none

namespace Job

/-- The codes that hooks have returned since an earlier job. -/
def codesSince (job earlier : Job Hook) : List Int :=
  (job.events.drop earlier.events.length).filterMap Event.hookCode?

/-- All hooks of a phase have run, each of them once and in order, with one program start if it had
a command to run; and that was the whole phase. -/
def RanOnce (phase : HookPhase) (job job' : Job Hook) : Prop :=
  ∃ runs : List HookRun, runs.map HookRun.hook = job.plan.hooks phase ∧
    (∀ run ∈ runs, run.Honest) ∧
    job'.events = job.events ++ (.phaseStarted phase.name :: runs.map (HookRun.report phase) ++
      [.phaseComplete phase.name]) ∧
    job'.bench.machine.starts = job.bench.machine.starts + runs.countP (·.ending.isSome) ∧
    job'.plan.hooks phase = []

theorem filterMap_report (phase : HookPhase) (runs : List HookRun) :
    (runs.map (HookRun.report phase)).filterMap Event.hookCode? = runs.map HookRun.code := by
  rw [List.filterMap_map]
  exact congrFun (List.filterMap_eq_map (f := HookRun.code)) runs

end Job

/-- No code is on record, or one that no look takes for that of a signal. -/
def Record.Settled (r : Record) : Prop :=
  r.ec = 0 ∨ 192 ≤ r.ec

namespace Record.Settled

variable {r : Record}

theorem stops_eq_false (h : r.Settled) : r.stops = false := by
  rw [stops_eq_false_iff]
  rcases h with h | h
  · exact .inr (.inl (by omega))
  · exact .inr (.inr h)

theorem nonneg (h : r.Settled) : 0 ≤ r.ec := by
  unfold Settled at h
  omega

/-- A code that is not one for a signal leaves the record settled, and none on it only if it is
below 192 itself. -/
theorem noted (h : r.Settled) {code : Int} (hcode : IsOrdinary code) :
    (r.noted code).Settled ∧ ((r.noted code).ec = 0 ↔ r.ec = 0 ∧ code < 192) := by
  unfold Settled at h ⊢
  unfold Record.noted
  split
  · next habove =>
    have hhigh : 192 ≤ code := hcode.resolve_left (not_le.2 habove)
    rw [Record.ec_raiseCode]
    omega
  · next habove => omega

end Record.Settled

/-! ## One hook after the other -/

/-- These runs lead from one job to another on a calm machine. -/
structure Ran (S : Int → Prop) (runs : List HookRun) (job job' : Job Hook) : Prop where
  honest : ∀ run ∈ runs, run.Honest
  codes : ∀ run ∈ runs, S run.code ∨ run.code ≤ 128
  events : job'.events = job.events ++ runs.map (HookRun.report .postProcess)
  starts : job'.bench.machine.starts =
    job.bench.machine.starts + runs.countP (·.ending.isSome)
  plan : job'.plan = job.plan
  calm : job'.bench.machine.Calm S
  settled : job'.bench.record.Settled
  harmless : job'.bench.record.ec = 0 ↔
    job.bench.record.ec = 0 ∧ ∀ run ∈ runs, run.code < 192

namespace Ran

variable {S : Int → Prop} {runs runs' : List HookRun} {job job' job'' : Job Hook}

/-- Without hooks nothing happens. -/
theorem nil (hcalm : job.bench.machine.Calm S) (hsettled : job.bench.record.Settled) :
    Ran S [] job job where
  honest := nofun
  codes := nofun
  events := (List.append_nil _).symm
  starts := rfl
  plan := rfl
  calm := hcalm
  settled := hsettled
  harmless := by simp

/-- A single run, its report being the last thing that is on the job. -/
theorem single (hS : ∀ code, S code → IsOrdinary code) (hsettled : job.bench.record.Settled)
    {run : HookRun} (hhonest : run.Honest) (hcode : S run.code ∨ run.code ≤ 128) {b : Bench}
    (hrecord : b.record = job.bench.record.noted run.code) (hcalm : b.machine.Calm S)
    (hstarts : b.machine.starts =
      job.bench.machine.starts + if run.ending.isSome then 1 else 0) :
    Ran S [run] job { job.reported (run.report .postProcess) with bench := b } := by
  obtain ⟨hsettled', hharmless⟩ := hsettled.noted (hcode.elim (hS _) .inl)
  rw [← hrecord] at hsettled' hharmless
  refine ⟨List.forall_mem_singleton.2 hhonest, List.forall_mem_singleton.2 hcode, rfl, ?_, rfl,
    hcalm, hsettled', ?_⟩
  · rw [List.countP_singleton]
    exact hstarts
  · rw [List.forall_mem_singleton]
    exact hharmless

/-- Runs of hooks one after the other are one run of all of them. -/
theorem trans (h : Ran S runs job job') (h' : Ran S runs' job' job'') :
    Ran S (runs ++ runs') job job'' where
  honest := List.forall_mem_append.2 ⟨h.honest, h'.honest⟩
  codes := List.forall_mem_append.2 ⟨h.codes, h'.codes⟩
  events := by rw [h'.events, h.events, List.map_append, List.append_assoc]
  starts := by rw [h'.starts, h.starts, List.countP_append, Nat.add_assoc]
  plan := h'.plan.trans h.plan
  calm := h'.calm
  settled := h'.settled
  harmless := by rw [h'.harmless, h.harmless, List.forall_mem_append, and_assoc]

end Ran

section
variable {S : Int → Prop} {job : Job Hook}

/-- A hook on the host returns the code of its command, or zero if there is none to run. -/
theorem eval_run_of_calm (hS : ∀ code, S code → IsOrdinary code)
    (hcalm : job.bench.machine.Calm S) (hsettled : job.bench.record.Settled) {hook : Hook}
    (hhost : hook.isHostCmd = true) :
    ∃ (ending : Option Int) (b : Bench),
      eval hook.run job = (.ok (ending.getD 0), { job with bench := b }) ∧
      HookRun.Honest ⟨hook, ending⟩ ∧ (S (ending.getD 0) ∨ ending.getD 0 ≤ 128) ∧
      b.record = job.bench.record.noted (ending.getD 0) ∧ b.machine.Calm S ∧
      b.machine.starts = job.bench.machine.starts + if ending.isSome then 1 else 0 := by
  cases hook with
  | hostCmd name render =>
    rcases hrender : render job.bench with _ | text
    · -- without a command nothing is run, and zero is no code of a program
      have hrun : eval (Hook.runHostCmd render) job = (.ok 0, job) := by
        rw [Hook.runHostCmd, eval_get_bind, hrender]
        rfl
      exact ⟨none, job.bench, hrun, fun _ => ⟨job.bench, hrender⟩, .inr (by decide), rfl, hcalm,
        rfl⟩
    · obtain ⟨code, b, hexec, hcode, hrecord, hcalm', hstarts⟩ :=
        Scan.eval_exec_of_calm hcalm hS hsettled.stops_eq_false (.shell text)
      have hrun : eval (Hook.runHostCmd render) job = (.ok code, { job with bench := b }) := by
        rw [Hook.runHostCmd, eval_get_bind, hrender]
        dsimp only
        rw [Hook.exec, eval_scan, hexec]
        rfl
      refine ⟨some code, b, hrun, nofun, ?_, hrecord, hcalm', hstarts⟩
      rcases hcode with hcode | hcode
      · exact .inl hcode
      · exact .inr (by simp only [Option.getD_some]; omega)
  | _ => cases hhost

/-- The error for a failed hook has no code, so all that counts is the code of the command. -/
theorem eval_runHook_of_calm (hS : ∀ code, S code → IsOrdinary code)
    (hcalm : job.bench.machine.Calm S) (hsettled : job.bench.record.Settled) {hook : Hook}
    (hhost : hook.isHostCmd = true) :
    ∃ run result job', run.hook = hook ∧
      eval (runHook Hook.model .postProcess hook) job = (result, job') ∧
      Ran S [run] job job' ∧ (job'.bench.record.ec = 0 → result = .ok ()) := by
  obtain ⟨ending, b, hrun, hhonest, hcode, hrecord, hcalm', hstarts⟩ :=
    eval_run_of_calm hS hcalm hsettled hhost
  have hran := Ran.single hS hsettled hhonest hcode hrecord hcalm' hstarts
  have hwithin : eval (within ("Hook " ++ Hook.model.name hook ++ " failed") (Hook.model.run hook))
      job = (.ok (ending.getD 0), { job with bench := b }) := by
    have hmodel : Hook.model.run hook = hook.run := rfl
    rw [eval_within, hmodel, hrun]
    rfl
  rw [runHook, eval_bind_ok hwithin, eval_notify_bind, eval_ite]
  split
  · -- recording the error leaves the code on record and starts no program
    obtain ⟨result, b', herror, hrecord', hcalm'', hstarts', hok⟩ :=
      Scan.eval_error_of_calm hcalm' hran.settled.stops_eq_false hran.settled.nonneg
        (HookPhase.postProcess.name ++ " hook " ++ Hook.model.name hook ++ " failed (rv = " ++
          toString (ending.getD 0) ++ ")")
    have hran' := Ran.single hS hsettled hhonest hcode (hrecord'.trans hrecord) hcalm''
      (hstarts'.trans hstarts)
    refine ⟨⟨hook, ending⟩, result.mapError Failure.ofScan, _, rfl, ?_, hran', ?_⟩
    · rw [eval_scan]
      dsimp only [Job.reported, HookPhase.errorCode]
      rw [herror]
      rfl
    · intro hzero
      rw [hok (hrecord' ▸ hzero)]
      rfl
  · exact ⟨⟨hook, ending⟩, _, _, rfl, rfl, hran, fun _ => rfl⟩

/-- Hooks run one after the other until one of them gives the scan up, which none does as long as no
code is on record. -/
theorem eval_forM_runHook_of_calm (hS : ∀ code, S code → IsOrdinary code) {hooks : List Hook}
    (hhost : ∀ hook ∈ hooks, hook.isHostCmd = true) (hcalm : job.bench.machine.Calm S)
    (hsettled : job.bench.record.Settled) :
    ∃ runs result job', eval (hooks.forM (runHook Hook.model .postProcess)) job = (result, job') ∧
      Ran S runs job job' ∧
      (job'.bench.record.ec = 0 → result = .ok () ∧ runs.map HookRun.hook = hooks) := by
  induction hooks generalizing job with
  | nil => exact ⟨[], .ok (), job, rfl, .nil hcalm hsettled, fun _ => ⟨rfl, rfl⟩⟩
  | cons hook hooks ih =>
    obtain ⟨hhook, hhooks⟩ := List.forall_mem_cons.1 hhost
    obtain ⟨run, result, job', rfl, hrun, hran, hok⟩ :=
      eval_runHook_of_calm hS hcalm hsettled hhook
    have hcons : (run.hook :: hooks).forM (runHook Hook.model .postProcess) =
      runHook Hook.model .postProcess run.hook >>= fun _ =>
        hooks.forM (runHook Hook.model .postProcess) := rfl
    rw [hcons]
    rcases result with e | ⟨⟩
    · refine ⟨_, _, _, eval_bind_error hrun _, hran, fun hzero => ?_⟩
      cases hok hzero
    · obtain ⟨runs, result, job'', hrest, hran', hok'⟩ := ih hhooks hran.calm hran.settled
      refine ⟨_, _, _, (eval_bind_ok hrun _).trans hrest, hran.trans hran', fun hzero => ?_⟩
      obtain ⟨hresult, hruns⟩ := hok' hzero
      exact ⟨hresult, congrArg (run.hook :: ·) hruns⟩

end

/-! ## The whole phase -/

/-- No hook of an analyzer schedules another one into its own phase. -/
theorem generations_model (hooks : List Hook) :
    generations Hook.model hooks = if hooks.isEmpty then 0 else 1 := by
  cases hooks with
  | nil => rfl
  | cons hook hooks =>
    have hone : (hooks.map fun _ => 1).foldl max 1 = 1 := by
      induction hooks with
      | nil => rfl
      | cons _ hooks ih => exact ih
    exact hone

/-- So its hooks run one after the other, and that is the phase. -/
theorem eval_runGenerations_model (phase : HookPhase) (job : Job Hook) :
    eval (runGenerations Hook.model phase (generations Hook.model (job.plan.hooks phase))) job =
      eval ((job.plan.hooks phase).forM (runHook Hook.model phase))
        { job with plan := job.plan.setHooks phase [] } := by
  rw [generations_model]
  rcases hhooks : job.plan.hooks phase with _ | ⟨hook, hooks⟩
  · have hplan : job.plan.setHooks phase [] = job.plan := by
      rw [← hhooks]
      cases phase <;> rfl
    rw [hplan]
    rfl
  · have htake : eval (takeHooks phase) job =
        (.ok (hook :: hooks), { job with plan := job.plan.setHooks phase [] }) := by
      rw [← hhooks]
      rfl
    rw [List.isEmpty_cons, if_neg Bool.false_ne_true, runGenerations, eval_bind_ok htake,
      List.isEmpty_cons, Bool.not_false, if_pos rfl, eval_bind]
    rcases eval ((hook :: hooks).forM (runHook Hook.model phase))
      { job with plan := job.plan.setHooks phase [] } with ⟨e | ⟨⟩, job'⟩
    · rfl
    · rfl

/-- The hooks behind a scan have done it no harm: the phase returned, all of them have run, and
there is no code on record. -/
def Harmless (job : Job Hook) : Prop :=
  let run := eval (runHooks Hook.model .postProcess) job
  run.1 = .ok () ∧ job.RanOnce .postProcess run.2 ∧ run.2.bench.record.ec = 0

section
variable {S : Int → Prop} {job : Job Hook}

/-- A calm phase behind the scan: its hooks run until one of them gives the scan up. -/
theorem eval_runHooks_of_calm (hS : ∀ code, S code → IsOrdinary code)
    (hhost : ∀ hook ∈ job.plan.hooks .postProcess, hook.isHostCmd = true)
    (hcalm : job.bench.machine.Calm S) (hsettled : job.bench.record.Settled) :
    ∃ (runs : List HookRun) (result : Except Failure Unit) (job' : Job Hook),
      eval (runHooks Hook.model .postProcess) job = (result, job') ∧
      (∀ run ∈ runs, S run.code ∨ run.code ≤ 128) ∧
      job'.codesSince job = runs.map HookRun.code ∧
      (job'.bench.record.ec = 0 ↔ job.bench.record.ec = 0 ∧ ∀ run ∈ runs, run.code < 192) ∧
      (job'.bench.record.ec = 0 → result = .ok () ∧ job.RanOnce .postProcess job') := by
  set begun : Job Hook := { job.reported (.phaseStarted HookPhase.postProcess.name) with
    plan := job.plan.setHooks .postProcess [] } with hbegun
  have hcalm' : begun.bench.machine.Calm S := hcalm
  -- hooks on the host schedule no others, so the phase is one generation
  obtain ⟨runs, result, job', heval, hran, hok⟩ :=
    eval_forM_runHook_of_calm hS hhost hcalm' hsettled
  have hevents : job'.events = job.events ++ (.phaseStarted HookPhase.postProcess.name ::
      runs.map (HookRun.report .postProcess)) := by
    rw [hran.events, hbegun, Job.reported, List.append_assoc]
    rfl
  have hrun : eval (runHooks Hook.model .postProcess) job =
      match result with
      | .ok () => (.ok (), job'.reported (.phaseComplete HookPhase.postProcess.name))
      | .error e => (.error e, job') := by
    have hphase := (eval_runGenerations_model .postProcess
      (job.reported (.phaseStarted HookPhase.postProcess.name))).trans heval
    rw [runHooks, eval_phase, eval_getPlan_bind, hphase]
    rcases result with e | ⟨⟩
    · rfl
    · rfl
  rcases result with e | ⟨⟩
  · refine ⟨runs, _, _, hrun, hran.codes, ?_, hran.harmless, fun hzero => ?_⟩
    · rw [Job.codesSince, hevents, List.drop_left, List.filterMap_cons_none rfl,
        Job.filterMap_report]
    · cases (hok hzero).1
  · refine ⟨runs, _, _, hrun, hran.codes, ?_, hran.harmless, fun hzero => ?_⟩
    · rw [Job.codesSince, Job.reported, hevents, List.append_assoc, List.drop_left,
        List.cons_append, List.filterMap_cons_none rfl, List.filterMap_append,
        Job.filterMap_report]
      exact List.append_nil _
    · refine ⟨rfl, runs, (hok hzero).2, hran.honest, ?_, hran.starts, ?_⟩
      · rw [Job.reported, hevents, List.append_assoc]
      · exact congrArg (Plan.hooks · .postProcess) hran.plan

/-- What a calm phase does to the scan is decided by the codes that its hooks have returned. -/
theorem exists_runs_of_calm (hS : ∀ code, S code → IsOrdinary code)
    (hhost : ∀ hook ∈ job.plan.hooks .postProcess, hook.isHostCmd = true)
    (hcalm : job.bench.machine.Calm S) (hec : job.bench.record.ec = 0) :
    ∃ runs : List HookRun, (∀ run ∈ runs, S run.code ∨ run.code ≤ 128) ∧
      (eval (runHooks Hook.model .postProcess) job).2.codesSince job = runs.map HookRun.code ∧
      (Harmless job ↔ ∀ run ∈ runs, run.code < 192) := by
  obtain ⟨runs, result, job', heval, hcodes, hsince, hzero, hok⟩ :=
    eval_runHooks_of_calm hS hhost hcalm (.inl hec)
  rw [Harmless, heval]
  refine ⟨runs, hcodes, hsince, ?_⟩
  constructor
  · rintro ⟨-, -, hnone⟩
    exact (hzero.1 hnone).2
  · intro hlow
    have hnone := hzero.2 ⟨hec, hlow⟩
    exact ⟨(hok hnone).1, (hok hnone).2, hnone⟩

end

/-- On a calm machine the hooks behind a scan do no harm exactly if none of them has returned 192 or
more; and they do none if no program can exit with a code above 128. -/
theorem postProcess_harmless_iff {job : Job Hook} (hcalm : job.bench.machine.Calm IsOrdinary)
    (hec : job.bench.record.ec = 0)
    (hhost : ∀ hook ∈ job.plan.hooks .postProcess, hook.isHostCmd = true) :
    (Harmless job ↔
      ∀ code ∈ (eval (runHooks Hook.model .postProcess) job).2.codesSince job, code < 192) ∧
    (job.bench.machine.Calm (· ≤ 128) → Harmless job) := by
  constructor
  · obtain ⟨runs, -, hsince, hharmless⟩ := exists_runs_of_calm (fun _ => id) hhost hcalm hec
    rw [hsince, List.forall_mem_map]
    exact hharmless
  · intro hlow
    obtain ⟨runs, hcodes, -, hharmless⟩ := exists_runs_of_calm (fun _ => .inl) hhost hlow hec
    refine hharmless.2 fun run hrun => ?_
    have hcode := hcodes run hrun
    omega

/-- A filter that exits with three, one that finds nothing to do and one that cannot be started: the
scan goes on as if nothing had happened. -/
theorem harmless_failing_filters :
    let filter (name : String) : Hook :=
      .hostCmd name fun bench =>
        some (Setup.captureFilterCmd ("/builddir/" ++ name ++ ".err") "cat" bench.record)
    let job : Job Hook :=
      { bench :=
          { machine :=
              { behaviour := fun n _ _ _ =>
                  if n = 0 then .started { location := "/bin/sh", ending := fun _ => .exited 3 }
                  else .refused .notFound }
            record := Record.ofOptions { output := "out" } "/tmp/csmock" }
        plan :=
          { postProcessHooks :=
              [filter "cbmc", .hostCmd "semgrep-filter" Semgrep.filterCmd?, filter "strace"] } }
    job.bench.machine.Calm IsOrdinary ∧
      (eval (runHooks Hook.model .postProcess) job).2.codesSince job = [3, 0, 127] ∧
      Harmless job := by
  intro filter job
  have hcalm : job.bench.machine.Calm IsOrdinary := by
    refine ⟨rfl, fun _ => rfl, rfl, ?_⟩
    intro n t vars argv run hrun
    by_cases hn : n = 0
    · subst hn
      cases hrun
      exact ⟨rfl, 3, .inl (by decide), rfl⟩
    · rw [show job.bench.machine.behaviour n t vars argv = .refused .notFound from if_neg hn] at hrun
      cases hrun
  have hhost : ∀ hook ∈ job.plan.hooks .postProcess, hook.isHostCmd = true := by
    intro hook hmem
    fin_cases hmem <;> rfl
  have hcodes : (eval (runHooks Hook.model .postProcess) job).2.codesSince job = [3, 0, 127] := by
    decide +kernel
  refine ⟨hcalm, hcodes, (postProcess_harmless_iff hcalm rfl hhost).1.2 ?_⟩
  rw [hcodes]
  decide

/-- A filter that exits with 255 makes the scan fail with that code. -/
theorem not_harmless_high_filter :
    let job : Job Hook :=
      { bench :=
          { machine :=
              { behaviour := fun _ _ _ _ => .started
                  { location := "/bin/sh", ending := fun _ => .exited 255 } }
            record := Record.ofOptions { output := "out" } "/tmp/csmock" }
        plan :=
          { postProcessHooks :=
              [.hostCmd "cbmc-filter" fun bench =>
                some (Setup.captureFilterCmd "/builddir/cbmc.err" "cat" bench.record)] } }
    job.bench.machine.Calm IsOrdinary ∧ job.bench.record.ec = 0 ∧
      (∀ hook ∈ job.plan.hooks .postProcess, hook.isHostCmd = true) ∧
      (eval (runHooks Hook.model .postProcess) job).1 = .error (Failure.ofScan (.fatal 255)) ∧
      ¬ Harmless job := by
  intro job
  have hfails : (eval (runHooks Hook.model .postProcess) job).1 =
      .error (Failure.ofScan (.fatal 255)) := by
    decide +kernel
  refine ⟨⟨rfl, fun _ => rfl, rfl, ?_⟩, rfl, List.forall_mem_singleton.2 rfl, hfails, ?_⟩
  · intro n t vars argv run hrun
    cases hrun
    exact ⟨rfl, 255, .inr (by decide), rfl⟩
  · rintro ⟨hok, -⟩
    rw [hfails] at hok
    cases hok

end ChrootScan
