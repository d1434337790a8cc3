import ChrootScan.Proofs.Pipeline.Cleaning
import ChrootScan.Proofs.Pipeline.Stages
import ChrootScan.Proofs.Pipeline.Turns

/-!
# What a scan reports

The events of a scan are a log that only grows (`Job.Reports`). The work of a stage reports nothing
but hooks, a phase puts its two events around that, and a whole scan one event in front of its phases
and, as a rule, one behind them.
-/

namespace ChrootScan

open Effect Work

/-! ## Kinds of events -/

namespace Event

/-- The event tells of a hook. -/
def isHook : Event → Bool
  | hookComplete .. => true
  | _ => false

/-- The event tells of the beginning or the end of a phase. -/
def isPhase : Event → Bool
  | phaseStarted _ => true
  | phaseComplete _ => true
  | _ => false

/-- The event tells of the scan as a whole. -/
def isOutcome : Event → Bool
  | started .. => true
  | completed _ => true
  | failed _ => true
  | _ => false

theorem isPhase_of_isHook {event : Event} (h : event.isHook = true) : event.isPhase = false := by
  cases event <;> first | rfl | cases h

theorem isOutcome_of_isHook {event : Event} (h : event.isHook = true) :
    event.isOutcome = false := by
  cases event <;> first | rfl | cases h

end Event

/-! ## The log of events -/

/-- Between two jobs nothing was reported but events of a kind. -/
def Job.Reports {η : Type} (P : Event → Prop) (job job' : Job η) : Prop :=
  ∃ reported, job'.events = job.events ++ reported ∧ ∀ event ∈ reported, P event

namespace Job

variable {η : Type} {P Q : Event → Prop} {job job' : Job η}

instance : IsPreorder (Job η) (Reports P) where
  refl _ := ⟨[], (List.append_nil _).symm, by simp⟩
  trans := by
    rintro a b c ⟨reported, hab, hP⟩ ⟨reported', hbc, hP'⟩
    refine ⟨reported ++ reported', by rw [hbc, hab, List.append_assoc], ?_⟩
    exact List.forall_mem_append.2 ⟨hP, hP'⟩

theorem Reports.of_events_eq (h : job'.events = job.events) : Reports P job job' :=
  ⟨[], by rw [h, List.append_nil], by simp⟩

theorem Reports.mono (hPQ : ∀ event, P event → Q event) (h : Reports P job job') :
    Reports Q job job' := by
  obtain ⟨reported, hevents, hP⟩ := h
  exact ⟨reported, hevents, fun event hevent => hPQ event (hP event hevent)⟩

end Job

namespace Work

variable {η α : Type} {P : Event → Prop}

theorem reports_getPlan : Keeps (Job.Reports P) (getPlan : Work η (Plan η)) :=
  fun _ => .of_events_eq rfl

theorem reports_notify {event : Event} (h : P event) :
    Keeps (Job.Reports P) (notify event : Work η Unit) :=
  fun _ => ⟨[event], rfl, by simpa using h⟩

theorem reports_phase {name : String} {x : Work η α} (hstarted : P (.phaseStarted name))
    (hcomplete : P (.phaseComplete name)) (hx : Keeps (Job.Reports P) x) :
    Keeps (Job.Reports P) (phase name x) :=
  (reports_notify hstarted).bind fun _ => hx.bind fun _ =>
    (reports_notify hcomplete).bind fun _ => .pure _

end Work

/-! ## Stages -/

namespace Pipeline

variable {η : Type} {model : HookModel η} {P : Event → Prop}

/-- The hooks of a phase report that they returned, each for itself. -/
theorem reports_hookStage (hsilent : model.Silent)
    (hhook : ∀ phase hook code, P (.hookComplete phase hook code)) (phase : HookPhase) :
    Keeps (Job.Reports P) (hookStage model phase).work := by
  intro job
  obtain ⟨turns, htour, -⟩ := exists_tour_runGenerations model phase
    (generations model (job.plan.hooks phase)) job
  refine ⟨_, htour.events_eq hsilent, fun event hevent => ?_⟩
  obtain ⟨t, -, hreport⟩ := List.mem_filterMap.1 hevent
  obtain ⟨code, -, rfl⟩ := Option.map_eq_some_iff.1 hreport
  exact hhook _ _ _

/-- Routine work reports nothing at all. -/
theorem reports_of_routine {marks : Prop} {α : Type} {x : Work η α} (hx : Work.Routine marks x) :
    Keeps (Job.Reports P) x :=
  fun job => .of_events_eq (hx.events_eq job)

/-- The work of a stage reports nothing but hooks. -/
theorem reports_stages (hsilent : model.Silent) (srpm nvr : String) :
    ∀ s ∈ stages model srpm nvr, Keeps (Job.Reports (Event.isHook ·)) s.work :=
  forall_stages (reports_hookStage hsilent fun _ _ _ => rfl) (fun _ => reports_of_routine) srpm nvr

/-- The phases report themselves and their hooks, and nothing of the scan as a whole. -/
theorem reports_runPhases (hsilent : model.Silent) :
    Keeps (Job.Reports fun event => event.isOutcome = false) (runPhases model) := by
  have hrun {s : Stage η} (hs : Keeps (Job.Reports (Event.isHook ·)) s.work) :
      Keeps (Job.Reports fun event => event.isOutcome = false) s.run := by
    refine reports_getPlan.bind fun _ => .ite (reports_phase rfl rfl fun job => ?_) (.pure _)
    exact (hs job).mono fun _ => Event.isOutcome_of_isHook
  have hsource : Keeps (Job.Reports fun event => event.isOutcome = false)
      (source : Work η (String × String)) := by
    intro job
    rw [eval_source]
    exact refl_of (Job.Reports _) job
  rw [runPhases_eq]
  exact hsource.bind fun _ => Stage.keeps_runAll fun s hs => hrun (reports_stages hsilent _ _ s hs)

/-! ## The end of a scan -/

theorem events_cleanUp (noClean : Bool) (job : Job η) :
    (eval (cleanUp noClean) job).2.events = job.events := by
  have hroutine : Work.Routine False (cleanUp noClean : Work η Unit) := routine_cleanUp noClean
  exact hroutine.events_eq job

/-- A scan that failed reports that, and one that succeeded that it is complete, unless it is not
cleaned up. -/
theorem events_ending (noClean : Bool) (result : Except Failure Unit) (job : Job η) :
    (eval (ending noClean result) job).2.events = job.events ++
      match result, (eval (cleanUp noClean) job).1 with
      | .error e, _ => [.failed e.full]
      | .ok (), .ok () => [.completed (eval (cleanUp noClean) job).2.bench.record.ec]
      | .ok (), .error _ => [] := by
  have hclean := events_cleanUp noClean job
  rcases result with e | ⟨⟩
  · have hevents : (eval (ending noClean (.error e)) job).2.events =
        (eval (cleanUp noClean) job).2.events ++ [.failed e.full] := rfl
    rw [hevents, hclean]
  · rcases hrun : eval (cleanUp noClean) job with ⟨e | ⟨⟩, left⟩
    · rw [hrun] at hclean
      rw [ending, eval_bind_error hrun, hclean]
      exact (List.append_nil _).symm
    · rw [hrun] at hclean
      rw [ending, eval_bind_ok hrun, ← hclean]
      rfl

/-- A scan fails as its phases do, and if these succeed, as its cleaning up does. -/
theorem result_ending (noClean : Bool) (result : Except Failure Unit) (job : Job η) :
    (eval (ending noClean result) job).1 =
      match result with
      | .error e => .error e
      | .ok () => (eval (cleanUp noClean) job).1 := by
  rcases result with e | ⟨⟩
  · rfl
  · rcases hrun : eval (cleanUp noClean) job with ⟨e | ⟨⟩, left⟩
    · rw [ending, eval_bind_error hrun]
    · rw [ending, eval_bind_ok hrun]
      rfl

/-- A scan succeeds exactly if its phases do, and its cleaning up. -/
theorem execute_eq_ok_iff {noClean : Bool} {job : Job η} :
    (eval (execute model noClean) job).1 = .ok () ↔
      (eval (runPhases model) (announced job)).1 = .ok () ∧
        (eval (cleanUp noClean) (eval (runPhases model) (announced job)).2).1 = .ok () := by
  rw [eval_execute, result_ending]
  rcases (eval (runPhases model) (announced job)).1 with e | ⟨⟩
  · exact ⟨nofun, nofun⟩
  · exact ⟨fun h => ⟨rfl, h⟩, And.right⟩

/-- A scan that ended so has reported its beginning first and its outcome last, and neither of them
in between: the code on record if it succeeded, and its failure if not. -/
def OutcomeReported (job : Job η) (run : Except Failure Unit × Job η) : Prop :=
  ∃ inner outcome,
    run.2.events = job.events ++
      .started (job.plan.pkg.getD "") job.bench.chroot.profile :: inner ++ [outcome] ∧
    (∀ event ∈ inner, event.isOutcome = false) ∧
    match run.1 with
    | .ok () => outcome = .completed run.2.bench.record.ec
    | .error e => outcome = .failed e.full

/-- An outcome that is reported is reported last. -/
theorem OutcomeReported.getLast? {job : Job η} {run : Except Failure Unit × Job η}
    (h : OutcomeReported job run) :
    ∃ outcome, run.2.events.getLast? = some outcome ∧ outcome.isOutcome = true := by
  obtain ⟨inner, outcome, hevents, -, houtcome⟩ := h
  refine ⟨outcome, by rw [hevents, List.getLast?_concat], ?_⟩
  rcases hresult : run.1 with e | ⟨⟩
  · rw [hresult] at houtcome
    rw [houtcome]
    rfl
  · rw [hresult] at houtcome
    rw [houtcome]
    rfl

/-- A scan reports its outcome, and that last, exactly unless it fails only in cleaning up: then it
returns an error, and nothing is reported behind the phases. -/
theorem outcomeReported_iff (hsilent : model.Silent) (noClean : Bool) (job : Job η) :
    OutcomeReported job (eval (execute model noClean) job) ↔
      ¬ ((eval (runPhases model) (announced job)).1 = .ok () ∧
        (eval (cleanUp noClean) (eval (runPhases model) (announced job)).2).1.isOk = false) := by
  obtain ⟨inner, hinner, hkinds⟩ := reports_runPhases hsilent (announced job)
  have hbegun : (announced job).events ++ inner = job.events ++
      .started (job.plan.pkg.getD "") job.bench.chroot.profile :: inner :=
    List.append_assoc _ _ _
  rw [hbegun] at hinner
  have hevents := events_ending noClean (eval (runPhases model) (announced job)).1
    (eval (runPhases model) (announced job)).2
  have hresult := result_ending noClean (eval (runPhases model) (announced job)).1
    (eval (runPhases model) (announced job)).2
  rw [hinner] at hevents
  rw [OutcomeReported, eval_execute, hevents, hresult]
  -- phases that fail are reported; of phases that succeed, cleaning up decides
  rcases hphases : eval (runPhases model) (announced job) with ⟨e | ⟨⟩, after⟩
  · exact ⟨fun _ => nofun, fun _ => ⟨inner, .failed e.full, rfl, hkinds, rfl⟩⟩
  · rcases hclean : eval (cleanUp noClean) after with ⟨e | ⟨⟩, left⟩
    · -- the last event would be one of those that the phases have reported
      refine ⟨?_, fun h => absurd ⟨rfl, rfl⟩ h⟩
      rintro ⟨inner', outcome, hsplit, -, rfl⟩
      dsimp only at hsplit
      rw [List.append_nil, List.append_assoc] at hsplit
      have hsame : inner = inner' ++ [.failed e.full] :=
        (List.cons.inj (List.append_cancel_left hsplit)).2
      have hmem : Event.failed e.full ∈ inner := by
        rw [hsame]
        exact List.mem_append_right _ (List.mem_singleton_self _)
      cases hkinds _ hmem
    · have hrecord : (eval (ending noClean (.ok ())) after).2.bench.record.ec =
          left.bench.record.ec := by
        rw [bench_ending, hclean]
      exact ⟨fun _ => nofun, fun _ => ⟨inner, _, rfl, hkinds, congrArg _ hrecord.symm⟩⟩

/-- A scan whose programs all exit with zero reports that it is complete. -/
theorem outcomeReported_of_calm :
    let model : HookModel Empty := { name := nofun, rank := nofun, run := nofun }
    let job : Job Empty :=
      { bench :=
          { machine :=
              { tree :=
                  { nodes :=
                      [(["out"], .dir), (["out", "debug"], .dir),
                        (["out", "debug", "uni-results"], .dir)] }
                behaviour := fun _ _ _ _ => .started { location := "/usr/bin/mock" } }
            record := Record.ofOptions { output := "/out" } "/tmp/csmock" }
        plan := { srpm := some "demo-1-1.src.rpm" } }
    model.Silent ∧ (eval (execute model false) job).1 = .ok () ∧
      OutcomeReported job (eval (execute model false) job) := by
  intro model job
  have hsilent : model.Silent := nofun
  have hok : (eval (execute model false) job).1 = .ok () := by decide +kernel
  refine ⟨hsilent, hok, (outcomeReported_iff hsilent false job).2 ?_⟩
  rintro ⟨-, hfailed⟩
  rw [(execute_eq_ok_iff.1 hok).2] at hfailed
  cases hfailed

/-- If all goes well until a signal ends the program that cleans the chroot away, the scan returns an
error that it has not reported. -/
theorem not_outcomeReported_uncleaned :
    let model : HookModel Empty := { name := nofun, rank := nofun, run := nofun }
    let job : Job Empty :=
      { bench :=
          { machine :=
              { tree :=
                  { nodes :=
                      [(["out"], .dir), (["out", "debug"], .dir),
                        (["out", "debug", "uni-results"], .dir)] }
                behaviour := fun _ _ _ argv => .started
                  { location := "/usr/bin/mock"
                    ending := fun _ =>
                      if argv.contains "--clean" then .killed 15 else .exited 0 } }
            record := Record.ofOptions { output := "/out" } "/tmp/csmock" }
        plan := { srpm := some "demo-1-1.src.rpm" } }
    model.Silent ∧
      (eval (execute model false) job).1 = .error (Failure.ofScan (.fatal 143)) ∧
      (eval (execute model false) job).2.events.getLast? = some (.phaseComplete "results") ∧
      ¬ OutcomeReported job (eval (execute model false) job) := by
  intro model job
  obtain ⟨hfails, hlast⟩ :
      (eval (execute model false) job).1 = .error (Failure.ofScan (.fatal 143)) ∧
      (eval (execute model false) job).2.events.getLast? = some (.phaseComplete "results") := by
    decide +kernel
  refine ⟨nofun, hfails, hlast, fun hreported => ?_⟩
  obtain ⟨outcome, houtcome, hkind⟩ := hreported.getLast?
  rw [hlast] at houtcome
  cases houtcome
  cases hkind

end Pipeline
end ChrootScan
