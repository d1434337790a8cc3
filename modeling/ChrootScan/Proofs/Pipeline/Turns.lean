import ChrootScan.Proofs.Pipeline.Onward

/-!
# The turns of hooks

A phase takes its hooks off the plan and runs them, and does so again with what they have scheduled
into it, until nothing is left. A `Turn` is one hook on one job; a run of a phase is a `Tour`, in
which every turn begins with the job that the one before has left. If hooks only ever append to the
lists of the plan, and what they schedule into the phase gets less and less (`HookModel.Forest`), the
tour goes through the forest of hooks breadth first (`BreadthFirst`).
-/

namespace ChrootScan

open Effect Work

/-! ## Lists of hooks -/

namespace Plan

variable {η : Type} (p : Plan η)

@[simp] theorem hooks_setHooks (phase : HookPhase) (hooks : List η) :
    (p.setHooks phase hooks).hooks phase = hooks := by
  cases phase <;> rfl

theorem hooks_setHooks_of_ne {phase other : HookPhase} (hooks : List η) (h : other ≠ phase) :
    (p.setHooks phase hooks).hooks other = p.hooks other := by
  cases phase <;> cases other <;> first | rfl | exact absurd rfl h

end Plan

/-! ## Turns -/

/-- A hook and the job that it is run on. -/
structure Turn (η : Type) where
  hook : η
  job : Job η

namespace Turn

variable {η : Type} (model : HookModel η)

/-- What the hook answers, and the job that it leaves. -/
def run (t : Turn η) : Except Failure Int × Job η :=
  eval (model.run t.hook) t.job

/-- The hooks that this one appends to the list of a phase. -/
def scheduled (phase : HookPhase) (t : Turn η) : List η :=
  ((t.run model).2.plan.hooks phase).drop (t.job.plan.hooks phase).length

/-- The report that a hook returned, which one that fails does not. -/
def report? (phase : HookPhase) (t : Turn η) : Option Event :=
  (t.run model).1.toOption.map (.hookComplete phase.name (model.name t.hook))

/-- The programs that the hook starts. -/
def calls (t : Turn η) : List Call :=
  (t.run model).2.bench.machine.calls.drop t.job.bench.machine.calls.length

end Turn

/-- Turns in which hooks are run until a turn fails, the job passing from one to the next. The hooks
of the phase are taken off the plan at any time between them. -/
inductive Tour {η : Type} (model : HookModel η) (phase : HookPhase) :
    Job η → List (Turn η) → Except Failure Unit → Job η → Prop
  | done (job : Job η) : Tour model phase job [] (.ok ()) job
  | take {job : Job η} {turns : List (Turn η)} {result : Except Failure Unit} {left : Job η}
      (rest : Tour model phase { job with plan := job.plan.setHooks phase [] } turns result left) :
      Tour model phase job turns result left
  | turn {hook : η} {job next : Job η} {turns : List (Turn η)} {result : Except Failure Unit}
      {left : Job η} (run : eval (Pipeline.runHook model phase hook) job = (.ok (), next))
      (rest : Tour model phase next turns result left) :
      Tour model phase job (⟨hook, job⟩ :: turns) result left
  | failed {hook : η} {job left : Job η} {e : Failure}
      (run : eval (Pipeline.runHook model phase hook) job = (.error e, left)) :
      Tour model phase job [⟨hook, job⟩] (.error e) left

/-- Turns that go through hooks generation by generation: first those waiting, in their order, then
what these have scheduled. Turns that are not complete stop within a generation. -/
inductive BreadthFirst {η : Type} (model : HookModel η) (phase : HookPhase) :
    Bool → List η → List (Turn η) → Prop
  | done : BreadthFirst model phase true [] []
  | round {complete : Bool} {waiting : List η} {turns rest : List (Turn η)}
      (generation : turns.map Turn.hook = waiting)
      (next : BreadthFirst model phase complete (turns.flatMap (Turn.scheduled model phase)) rest) :
      BreadthFirst model phase complete waiting (turns ++ rest)
  | broken {waiting later : List η} {turns : List (Turn η)}
      (generation : waiting = turns.map Turn.hook ++ later) :
      BreadthFirst model phase false waiting turns

namespace HookModel

variable {η : Type}

/-- What hooks do to the lists of hooks is appending to them. -/
def Appends (model : HookModel η) : Prop :=
  ∀ hook phase, Keeps (fun job job' => job.plan.hooks phase <+: job'.plan.hooks phase)
    (model.run hook)

/-- The hooks of a phase are a forest: they only append, and into the phase itself none of their own
rank or more. -/
structure Forest (model : HookModel η) (phase : HookPhase) : Prop where
  appends : model.Appends
  rank_lt : ∀ (t : Turn η), ∀ hook ∈ t.scheduled model phase, model.rank hook < model.rank t.hook

theorem Appends.hooks_eq {model : HookModel η} (h : model.Appends) (phase : HookPhase)
    (t : Turn η) :
    (t.run model).2.plan.hooks phase = t.job.plan.hooks phase ++ t.scheduled model phase :=
  (List.prefix_iff_eq_append.1 (h t.hook phase t.job)).symm

theorem GoesOnward.calls_eq {model : HookModel η} (h : model.GoesOnward) (t : Turn η) :
    (t.run model).2.bench.machine.calls = t.job.bench.machine.calls ++ t.calls model :=
  (List.prefix_iff_eq_append.1 (h t.hook t.job).calls).symm

end HookModel

/-! ## One turn -/

namespace Pipeline

variable {η : Type} (model : HookModel η) (phase : HookPhase)

/-- What a turn changes apart from what its hook does: a report, and an error on record. -/
structure TurnKept (t : Turn η) (left : Job η) : Prop where
  plan : left.plan = (t.run model).2.plan
  events : left.events = (t.run model).2.events ++ (t.report? model phase).toList
  bench : Still (t.run model).2.bench left.bench

/-- A turn leaves the plan of its hook, one report more if the hook has returned, and a bench that
is still but for the error that an exit code may make. -/
theorem turnKept (hook : η) (job : Job η) :
    TurnKept model phase ⟨hook, job⟩ (eval (runHook model phase hook) job).2 := by
  have hwithin := eval_within ("Hook " ++ model.name hook ++ " failed") (model.run hook) job
  rcases hrun : eval (model.run hook) job with ⟨e | code, after⟩
  · -- a hook that fails reports nothing
    have hturn : (⟨hook, job⟩ : Turn η).run model = (.error e, after) := hrun
    rw [hrun] at hwithin
    rw [runHook, eval_bind_error hwithin]
    refine ⟨?_, ?_, ?_⟩
    · rw [hturn]
    · rw [Turn.report?, hturn]
      exact (List.append_nil _).symm
    · rw [hturn]
      exact .refl _
  · have hturn : (⟨hook, job⟩ : Turn η).run model = (.ok code, after) := hrun
    rw [hrun] at hwithin
    have hreport : (⟨hook, job⟩ : Turn η).report? model phase =
        some (.hookComplete phase.name (model.name hook) code) := by
      rw [Turn.report?, hturn]
      rfl
    rw [runHook, eval_bind_ok hwithin, eval_notify_bind, eval_ite, eval_scan]
    split
    · refine ⟨by rw [hturn]; rfl, by rw [hturn, hreport]; rfl, ?_⟩
      rw [hturn]
      exact Scan.still_error _ _ _
    · refine ⟨by rw [hturn]; rfl, by rw [hturn, hreport]; rfl, ?_⟩
      rw [hturn]
      exact .refl _

variable {model phase} in
/-- A hook that does not stop its phase has returned. -/
theorem isSome_report_of_runHook {hook : η} {job left : Job η}
    (h : eval (runHook model phase hook) job = (.ok (), left)) :
    ((⟨hook, job⟩ : Turn η).report? model phase).isSome = true := by
  have hwithin := eval_within ("Hook " ++ model.name hook ++ " failed") (model.run hook) job
  rcases hrun : eval (model.run hook) job with ⟨e | code, after⟩
  · rw [hrun] at hwithin
    rw [runHook, eval_bind_error hwithin] at h
    cases h
  · have hturn : (⟨hook, job⟩ : Turn η).run model = (.ok code, after) := hrun
    rw [Turn.report?, hturn]
    rfl

end Pipeline

/-! ## Tours -/

namespace Tour

open Pipeline

variable {η : Type} {model : HookModel η} {phase : HookPhase} {job left : Job η}
  {turns : List (Turn η)} {result : Except Failure Unit}

/-- A tour that succeeds goes on with any other one from where it ended. -/
theorem append {middle : Job η} {rest : List (Turn η)}
    (h : Tour model phase job turns (.ok ()) middle) (h' : Tour model phase middle rest result left) :
    Tour model phase job (turns ++ rest) result left := by
  generalize hok : (Except.ok () : Except Failure Unit) = ok at h
  induction h with
  | done => exact h'
  | take _ ih => exact .take (ih h' hok)
  | turn run _ ih => exact .turn run (ih h' hok)
  | failed => cases hok

/-- What grows by a part of its own with every turn grows by all these parts on a tour. -/
theorem log_eq {α : Type} (log : Job η → List α) {part : Turn η → List α}
    (htake : ∀ job, log { job with plan := job.plan.setHooks phase [] } = log job)
    (hturn : ∀ hook job, log (eval (runHook model phase hook) job).2 = log job ++ part ⟨hook, job⟩)
    (h : Tour model phase job turns result left) :
    log left = log job ++ turns.flatMap part := by
  induction h with
  | done => exact (List.append_nil _).symm
  | take _ ih => rw [ih, htake]
  | @turn hook job next turns _ _ run _ ih =>
    have hnext := hturn hook job
    rw [run] at hnext
    rw [ih, hnext, List.append_assoc, List.flatMap_cons]
  | @failed hook job left e run =>
    have hleft := hturn hook job
    rw [run] at hleft
    rw [hleft, List.flatMap_cons, List.flatMap_nil, List.append_nil]

/-- What a tour reports is what its turns report. -/
theorem events_eq (hsilent : model.Silent) (h : Tour model phase job turns result left) :
    left.events = job.events ++ turns.filterMap (Turn.report? model phase) := by
  rw [List.filterMap_eq_flatMap_toList]
  refine h.log_eq Job.events (fun _ => rfl) fun hook job => ?_
  rw [(turnKept model phase hook job).events]
  exact congrArg (· ++ _) (hsilent hook job)

/-- The programs that a tour starts are those of its turns. -/
theorem calls_eq (hmodel : model.GoesOnward) (h : Tour model phase job turns result left) :
    left.bench.machine.calls = job.bench.machine.calls ++ turns.flatMap (Turn.calls model) := by
  refine h.log_eq (fun job => job.bench.machine.calls) (fun _ => rfl) fun hook job => ?_
  rw [(turnKept model phase hook job).bench.calls]
  exact hmodel.calls_eq ⟨hook, job⟩

/-- A tour appends to the lists of the other phases what its turns have scheduled into them. -/
theorem hooks_eq (happends : model.Appends) (h : Tour model phase job turns result left)
    {other : HookPhase} (hother : other ≠ phase) :
    left.plan.hooks other =
      job.plan.hooks other ++ turns.flatMap (Turn.scheduled model other) := by
  refine h.log_eq (fun job => job.plan.hooks other) (fun job => ?_) fun hook job => ?_
  · exact job.plan.hooks_setHooks_of_ne [] hother
  · rw [(turnKept model phase hook job).plan]
    exact happends.hooks_eq other ⟨hook, job⟩

/-- In a tour that succeeds, every hook has returned. -/
theorem isSome_report (h : Tour model phase job turns (.ok ()) left) :
    ∀ t ∈ turns, (t.report? model phase).isSome = true := by
  generalize hok : (Except.ok () : Except Failure Unit) = ok at h
  induction h with
  | done => simp
  | take _ ih => exact ih hok
  | turn run _ ih => exact List.forall_mem_cons.2 ⟨isSome_report_of_runHook run, ih hok⟩
  | failed => cases hok

/-- A tour that fails does so with its last turn. -/
theorem exists_failing {e : Failure} (h : Tour model phase job turns (.error e) left) :
    ∃ before failing, turns = before ++ [failing] ∧
      (∀ t ∈ before, (eval (runHook model phase t.hook) t.job).1 = .ok ()) ∧
      (eval (runHook model phase failing.hook) failing.job).1 = .error e := by
  generalize hfailed : (Except.error e : Except Failure Unit) = failed at h
  induction h with
  | done => cases hfailed
  | take _ ih => exact ih hfailed
  | @turn hook job next turns _ _ run _ ih =>
    obtain ⟨before, failing, hturns, hbefore, hfailing⟩ := ih hfailed
    refine ⟨⟨hook, job⟩ :: before, failing, by rw [hturns]; rfl, ?_, hfailing⟩
    exact List.forall_mem_cons.2 ⟨by rw [run], hbefore⟩
  | @failed hook job left e' run =>
    cases hfailed
    exact ⟨[], ⟨hook, job⟩, rfl, by simp, by rw [run]⟩

end Tour

/-! ## Breadth first -/

namespace BreadthFirst

variable {η : Type} {model : HookModel η} {phase : HookPhase} {waiting : List η}
  {turns : List (Turn η)}

/-- Every hook has its one turn: those that waited from the start, then, in the order in which they
were scheduled, those that the turns themselves have scheduled. -/
theorem map_hook_eq (h : BreadthFirst model phase true waiting turns) :
    turns.map Turn.hook = waiting ++ turns.flatMap (Turn.scheduled model phase) := by
  generalize htrue : true = complete at h
  induction h with
  | done => rfl
  | round generation _ ih =>
    rw [List.map_append, generation, ih htrue, List.flatMap_append]
  | broken => cases htrue

end BreadthFirst

namespace Pipeline

variable {η : Type} {model : HookModel η} {phase : HookPhase}

variable (model phase) in
/-- The hooks of one generation have their turns in order until one fails; what they schedule stands
behind what was there. -/
theorem exists_tour_forM (hooks : List η) (job : Job η) :
    let run := eval (hooks.forM (runHook model phase)) job
    ∃ turns later, hooks = turns.map Turn.hook ++ later ∧ (run.1.isOk = true → later = []) ∧
      Tour model phase job turns run.1 run.2 ∧
      (model.Appends → run.2.plan.hooks phase =
        job.plan.hooks phase ++ turns.flatMap (Turn.scheduled model phase)) := by
  induction hooks generalizing job with
  | nil => exact ⟨[], [], rfl, fun _ => rfl, .done job, fun _ => (List.append_nil _).symm⟩
  | cons hook hooks ih =>
    have hcons : (hook :: hooks).forM (runHook model phase) =
      runHook model phase hook >>= fun _ => hooks.forM (runHook model phase) := rfl
    have hturn (happends : model.Appends) :
        (eval (runHook model phase hook) job).2.plan.hooks phase =
          job.plan.hooks phase ++ (⟨hook, job⟩ : Turn η).scheduled model phase := by
      rw [(turnKept model phase hook job).plan]
      exact happends.hooks_eq phase ⟨hook, job⟩
    rw [hcons]
    rcases hrun : eval (runHook model phase hook) job with ⟨e | ⟨⟩, next⟩
    · rw [eval_bind_error hrun]
      refine ⟨[⟨hook, job⟩], hooks, rfl, nofun, .failed hrun, fun happends => ?_⟩
      rw [hrun] at hturn
      rw [hturn happends, List.flatMap_cons, List.flatMap_nil, List.append_nil]
    · rw [eval_bind_ok hrun]
      -- the hooks left are run on the job that this one leaves, with what it has scheduled
      obtain ⟨turns, later, hhooks, hlater, htour, hscheduled⟩ := ih next
      refine ⟨⟨hook, job⟩ :: turns, later, ?_, hlater, .turn hrun htour, fun happends => ?_⟩
      · rw [hhooks]
        rfl
      · rw [hrun] at hturn
        rw [hscheduled happends, hturn happends, List.append_assoc, List.flatMap_cons]

variable (model phase) in
/-- Generations are run as a tour; in a forest it is breadth first, and if it succeeds, no hook of
the phase is left. -/
theorem exists_tour_runGenerations (fuel : Nat) (job : Job η) :
    let run := eval (runGenerations model phase fuel) job
    ∃ turns, Tour model phase job turns run.1 run.2 ∧
      (model.Forest phase → (∀ hook ∈ job.plan.hooks phase, model.rank hook < fuel) →
        BreadthFirst model phase run.1.isOk (job.plan.hooks phase) turns ∧
        (run.1.isOk = true → run.2.plan.hooks phase = [])) := by
  induction fuel generalizing job with
  | zero =>
    refine ⟨[], .done job, fun _ hranks => ?_⟩
    -- below the rank zero there is no hook
    have hnone : job.plan.hooks phase = [] :=
      List.eq_nil_iff_forall_not_mem.2 fun hook hmem => Nat.not_lt_zero _ (hranks hook hmem)
    rw [hnone]
    exact ⟨.done, fun _ => hnone⟩
  | succ fuel ih =>
    have htake (rest : List η → Work η Unit) :
        eval (takeHooks phase >>= rest) job = eval (rest (job.plan.hooks phase))
          { job with plan := job.plan.setHooks phase [] } := rfl
    rw [runGenerations, htake]
    rcases hhooks : job.plan.hooks phase with _ | ⟨first, others⟩
    · refine ⟨[], .take (.done _), fun _ _ => ⟨.done, fun _ => ?_⟩⟩
      exact job.plan.hooks_setHooks phase []
    rw [List.isEmpty_cons, Bool.not_false, if_pos rfl]
    set taken : Job η := { job with plan := job.plan.setHooks phase [] } with htaken
    obtain ⟨turns, later, hwaiting, hlater, htour, hscheduled⟩ :=
      exists_tour_forM model phase (first :: others) taken
    rcases hrun : eval ((first :: others).forM (runHook model phase)) taken with ⟨e | ⟨⟩, next⟩
    · rw [hrun] at htour
      rw [eval_bind_error hrun]
      exact ⟨turns, .take htour, fun _ _ => ⟨.broken hwaiting, nofun⟩⟩
    · rw [hrun] at htour hlater hscheduled
      rw [eval_bind_ok hrun]
      obtain ⟨rest, htour', hbreadth⟩ := ih next
      refine ⟨turns ++ rest, .take (htour.append htour'), fun hforest hranks => ?_⟩
      rw [hlater rfl, List.append_nil] at hwaiting
      -- the next generation is what this one has scheduled, and it is of lower rank
      have hnext : next.plan.hooks phase = turns.flatMap (Turn.scheduled model phase) := by
        rw [hscheduled hforest.appends, htaken]
        exact congrArg (· ++ _) (job.plan.hooks_setHooks phase [])
      have hlower : ∀ hook ∈ next.plan.hooks phase, model.rank hook < fuel := by
        intro hook hmem
        rw [hnext] at hmem
        obtain ⟨t, ht, hmem⟩ := List.mem_flatMap.1 hmem
        have ht' : t.hook ∈ first :: others := hwaiting ▸ List.mem_map_of_mem ht
        have := hforest.rank_lt t hook hmem
        have := hranks t.hook ht'
        omega
      obtain ⟨hrest, hempty⟩ := hbreadth hforest hlower
      rw [hnext] at hrest
      exact ⟨.round hwaiting.symm hrest, hempty⟩

/-- Every hook that is registered has its generation. -/
theorem rank_lt_generations {hooks : List η} {hook : η} (h : hook ∈ hooks) :
    model.rank hook < generations model hooks := by
  have hle : ∀ (ranks : List Nat) (bound : Nat), bound ≤ ranks.foldl max bound ∧
      ∀ rank ∈ ranks, rank ≤ ranks.foldl max bound := by
    intro ranks
    induction ranks with
    | nil => simp
    | cons rank ranks ih =>
      intro bound
      obtain ⟨hbound, hranks⟩ := ih (max bound rank)
      refine ⟨(le_max_left _ _).trans hbound, List.forall_mem_cons.2 ⟨?_, hranks⟩⟩
      exact (le_max_right _ _).trans hbound
  exact (hle _ 0).2 _ (List.mem_map_of_mem h)

variable (model phase) in
/-- The work of a phase is one tour. -/
theorem exists_tour_runHooks (job : Job η) :
    let run := eval (runHooks model phase) job
    ∃ turns ended, Tour model phase (job.reported (.phaseStarted phase.name)) turns run.1 ended ∧
      run.2 = (if run.1.isOk then ended.reported (.phaseComplete phase.name) else ended) ∧
      (model.Forest phase →
        BreadthFirst model phase run.1.isOk (job.plan.hooks phase) turns ∧
        (run.1.isOk = true → run.2.plan.hooks phase = [])) := by
  have hwork : eval (do runGenerations model phase (generations model ((← getPlan).hooks phase)))
      (job.reported (.phaseStarted phase.name)) =
        eval (runGenerations model phase (generations model (job.plan.hooks phase)))
          (job.reported (.phaseStarted phase.name)) := rfl
  obtain ⟨turns, htour, hbreadth⟩ := exists_tour_runGenerations model phase
    (generations model (job.plan.hooks phase)) (job.reported (.phaseStarted phase.name))
  have hforest := fun hforest => hbreadth hforest fun hook hmem => rank_lt_generations hmem
  rw [runHooks, eval_phase, hwork]
  rcases hrun : eval (runGenerations model phase (generations model (job.plan.hooks phase)))
    (job.reported (.phaseStarted phase.name)) with ⟨e | ⟨⟩, ended⟩
  · rw [hrun] at htour hforest
    exact ⟨turns, ended, htour, rfl, hforest⟩
  · rw [hrun] at htour hforest
    exact ⟨turns, ended, htour, rfl, hforest⟩

/-- If hooks only append to the lists of the plan, a phase goes through the forest of its hooks breadth
first, each of them having one turn. If it returns, all of them had theirs, none is left in the
phase, and their reports stand in the same order between the two of the phase. If it fails, the turn
that failed was the last one, and the phase is not reported complete. What was scheduled into other
phases stands there in the order of scheduling. -/
theorem runHooks_breadthFirst (hsilent : model.Silent) (hforest : model.Forest phase)
    (job : Job η) :
    let run := eval (runHooks model phase) job
    ∃ turns ended,
      Tour model phase (job.reported (.phaseStarted phase.name)) turns run.1 ended ∧
      BreadthFirst model phase run.1.isOk (job.plan.hooks phase) turns ∧
      (∀ other, other ≠ phase → run.2.plan.hooks other =
        job.plan.hooks other ++ turns.flatMap (Turn.scheduled model other)) ∧
      match run.1 with
      | .ok () =>
        run.2 = ended.reported (.phaseComplete phase.name) ∧
        turns.map Turn.hook =
          job.plan.hooks phase ++ turns.flatMap (Turn.scheduled model phase) ∧
        run.2.plan.hooks phase = [] ∧
        (∀ t ∈ turns, (t.report? model phase).isSome = true) ∧
        run.2.events = job.events ++ .phaseStarted phase.name ::
          turns.filterMap (Turn.report? model phase) ++ [.phaseComplete phase.name]
      | .error e =>
        run.2 = ended ∧
        (∃ before failing, turns = before ++ [failing] ∧
          (∀ t ∈ before, (eval (runHook model phase t.hook) t.job).1 = .ok ()) ∧
          (eval (runHook model phase failing.hook) failing.job).1 = .error e) ∧
        run.2.events = job.events ++ .phaseStarted phase.name ::
          turns.filterMap (Turn.report? model phase) := by
  intro run
  -- the tour is that of the loop; what the phase adds around it are its two reports
  obtain ⟨turns, ended, htour, hended, hbreadth⟩ := exists_tour_runHooks model phase job
  obtain ⟨hbreadth, hempty⟩ := hbreadth hforest
  have hevents : ended.events = job.events ++ .phaseStarted phase.name ::
      turns.filterMap (Turn.report? model phase) := by
    rw [htour.events_eq hsilent, Job.reported, List.append_assoc]
    rfl
  have hplan : run.2.plan = ended.plan := by
    rw [hended]
    split <;> rfl
  refine ⟨turns, ended, htour, hbreadth, fun other hother => ?_, ?_⟩
  · rw [hplan]
    exact htour.hooks_eq hforest.appends hother
  · rcases hresult : run.1 with e | ⟨⟩
    · -- a hook that fails ends the phase without its last report
      have hfailed : run.2 = ended := by
        rw [hended, hresult]
        rfl
      rw [hresult] at htour
      exact ⟨hfailed, htour.exists_failing, hfailed ▸ hevents⟩
    · have hcomplete : run.2 = ended.reported (.phaseComplete phase.name) := by
        rw [hended, hresult]
        rfl
      rw [hresult] at htour hbreadth hempty
      refine ⟨hcomplete, hbreadth.map_hook_eq, hempty rfl, htour.isSome_report, ?_⟩
      rw [hcomplete, Job.reported, hevents]

/-- A hook that schedules all smaller numbers, and itself into another phase: of the generations
`2, 1` and `0, 1, 0` and `0`, each waits for the one before. -/
theorem runHooks_countdown :
    let model : HookModel Nat :=
      { name := toString
        rank := id
        run := fun n => do
          modifyPlan fun p =>
            { p with
              preMockHooks := p.preMockHooks ++ List.range n
              postDepinstHooks := p.postDepinstHooks ++ [n] }
          return 0 }
    let job : Job Nat :=
      { bench := { machine := {}, record := Record.ofOptions { output := "out" } "/tmp/csmock" }
        plan := { preMockHooks := [2, 1] } }
    let run := eval (runHooks model .preMock) job
    model.Silent ∧ model.Forest .preMock ∧ run.1 = .ok () ∧
      run.2.plan.preMockHooks = [] ∧ run.2.plan.postDepinstHooks = [2, 1, 0, 1, 0, 0] ∧
      ∃ turns, BreadthFirst model .preMock true [2, 1] turns ∧
        turns.filterMap (Turn.report? model .preMock) =
          ["2", "1", "0", "1", "0", "0"].map (.hookComplete "pre-mock" · 0) := by
  intro model job run
  have hsilent : model.Silent := fun _ _ => rfl
  have hforest : model.Forest .preMock := by
    -- each hook schedules those of all lower ranks, which is why there is an end
    refine ⟨fun hook phase job => ?_, fun t hook hmem => ?_⟩
    · cases phase with
      | preMock => exact List.prefix_append _ _
      | postDepinst => exact List.prefix_append _ _
      | postInstall => exact List.prefix_rfl
      | postProcess => exact List.prefix_rfl
    · have hscheduled : t.scheduled model .preMock = List.range t.hook := List.drop_left
      rw [hscheduled] at hmem
      exact List.mem_range.1 hmem
  have hok : run.1 = .ok () := by decide +kernel
  have hevents : run.2.events = [.phaseStarted "pre-mock"] ++
      ["2", "1", "0", "1", "0", "0"].map (.hookComplete "pre-mock" · 0) ++
        [.phaseComplete "pre-mock"] := by
    decide +kernel
  have hrun : eval (runHooks model .preMock) job = (.ok (), run.2) := Prod.ext hok rfl
  have htheorem := runHooks_breadthFirst hsilent hforest job
  rw [hrun] at htheorem
  obtain ⟨turns, ended, -, hbreadth, -, -, -, -, -, hreports⟩ := htheorem
  refine ⟨hsilent, hforest, hok, by decide +kernel, by decide +kernel, turns, hbreadth, ?_⟩
  rw [hevents] at hreports
  exact (List.cons.inj (List.append_cancel_right hreports)).2.symm

end Pipeline
end ChrootScan
