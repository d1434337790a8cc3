import ChrootScan.Proofs.Pipeline.Reports

/-!
# The order of the phases

The phases that a scan has begun and completed are always the beginning of one script, each phase
completed before the next one begins, and they are all of it exactly if the phases succeed. Whether
the script has an install phase is settled by the plan that the build leaves behind. Before the
chroot is set up nothing but the first hooks starts programs.
-/

namespace ChrootScan

open Effect Work

/-! ## Scripts -/

/-- The phase that the event begins. -/
def Event.begun? : Event → Option String
  | phaseStarted phase => some phase
  | _ => none

/-- The phases begun and completed so far. -/
def Job.phaseEvents {η : Type} (job : Job η) : List Event :=
  job.events.filter Event.isPhase

/-- Phases, each completed before the next one begins. -/
def script (names : List String) : List Event :=
  names.flatMap fun name => [.phaseStarted name, .phaseComplete name]

theorem filterMap_begun_script (names : List String) :
    (script names).filterMap Event.begun? = names := by
  induction names with
  | nil => rfl
  | cons name names ih => exact congrArg (name :: ·) ih

namespace Work

variable {η α β : Type}

/-- Work on a job goes through a script of phases. Unless the script is empty, some of it is
reported, and all of it exactly if the work succeeds. -/
def Follows (script : List Event) (x : Work η α) (job : Job η) : Prop :=
  ∃ reported, (eval x job).2.phaseEvents = job.phaseEvents ++ reported ∧
    reported <+: script ∧ (script ≠ [] → reported ≠ []) ∧
    ((eval x job).1.isOk = true ↔ reported = script)

namespace Follows

variable {s s' : List Event} {x : Work η α} {f : α → Work η β} {job : Job η}

theorem pure (a : α) : Follows [] (pure a : Work η α) job :=
  ⟨[], (List.append_nil _).symm, List.prefix_rfl, id, ⟨fun _ => rfl, fun _ => rfl⟩⟩

/-- What comes second follows its own script behind that of the first part. -/
theorem bind (hx : Follows s x job)
    (hf : ∀ a job', eval x job = (.ok a, job') → Follows s' (f a) job') :
    Follows (s ++ s') (x >>= f) job := by
  obtain ⟨reported, hevents, hpart, hsome, hok⟩ := hx
  rcases hrun : eval x job with ⟨e | a, job'⟩
  · -- the first part is given up within its script, so the whole is
    rw [hrun] at hevents hok
    have hbroken : reported ≠ s := fun h => Bool.false_ne_true (hok.2 h)
    have hlonger : reported ≠ s ++ s' := by
      rintro rfl
      exact hbroken (hpart.eq_of_length_le (List.length_append ▸ Nat.le_add_right _ _))
    have hs : s ≠ [] := by
      rintro rfl
      exact hbroken (List.prefix_nil.1 hpart)
    refine ⟨reported, ?_, hpart.trans (List.prefix_append _ _), fun _ => hsome hs, ?_⟩
    · rw [eval_bind_error hrun]
      exact hevents
    · rw [eval_bind_error hrun]
      exact ⟨nofun, fun h => absurd h hlonger⟩
  · rw [hrun] at hevents hok
    obtain rfl := hok.1 rfl
    obtain ⟨reported', hevents', hpart', hsome', hok'⟩ := hf a job' hrun
    refine ⟨reported ++ reported', ?_, (List.prefix_append_right_inj _).2 hpart', ?_, ?_⟩
    · rw [eval_bind_ok hrun, hevents', hevents, List.append_assoc]
    · simp only [ne_eq, List.append_eq_nil_iff, not_and] at hsome' ⊢
      exact fun h hs => hsome' (h hs)
    · rw [eval_bind_ok hrun, hok']
      exact List.append_cancel_left_eq reported _ _ ▸ Iff.rfl

end Follows

/-- A phase reports its beginning, whatever becomes of it, and its completion if it succeeds. -/
theorem follows_phase (name : String) {x : Work η α}
    (hx : Keeps (Job.Reports (Event.isHook ·)) x) (job : Job η) :
    Follows (script [name]) (phase name x) job := by
  obtain ⟨hooks, hevents, hhook⟩ := hx (job.reported (.phaseStarted name))
  have hquiet : hooks.filter Event.isPhase = [] :=
    List.filter_eq_nil_iff.2 fun event hevent =>
      Bool.eq_false_iff.1 (Event.isPhase_of_isHook (hhook event hevent))
  have hbegun : (eval x (job.reported (.phaseStarted name))).2.phaseEvents =
      job.phaseEvents ++ [.phaseStarted name] := by
    rw [Job.phaseEvents, hevents, List.filter_append, hquiet, List.append_nil]
    exact List.filter_append _ _
  rcases hrun : eval x (job.reported (.phaseStarted name)) with ⟨e | a, job'⟩
  · rw [hrun] at hbegun
    refine ⟨[.phaseStarted name], ?_, ⟨[.phaseComplete name], rfl⟩, fun _ => by simp, ?_⟩
    · rw [eval_phase, hrun]
      exact hbegun
    · rw [eval_phase, hrun]
      exact ⟨nofun, nofun⟩
  · rw [hrun] at hbegun
    refine ⟨script [name], ?_, List.prefix_rfl, id, ?_⟩
    · rw [eval_phase, hrun]
      exact (List.filter_append _ _).trans ((congrArg (· ++ _) hbegun).trans (List.append_assoc _ _ _))
    · rw [eval_phase, hrun]
      exact ⟨fun _ => rfl, fun _ => rfl⟩

end Work

namespace Stage

variable {η : Type} {s : Stage η} {list : List (Stage η)}

/-- A stage is a phase if the plan asks for it, and nothing otherwise. -/
theorem follows_run (hs : Keeps (Job.Reports (Event.isHook ·)) s.work) (job : Job η) :
    Follows (if s.wanted job.plan then script [s.name] else []) s.run job := by
  by_cases hwanted : s.wanted job.plan = true
  · have hrun : eval s.run job = eval (phase s.name s.work) job := by
      rw [run, eval_getPlan_bind, if_pos hwanted]
    rw [if_pos hwanted, Follows, hrun]
    exact follows_phase s.name hs job
  · have hrun : eval s.run job = eval (pure ()) job := by
      rw [run, eval_getPlan_bind, if_neg hwanted]
    rw [if_neg hwanted, Follows, hrun]
    exact Follows.pure ()

/-- The script of stages on a job: each is in it if the plan asks for it that the stages before have
left behind. -/
def agenda : List (Stage η) → Job η → List Event
  | [], _ => []
  | s :: rest, job =>
    (if s.wanted job.plan then script [s.name] else []) ++ agenda rest (eval s.run job).2

/-- Where all stages are wanted, the agenda is their script. -/
theorem agenda_of_wanted (hwanted : ∀ s ∈ list, s.wanted = fun _ => true) (job : Job η) :
    agenda list job = script (list.map Stage.name) := by
  induction list generalizing job with
  | nil => rfl
  | cons s rest ih =>
    obtain ⟨hs, hrest⟩ := List.forall_mem_cons.1 hwanted
    rw [agenda, hs, if_pos rfl, ih hrest]
    rfl

/-- Stages follow their scripts one behind the other. -/
theorem follows_runAll (hlist : ∀ s ∈ list, Keeps (Job.Reports (Event.isHook ·)) s.work)
    (job : Job η) : Follows (agenda list job) (runAll list) job := by
  induction list generalizing job with
  | nil => exact .pure _
  | cons s rest ih =>
    obtain ⟨hs, hrest⟩ := List.forall_mem_cons.1 hlist
    refine (follows_run hs job).bind fun _ job' hrun => ?_
    rw [hrun]
    exact ih hrest job'

theorem runAll_append (list list' : List (Stage η)) :
    runAll (list ++ list') = runAll list >>= fun _ => runAll list' := by
  induction list with
  | nil => rfl
  | cons s rest ih =>
    rw [List.cons_append, runAll, runAll, ih, bind_assoc]

end Stage

/-! ## The phases of a scan -/

/-- A tour of hooks does not begin the chroot. -/
theorem Tour.initialized_eq {η : Type} {model : HookModel η} (hmodel : model.Confined)
    {phase : HookPhase} {job left : Job η} {turns : List (Turn η)} {result : Except Failure Unit}
    (h : Tour model phase job turns result left) :
    left.bench.chroot.initialized = job.bench.chroot.initialized := by
  have hturn (hook : η) (job : Job η) :
      (eval (Pipeline.runHook model phase hook) job).2.bench.chroot.initialized =
        job.bench.chroot.initialized := by
    rw [(Pipeline.turnKept model phase hook job).bench.chroot]
    exact hmodel.chroot hook job
  induction h with
  | done => rfl
  | take _ ih => exact ih
  | @turn hook job next _ _ _ run _ ih =>
    have hnext := hturn hook job
    rw [run] at hnext
    exact ih.trans hnext
  | @failed hook job left e run =>
    have hleft := hturn hook job
    rwa [run] at hleft

namespace Pipeline

variable {η : Type} (model : HookModel η)

/-- The stages up to the end of the build, where it is settled whether the package is installed. -/
def stagesToBuild (srpm nvr : String) : List (Stage η) :=
  (stages model srpm nvr).take 5

/-- The stages behind the install stage. -/
def stagesFromInstalled (srpm nvr : String) : List (Stage η) :=
  (stages model srpm nvr).drop 6

theorem stages_eq (srpm nvr : String) :
    stages model srpm nvr =
      stagesToBuild model srpm nvr ++ installation :: stagesFromInstalled model srpm nvr :=
  rfl

/-- The plan that the stages up to the end of the build leave behind. -/
def builtPlan (job : Job η) : Plan η :=
  match eval source job with
  | (.ok (srpm, nvr), job') => (eval (Stage.runAll (stagesToBuild model srpm nvr)) job').2.plan
  | (.error _, job') => job'.plan

/-- The names of the phases of a scan whose build has left a plan: the package is installed only if
that is needed, or if its checks are to run. -/
def phaseNames (plan : Plan η) : List String :=
  if plan.needInstall || plan.runCheck then stageNames else stageNames.filter (· ≠ "install")

/-- The phases of a scan are announced by name, installation among them only if it is wanted. -/
theorem script_phaseNames (plan : Plan η) (srpm nvr : String) :
    script (phaseNames plan) =
      script ((stagesToBuild model srpm nvr).map Stage.name) ++
        ((if (installation : Stage η).wanted plan then script [(installation : Stage η).name]
          else []) ++ script ((stagesFromInstalled model srpm nvr).map Stage.name)) := by
  have hwanted : (installation : Stage η).wanted plan = (plan.needInstall || plan.runCheck) := rfl
  rw [phaseNames, hwanted]
  split
  · rfl
  · rfl

variable {model}

/-- Once the source package is found, the phases follow their script. -/
theorem follows_runPhases (hsilent : model.Silent) {job job' : Job η} {srpm nvr : String}
    (hsource : eval source job = (.ok (srpm, nvr), job')) :
    Follows (script (phaseNames (builtPlan model job))) (runPhases model) job := by
  have hjob : job' = job := by
    have := eval_source job
    rwa [hsource] at this
  have hquiet := reports_stages hsilent srpm nvr
  rw [stages_eq] at hquiet
  obtain ⟨hbuild, hlater⟩ := List.forall_mem_append.1 hquiet
  obtain ⟨hinstall, hinstalled⟩ := List.forall_mem_cons.1 hlater
  -- all stages but the installation are wanted whatever the plan says, so their script is fixed;
  -- that of the installation depends on the plan which the build leaves
  have hwanted : ∀ s ∈ stagesToBuild model srpm nvr ++ stagesFromInstalled model srpm nvr,
      s.wanted = fun _ => true := by
    simp [stagesToBuild, stagesFromInstalled, stages, hookStage]
  obtain ⟨hwbuild, hwinstalled⟩ := List.forall_mem_append.1 hwanted
  have hrun : eval (runPhases model) job =
      eval (Stage.runAll (stagesToBuild model srpm nvr) >>= fun _ => (installation : Stage η).run >>=
        fun _ => Stage.runAll (stagesFromInstalled model srpm nvr)) job := by
    rw [runPhases_eq, eval_bind_ok hsource, hjob]
    dsimp only
    rw [stages_eq, Stage.runAll_append]
    rfl
  have hplan : builtPlan model job = (eval (Stage.runAll (stagesToBuild model srpm nvr)) job).2.plan := by
    rw [builtPlan, hsource, hjob]
  rw [Follows, hrun, script_phaseNames model _ srpm nvr, ← Stage.agenda_of_wanted hwbuild job]
  refine (Stage.follows_runAll hbuild job).bind fun _ built hbuilt => ?_
  rw [hplan, hbuilt]
  refine (Stage.follows_run hinstall built).bind fun _ installed _ => ?_
  rw [← Stage.agenda_of_wanted hwinstalled installed]
  exact Stage.follows_runAll hinstalled installed

/-! ## The first programs -/

/-- If the first hooks succeed, the phase that sets up the chroot begins. -/
theorem begun_of_preMock (hsilent : model.Silent) {job job' next : Job η} {srpm nvr : String}
    (hsource : eval source job = (.ok (srpm, nvr), job'))
    (hfirst : eval (runHooks model .preMock) job = (.ok (), next)) {reported : List Event}
    (hreported : (eval (runPhases model) job).2.phaseEvents = job.phaseEvents ++ reported) :
    .phaseStarted "chroot-init" ∈ reported := by
  have hjob : job' = job := by
    have := eval_source job
    rwa [hsource] at this
  have hquiet := reports_stages hsilent srpm nvr
  have hhooks := hquiet (hookStage model .preMock) (.head _)
  have hrest : ∀ s ∈ (stages model srpm nvr).tail, Keeps (Job.Reports (Event.isHook ·)) s.work :=
    fun s hs => hquiet s (.tail _ hs)
  -- the scan is the first hooks and what comes behind them, which has that phase in front
  have hrun : eval (runPhases model) job =
      eval (Stage.runAll (stages model srpm nvr).tail) next := by
    have hfirst' : eval (hookStage model .preMock).run job = (.ok (), next) := by
      rw [Stage.run_of_wanted rfl]
      exact hfirst
    rw [runPhases_eq, eval_bind_ok hsource, hjob]
    exact eval_bind_ok hfirst' _
  obtain ⟨before, hbefore, -⟩ := follows_phase HookPhase.preMock.name hhooks job
  obtain ⟨behind, hbehind, hpart, hsome, -⟩ := Stage.follows_runAll hrest next
  have hnext : next.phaseEvents = job.phaseEvents ++ before := by
    have hfirst' : eval (phase HookPhase.preMock.name (hookStage model .preMock).work) job =
        (.ok (), next) := hfirst
    rwa [hfirst'] at hbefore
  obtain ⟨rest, hagenda⟩ : ∃ rest, Stage.agenda (stages model srpm nvr).tail next =
      .phaseStarted "chroot-init" :: rest := ⟨_, rfl⟩
  obtain ⟨event, behind, rfl⟩ := List.exists_cons_of_ne_nil (hsome (by rw [hagenda]; simp))
  rw [hagenda, List.cons_prefix_cons] at hpart
  obtain ⟨rfl, -⟩ := hpart
  rw [hrun, hbehind, hnext, List.append_assoc] at hreported
  rw [← List.append_cancel_left hreported]
  simp

/-- The programs of the first stage are those that the first hooks start in their turns. -/
theorem calls_preMock (hmodel : model.GoesOnward) {job ended : Job η} {turns : List (Turn η)}
    {result : Except Failure Unit}
    (htour : Tour model .preMock (job.reported (.phaseStarted "pre-mock")) turns result ended)
    (hended : (eval (runHooks model .preMock) job).2.bench = ended.bench) :
    (hookStage model .preMock).calls job =
      (turns.flatMap (Turn.calls model)).map (⟨"pre-mock", ·⟩) := by
  have hcalls : (eval (hookStage model .preMock).run job).2.callsSince job =
      turns.flatMap (Turn.calls model) := by
    rw [Stage.run_of_wanted rfl, Job.callsSince]
    change (eval (runHooks model .preMock) job).2.bench.machine.calls.drop _ = _
    rw [hended, htour.calls_eq hmodel]
    exact List.drop_left
  rw [Stage.calls, hcalls]
  rfl

/-- The programs that the phases start are those of the first hooks and then those of other stages;
these there are only if the chroot was begun. -/
theorem trail_preMock (hmodel : model.Confined) (job : Job η) :
    ∃ turns result ended later,
      Tour model .preMock (job.reported (.phaseStarted "pre-mock")) turns result ended ∧
      trail model job = (turns.flatMap (Turn.calls model)).map (⟨"pre-mock", ·⟩) ++ later ∧
      (∀ c ∈ later, c.stage ∈ stageNames.tail) ∧
      ∀ reported, (eval (runPhases model) job).2.phaseEvents = job.phaseEvents ++ reported →
        .phaseStarted "chroot-init" ∉ reported → later = [] ∧
          (eval (runPhases model) job).2.bench.chroot.initialized =
            job.bench.chroot.initialized := by
  rcases hsource : eval source job with ⟨e | ⟨srpm, nvr⟩, job'⟩
  · have hjob := eval_source job
    rw [hsource] at hjob
    refine ⟨[], .ok (), _, [], .done _, by rw [trail, hsource]; rfl, by simp, fun _ _ _ => ⟨rfl, ?_⟩⟩
    rw [runPhases_eq, eval_bind_error hsource, show job' = job from hjob]
  -- looking for the source package changes nothing
  have hjob : job' = job := by
    have := eval_source job
    rwa [hsource] at this
  obtain ⟨turns, ended, htour, hended, -⟩ := exists_tour_runHooks model .preMock job
  have hbench : (eval (runHooks model .preMock) job).2.bench = ended.bench := by
    rw [hended]
    split <;> rfl
  have hcalls := calls_preMock hmodel.goesOnward htour hbench
  -- the first stage is always wanted, so its trail is that of its hooks
  have hfirst : eval (hookStage model .preMock).run job = eval (runHooks model .preMock) job := by
    rw [Stage.run_of_wanted rfl]
    rfl
  have htrail : trail model job = Stage.trail (stages model srpm nvr) job := by
    rw [trail, hsource, hjob]
  rcases hrun : eval (runHooks model .preMock) job with ⟨e | ⟨⟩, next⟩
  · -- nothing comes behind first hooks that fail, and these have not begun the chroot
    have hphases : eval (runPhases model) job = (.error e, next) := by
      rw [runPhases_eq, eval_bind_ok hsource, hjob]
      exact eval_bind_error (hfirst.trans hrun) _
    refine ⟨turns, _, ended, [], htour, ?_, by simp, fun _ _ _ => ⟨rfl, ?_⟩⟩
    · rw [htrail, stages, Stage.trail, hfirst, hrun, List.append_nil]
      exact hcalls
    · rw [hrun] at hbench
      rw [hphases, show next.bench = ended.bench from hbench]
      exact htour.initialized_eq hmodel
  · refine ⟨turns, _, ended, Stage.trail (stages model srpm nvr).tail next, htour, ?_, ?_, ?_⟩
    · rw [htrail, stages, Stage.trail, hfirst, hrun]
      exact congrArg (· ++ _) hcalls
    · exact fun c hc => Stage.stage_mem_of_mem_trail hc
    · intro reported hreported hnone
      exact absurd (begun_of_preMock hmodel.silent hsource hrun hreported) hnone

variable (model) in
/-- Cleaning up starts no program if there is no chroot. -/
theorem calls_execute (noClean : Bool) (job : Job η) :
    ∃ cleaning, (eval (execute model noClean) job).2.bench.machine.calls =
        (afterPhases model job).machine.calls ++ cleaning ∧
      ((afterPhases model job).chroot.initialized = false → cleaning = []) := by
  have hclean : Keeps Onward Chroot.clean :=
    Chroot.routine_clean.keeps Onward.routineKept
  have hbench : (eval (execute model noClean) job).2.bench =
      if !noClean && (afterPhases model job).chroot.initialized then
        (eval Chroot.clean (afterPhases model job)).2
      else afterPhases model job := by
    rw [eval_execute, bench_ending, bench_cleanUp]
    rfl
  rw [hbench]
  split
  · next h =>
    refine ⟨_, List.prefix_iff_eq_append.1 (hclean _).calls |>.symm, fun hnone => ?_⟩
    rw [hnone, Bool.and_false] at h
    cases h
  · exact ⟨[], (List.append_nil _).symm, fun _ => rfl⟩

/-- The phases that a scan reports are the beginning of one script, in which every phase is completed
before the next one begins, and all of it exactly if the phases succeed; the install phase is in it if
the plan that the build left behind asks for it. The programs started are those of the first hooks,
then those of other stages and of cleaning up; the latter two there are only if the phase that sets up
the chroot was begun. -/
theorem phases_in_order (hmodel : model.Confined) (noClean : Bool) (job : Job η)
    (hnew : job.bench.chroot.initialized = false) :
    let begun := announced job
    let names := phaseNames (builtPlan model begun)
    let left := (eval (execute model noClean) job).2
    ∃ reported turns result ended later cleaning,
      left.phaseEvents = job.phaseEvents ++ reported ∧
      reported <+: script names ∧
      reported.filterMap Event.begun? <+: names ∧
      ((eval (runPhases model) begun).1 = .ok () ↔ reported = script names) ∧
      Tour model .preMock (begun.reported (.phaseStarted "pre-mock")) turns result ended ∧
      trail model begun = (turns.flatMap (Turn.calls model)).map (⟨"pre-mock", ·⟩) ++ later ∧
      (∀ c ∈ later, c.stage ∈ stageNames.tail) ∧
      left.bench.machine.calls = job.bench.machine.calls ++ turns.flatMap (Turn.calls model) ++
        later.map StageCall.call ++ cleaning ∧
      (.phaseStarted "chroot-init" ∉ reported → later = [] ∧ cleaning = []) := by
  intro begun names left
  obtain ⟨turns, result, ended, later, htour, htrail, hlater, hnone⟩ :=
    trail_preMock hmodel begun
  obtain ⟨cleaning, hcalls, hcleaning⟩ := calls_execute model noClean job
  have hphases : (afterPhases model job).machine.calls = job.bench.machine.calls ++
      turns.flatMap (Turn.calls model) ++ later.map StageCall.call := by
    have htold := calls_runPhases model hmodel.goesOnward begun
    rw [htrail, List.map_append, List.map_map] at htold
    rw [List.append_assoc]
    refine htold.trans (congrArg (job.bench.machine.calls ++ ·) (congrArg (· ++ _) ?_))
    exact List.map_id _
  -- what is reported around the phases is not of phases
  have hevents : left.phaseEvents = (eval (runPhases model) begun).2.phaseEvents := by
    change ((eval (execute model noClean) job).2.events).filter _ = _
    rw [eval_execute, events_ending, List.filter_append]
    refine List.append_right_eq_self.2 ?_
    split <;> rfl
  have hbegun : begun.phaseEvents = job.phaseEvents := by
    change (job.events ++ _).filter _ = _
    rw [List.filter_append]
    exact List.append_nil _
  have hfollows : ∃ reported, (eval (runPhases model) begun).2.phaseEvents =
      begun.phaseEvents ++ reported ∧ reported <+: script names ∧
        ((eval (runPhases model) begun).1.isOk = true ↔ reported = script names) := by
    rcases hsource : eval source begun with ⟨e | ⟨srpm, nvr⟩, job'⟩
    · have hjob := eval_source begun
      rw [hsource] at hjob
      refine ⟨[], ?_, List.nil_prefix, ?_⟩
      · rw [runPhases_eq, eval_bind_error hsource, show job' = begun from hjob, List.append_nil]
      · rw [runPhases_eq, eval_bind_error hsource, script_phaseNames model _ "" ""]
        exact ⟨nofun, nofun⟩
    · obtain ⟨reported, hreported, hpart, -, hok⟩ := follows_runPhases hmodel.silent hsource
      exact ⟨reported, hreported, hpart, hok⟩
  obtain ⟨reported, hreported, hpart, hok⟩ := hfollows
  refine ⟨reported, turns, result, ended, later, cleaning, ?_, hpart, ?_, ?_, htour, htrail, hlater,
    ?_, fun hunbegun => ?_⟩
  · rw [hevents, hreported, hbegun]
  · rw [← filterMap_begun_script names]
    exact hpart.filterMap _
  · rw [← hok]
    rcases (eval (runPhases model) begun).1 with e | ⟨⟩
    · exact ⟨nofun, nofun⟩
    · exact ⟨fun _ => rfl, fun _ => rfl⟩
  · exact hcalls.trans (congrArg (· ++ cleaning) hphases)
  · obtain ⟨hempty, hchroot⟩ := hnone reported hreported hunbegun
    exact ⟨hempty, hcleaning (hchroot.trans hnew)⟩

/-- A hook behind the set-up asks for the checks of the package, so the scan goes through all phases;
the one program in front of the set-up is that of the first hook. -/
theorem phases_in_order_checked :
    let model : HookModel Bool :=
      { name := fun probing => if probing then "probe" else "check"
        rank := fun _ => 0
        run := fun probing => do
          if probing then
            modify fun job =>
              { job with bench := job.bench.withMachine (job.bench.machine.start ["probe"]).2 }
          else
            modifyPlan fun p => { p with runCheck := true }
          return 0 }
    let job : Job Bool :=
      { bench :=
          { machine :=
              { tree :=
                  { nodes :=
                      [(["out"], .dir), (["out", "debug"], .dir),
                        (["out", "debug", "uni-results"], .dir)] }
                behaviour := fun _ _ _ _ => .started { location := "/usr/bin/mock" } }
            record := Record.ofOptions { output := "/out" } "/tmp/csmock" }
        plan :=
          { srpm := some "demo-1-1.src.rpm", preMockHooks := [true], postDepinstHooks := [false] } }
    model.Confined ∧ job.plan.runCheck = false ∧
      (eval (execute model true) job).2.phaseEvents = script stageNames ∧
      ((trail model (announced job)).take 1).map (fun c => (c.stage, c.call.argv)) =
        [("pre-mock", ["probe"])] ∧
      ∃ turns result ended,
        Tour model .preMock ((announced job).reported (.phaseStarted "pre-mock")) turns result ended := by
  intro model job
  have hmodel : model.Confined := by
    -- one hook starts a program, the other one edits the plan, and neither does more
    refine ⟨fun probing _ => ?_, fun probing job => ?_, fun probing _ => ?_⟩
    · cases probing <;> rfl
    · cases probing
      · exact refl_of Job.Onward job
      · exact Onward.stepKept.start job.bench ["probe"]
    · cases probing <;> rfl
  have hok : (eval (runPhases model) (announced job)).1 = .ok () := by decide +kernel
  have hnames : phaseNames (builtPlan model (announced job)) = stageNames := by decide +kernel
  obtain ⟨reported, turns, result, ended, later, cleaning, hevents, -, -, hall, htour, -⟩ :=
    phases_in_order hmodel true job rfl
  rw [hnames] at hall
  refine ⟨hmodel, rfl, ?_, by decide +kernel, turns, result, ended, htour⟩
  rw [hevents, hall.1 hok]
  rfl

end Pipeline
end ChrootScan
