import ChrootScan.Proofs.Pipeline.Onward
import ChrootScan.Proofs.Record.Routine

/-!
# Phases are routine

Everything that a phase does besides its hooks is routine work: in the chroot, with the findings, and
in the phases themselves.
-/

namespace ChrootScan

open Effect Work

variable {marks : Prop}

/-! ## Routine work on a job -/

/-- A relation holds between the benches of two jobs. -/
def Job.Across {η : Type} (R : Bench → Bench → Prop) (job job' : Job η) : Prop :=
  R job.bench job'.bench

instance {η : Type} (R : Bench → Bench → Prop) [IsPreorder Bench R] :
    IsPreorder (Job η) (Job.Across R) where
  refl job := refl_of R job.bench
  trans _ _ _ := trans_of R

/-- If the failure is for good, it carries the code on record, which is not zero. -/
def Failure.Accounted (f : Failure) (ec : Int) : Prop :=
  f.isFatal = true → f.scanError? = some (.fatal ec) ∧ 1 ≤ ec

namespace Work

variable {η α β : Type}

/-- Work leaves a sound bench sound, and if it fails for good, then with the code on record. -/
structure Accounts (x : Work η α) : Prop where
  sound : ∀ job, job.bench.Sound → (eval x job).2.bench.Sound
  accounted : ∀ job, job.bench.Sound → ∀ e, (eval x job).1 = .error e →
    e.Accounted (eval x job).2.bench.record.ec

/-- Work on a job that is put together from the steps of phases and hooks; nothing in it is
reported. -/
inductive Routine (marks : Prop) : {α : Type} → Work η α → Prop
  | pure {α : Type} (a : α) : Routine marks (pure a)
  | bind {α β : Type} {x : Work η α} {f : α → Work η β} (hx : Routine marks x)
      (hf : ∀ a, Routine marks (f a)) : Routine marks (x >>= f)
  /-- What is done depends on the job. -/
  | depends {α : Type} {x : Work η α} (y : Job η → Work η α) (hy : ∀ job, Routine marks (y job))
      (hx : ∀ job, eval x job = eval (y job) job) : Routine marks x
  /-- A failure that is not on record. -/
  | refuse {α : Type} {e : Failure} (he : e.isFatal = false) : Routine marks (throw e : Work η α)
  | scan {α : Type} {x : Scan α} (hx : Scan.Routine marks x) : Routine marks (scan x)
  | modifyPlan (f : Plan η → Plan η) : Routine marks (modifyPlan f)
  | changingFiles (f : FileTree → Except SystemError FileTree) : Routine marks (changingFiles f)
  | request (url : String) : Routine marks (request url)
  | within {α : Type} {x : Work η α} (context : String) (hx : Routine marks x) :
      Routine marks (within context x)

namespace Accounts

/-- Work that leaves the bench alone and cannot fail. -/
theorem of_ok {x : Work η α} (hx : ∀ job, ∃ a plan events,
    eval x job = (.ok a, { job with plan := plan, events := events })) : Accounts x := by
  refine ⟨fun job h => ?_, fun job _ e he => ?_⟩
  · obtain ⟨a, plan, events, hrun⟩ := hx job
    rw [hrun]
    exact h
  · obtain ⟨a, plan, events, hrun⟩ := hx job
    rw [hrun] at he
    cases he

/-- Work without effect needs no account. -/
theorem pure (a : α) : Accounts (pure a : Work η α) :=
  of_ok fun _ => ⟨a, _, _, rfl⟩

/-- The second part is accounted for from the bench that the first one leaves, and a failure of the
first is that of both. -/
theorem bind {x : Work η α} {f : α → Work η β} (hx : Accounts x) (hf : ∀ a, Accounts (f a)) :
    Accounts (x >>= f) := by
  refine ⟨fun job h => ?_, fun job h e he => ?_⟩
  · have hsound := hx.sound job h
    rcases hrun : eval x job with ⟨e | a, job'⟩
    · rw [hrun] at hsound
      rwa [eval_bind_error hrun]
    · rw [hrun] at hsound
      rw [eval_bind_ok hrun]
      exact (hf a).sound job' hsound
  · have hsound := hx.sound job h
    have haccounted := hx.accounted job h
    rcases hrun : eval x job with ⟨e' | a, job'⟩
    · rw [hrun] at haccounted
      rw [eval_bind_error hrun] at he ⊢
      cases he
      exact haccounted _ rfl
    · rw [hrun] at hsound
      rw [eval_bind_ok hrun] at he ⊢
      exact (hf a).accounted job' hsound e he

/-- Work that depends on a condition accounts for itself if either way does. -/
theorem ite {c : Prop} [Decidable c] {x y : Work η α} (hx : Accounts x) (hy : Accounts y) :
    Accounts (if c then x else y) := by
  split
  · exact hx
  · exact hy

/-- Work for each item of a list accounts for itself if that for a single one does. -/
theorem forM {f : β → Work η PUnit} (hf : ∀ b, Accounts (f b)) (list : List β) :
    Accounts (list.forM f) := by
  induction list with
  | nil => exact .pure _
  | cons b list ih => exact (hf b).bind fun _ => ih

/-- A failure that is not for good carries no code. -/
theorem refuse {e : Failure} (he : e.isFatal = false) : Accounts (throw e : Work η α) := by
  refine ⟨fun _ h => h, fun _ _ _ h hfatal => ?_⟩
  cases h
  rw [he] at hfatal
  cases hfatal

/-- Routine work on the record accounts for itself: a code that it carries is on record already. -/
theorem scan {x : Scan α} (hx : Scan.Routine marks x) : Accounts (scan x : Work η α) := by
  refine ⟨fun job h => ?_, fun job h e he hfatal => ?_⟩
  · rw [eval_scan]
    exact hx.sound h
  · rw [eval_scan] at he ⊢
    rcases hresult : (eval x job.bench).1 with cause | a
    · rw [hresult] at he
      cases he
      obtain ⟨rfl, hpos⟩ := hx.accounted h hresult hfatal
      exact ⟨rfl, hpos⟩
    · rw [hresult] at he
      cases he

/-- The context of a failure is text, so it does not touch the code. -/
theorem within {x : Work η α} (context : String) (hx : Accounts x) :
    Accounts (within context x) := by
  refine ⟨fun job h => ?_, fun job h e he => ?_⟩
  · rw [eval_within]
    exact hx.sound job h
  · rw [eval_within] at he ⊢
    rcases hresult : (eval x job).1 with cause | a
    · rw [hresult] at he
      cases he
      exact hx.accounted job h cause hresult
    · rw [hresult] at he
      cases he

theorem getPlan : Accounts (getPlan : Work η (Plan η)) :=
  of_ok fun job => ⟨job.plan, _, _, rfl⟩

theorem notify (event : Event) : Accounts (notify event : Work η Unit) :=
  of_ok fun _ => ⟨(), _, _, rfl⟩

theorem modifyPlan (f : Plan η → Plan η) : Accounts (modifyPlan f : Work η Unit) :=
  of_ok fun _ => ⟨(), _, _, rfl⟩

/-- What the network sends is no answer to trust, but a request changes nothing on record. -/
theorem request (url : String) : Accounts (request url : Work η Reply) where
  sound _ h := ⟨h.exits, h.nonneg, h.metadataOpen⟩
  accounted _ _ _ he := by cases he

/-- The two reports around a phase are no work on the bench. -/
theorem phase {x : Work η α} (name : String) (hx : Accounts x) : Accounts (phase name x) :=
  (notify _).bind fun _ => hx.bind fun _ => (notify _).bind fun _ => .pure _

end Accounts

/-- A change of the files is done or refused. -/
theorem eval_changingFiles (f : FileTree → Except SystemError FileTree) (job : Job η) :
    eval (changingFiles f : Work η Unit) job = match f job.bench.machine.tree with
      | .ok tree => (.ok (), { job with bench := job.bench.withTree tree })
      | .error e => (.error (Failure.ofSystem e), job) := by
  have hfiles (rest : FileTree → Work η Unit) :
      eval (getFiles >>= rest) job = eval (rest job.bench.machine.tree) job := rfl
  rw [changingFiles, hfiles]
  rcases f job.bench.machine.tree with e | tree
  · rfl
  · rfl

namespace Routine

theorem get : Routine marks (get : Work η (Job η)) :=
  .depends (fun job => Pure.pure job) (fun _ => .pure _) fun _ => rfl

theorem getPlan : Routine marks (getPlan : Work η (Plan η)) :=
  .depends (fun job => Pure.pure job.plan) (fun _ => .pure _) fun _ => rfl

theorem getRecord : Routine marks (getRecord : Work η Record) :=
  .depends (fun job => Pure.pure job.bench.record) (fun _ => .pure _) fun _ => rfl

theorem getFiles : Routine marks (getFiles : Work η FileTree) :=
  .depends (fun job => Pure.pure job.bench.machine.tree) (fun _ => .pure _) fun _ => rfl

theorem ite {c : Prop} [Decidable c] {x y : Work η α} (hx : Routine marks x)
    (hy : Routine marks y) : Routine marks (if c then x else y) := by
  split
  · exact hx
  · exact hy

/-- What every step keeps, routine work keeps. -/
theorem keeps {R : Bench → Bench → Prop} [IsPreorder Bench R] (hR : RoutineKept R marks)
    {x : Work η α} (hx : Routine marks x) : Keeps (Job.Across R) x := by
  induction hx with
  | pure a => exact .pure a
  | bind _ _ ihx ihf => exact ihx.bind ihf
  | depends y _ hx ih =>
    intro job
    rw [hx]
    exact ih job job
  | refuse => exact .throw _
  | scan hx =>
    intro job
    rw [Job.Across, bench_scan]
    exact hx.keeps hR job.bench
  | modifyPlan f => exact fun job => refl_of R job.bench
  | changingFiles f =>
    intro job
    rw [eval_changingFiles]
    rcases f job.bench.machine.tree with e | tree
    · exact refl_of R job.bench
    · exact hR.withTree job.bench tree
  | request url => exact fun job => hR.request job.bench url
  | within context _ ih =>
    intro job
    rw [eval_within]
    exact ih job

/-- Routine work reports nothing. -/
theorem events_eq {x : Work η α} (hx : Routine marks x) (job : Job η) :
    (eval x job).2.events = job.events := by
  induction hx generalizing job with
  | pure => rfl
  | @bind _ _ x f _ _ ihx ihf =>
    have hevents := ihx job
    rcases hrun : eval x job with ⟨e | a, job'⟩
    · rw [hrun] at hevents
      rw [eval_bind_error hrun, hevents]
    · rw [hrun] at hevents
      rw [eval_bind_ok hrun, ihf a job', hevents]
  | depends y _ hx ih => rw [hx, ih job job]
  | refuse => rfl
  | scan => rw [eval_scan]
  | modifyPlan => rfl
  | changingFiles f =>
    rw [eval_changingFiles]
    rcases f job.bench.machine.tree with e | tree
    · rfl
    · rfl
  | request => rfl
  | within context _ ih => rw [eval_within, ih job]

/-- Routine work accounts for itself, by its steps. -/
theorem accounts {x : Work η α} (hx : Routine marks x) : Accounts x := by
  induction hx with
  | pure a => exact .pure a
  | bind _ _ ihx ihf => exact ihx.bind ihf
  | depends y _ hx ih =>
    refine ⟨fun job h => ?_, fun job h e he => ?_⟩
    · rw [hx]
      exact (ih job).sound job h
    · rw [hx] at he ⊢
      exact (ih job).accounted job h e he
  | refuse he => exact .refuse he
  | scan hx => exact .scan hx
  | modifyPlan f => exact .modifyPlan f
  | changingFiles f =>
    -- a change of the files that is refused is a failure, but not for good
    refine ⟨fun job h => ?_, fun job h e he hfatal => ?_⟩
    · rw [eval_changingFiles]
      rcases f job.bench.machine.tree with e | tree
      · exact h
      · exact h.withTree tree
    · rw [eval_changingFiles] at he
      rcases hf : f job.bench.machine.tree with cause | tree
      · rw [hf] at he
        cases he
        cases hfatal
      · rw [hf] at he
        cases he
  | request url => exact .request url
  | within context _ ih => exact ih.within context

end Routine
end Work

/-! ## Work in the chroot -/

namespace Chroot

theorem routine_exec (args : List String) : Scan.Routine marks (exec args) :=
  .bind .get fun _ => .exec _

theorem routine_execBuilder (command : String) : Scan.Routine marks (execBuilder command) :=
  routine_exec _

/-- Files that cannot be copied in are errors, one by one. -/
theorem routine_copyIn (files : List String) : Scan.Routine marks (copyIn files) :=
  .forM (fun _ => (routine_exec _).bind fun _ => .ite (.error _ _) (.pure _)) _

/-- What is copied out of the chroot gets its directory first. -/
theorem routine_copyOut (path : String) : Scan.Routine marks (copyOut path) := by
  refine .bind .getRecord fun r => ?_
  dsimp only
  rcases Path.parent? (r.rawPath path) with _ | parent
  · exact routine_exec _
  · exact .bind (.changingFiles _) fun _ => routine_exec _

/-- Asking where the chroot lives is a question that has to be answered. -/
theorem routine_findRoot : Scan.Routine True findRoot := by
  let question (b : Bench) : Shell.Command := .argv (b.chroot.call ["--print-root-path"])
  let text := "failed to get the root path of the chroot"
  refine .depends (fun b => Scan.demand (question b) text >>= fun out =>
    modify fun b => { b with
      chroot := { b.chroot with root := some (Text.dropTrailing '/' (Text.trim out)) } }) ?_ ?_
  · exact fun b => .bind (.demand _ _) fun out =>
      .mark trivial fun c => { c with root := some (Text.dropTrailing '/' (Text.trim out)) }
  · intro b
    rw [findRoot, eval_get_bind, Scan.demand, eval_bind, eval_bind, eval_bind]
    rcases eval (Scan.output (question b)) b with ⟨e | ⟨code, out⟩, b'⟩
    · rfl
    · by_cases hzero : code = 0
      · simp only [hzero, ne_eq, not_true_eq_false, if_false, eval_pure]
      · simp only [ne_eq, hzero, not_false_eq_true, if_true]
        rfl

/-- Setting the chroot up marks it, and gives the scan up if it fails. -/
theorem routine_init : Scan.Routine True init :=
  .bind (.mark trivial fun c => { c with initialized := true }) fun _ =>
    (routine_exec _).bind fun _ => .ite (.failFatal _ le_rfl) (.pure _)

/-- Packages are installed, or the scan is given up. -/
theorem routine_install (pkgs : List String) : Scan.Routine marks (install pkgs) :=
  .ite ((routine_exec _).bind fun _ => .ite (.failFatal _ le_rfl) (.pure _)) (.pure _)

theorem routine_clean : Scan.Routine marks clean :=
  (routine_exec _).bind fun _ => .ite (.error _ _) (.pure _)

end Chroot

/-! ## Findings -/

namespace Findings

variable {η : Type} (plan : Plan η)

theorem routine_runShell (command : String) : Scan.Routine marks (runShell command) :=
  .exec _

/-- What was captured is filtered if there is any, and filters that fail are an error. -/
theorem routine_processCapture : Scan.Routine marks (processCapture plan) := by
  refine .bind .getRecord fun _ => .bind .files fun _ => ?_
  exact .ite ((routine_runShell _).bind fun _ => .ite (.error _ _) (.pure _)) (.pure _)

/-- Findings that cannot be merged are an error, and the scan goes on. -/
theorem routine_merge : Scan.Routine marks merge := by
  refine .bind .getRecord fun r => .bind .files fun t => ?_
  rcases filesIn t r.uniDir with e | inputs
  · exact .refuse rfl
  · refine .bind (.print _) fun _ => (routine_runShell _).bind fun _ => ?_
    exact .ite (.bind (.error _ _) fun _ => .pure _) (.pure _)

/-- Installing the filters for known false positives is routine, up to what becomes of the plan. -/
theorem exists_routine_installKnown (b : Bench) :
    ∃ y : Scan Unit, Scan.Routine marks y ∧ ∃ plan',
      act (installKnown plan) b = (((eval y b).1, plan'), (eval y b).2) := by
  have hput (list : String) : act (Scan.putMetadata "known-false-positives" list).run b =
      eval (Scan.putMetadata "known-false-positives" list) b := rfl
  have hfiles (b : Bench) : act Scan.files b = (b.machine.tree, b) := rfl
  unfold installKnown
  rcases plan.knownFalsePositives with _ | list
  · exact ⟨pure (), .pure _, _, rfl⟩
  dsimp only
  rw [act_bind, hput]
  rcases hrun : eval (Scan.putMetadata "known-false-positives" list) b with ⟨e | ⟨⟩, b'⟩
  · exact ⟨_, .putMetadata _ _, _, by rw [hrun]; rfl⟩
  dsimp only
  rcases plan.pkg.bind (exclusionsFile? list) with _ | file
  · exact ⟨_, .putMetadata _ _, _, by rw [hrun]; rfl⟩
  dsimp only
  rw [act_bind, hfiles]
  split
  · exact ⟨_, .putMetadata _ _, _, by rw [hrun]; rfl⟩
  rw [act_bind, hfiles]
  dsimp only
  split
  · next e _ =>
    exact ⟨Scan.putMetadata "known-false-positives" list >>= fun _ => throw (.system e),
      .bind (.putMetadata _ _) fun _ => .refuse rfl, _, by rw [eval_bind_ok hrun]; rfl⟩
  · exact ⟨_, .putMetadata _ _, _, by rw [hrun]; rfl⟩

theorem routine_transform (js : String) : Scan.Routine marks (transform js) :=
  .bind (.forM (fun _ => (routine_runShell _).bind fun _ => .pure _) _) fun _ => .pure _

theorem routine_showText (text : String) : Scan.Routine marks (showText text) := by
  refine .bind (.runInherited _) fun answer => ?_
  cases answer with
  | ok => exact .pure _
  | error => exact .error _ _

/-- Important findings are tagged before any are rendered, and tags that cannot be set are an error.
-/
theorem routine_finalize (js : String) : Scan.Routine marks (finalize plan js) := by
  have hrender : Scan.Routine marks (do
      let text ← transform js
      if plan.printDefects then showText text) :=
    (routine_transform js).bind fun _ => .ite (routine_showText _) (.pure _)
  refine .ite ?_ hrender
  refine (routine_runShell _).bind fun _ => (routine_runShell _).bind fun _ => ?_
  refine .ite (.bind (.error _ _) fun _ => ?all) ?all
  exact (routine_transform _).bind fun _ => hrender

/-- The findings that are left out are rendered before those that are kept. -/
theorem routine_apply (suppressed : List String) : Scan.Routine marks (apply plan suppressed) := by
  refine .bind .getRecord fun _ => (routine_runShell _).bind fun _ => ?_
  refine (routine_runShell _).bind fun _ => (routine_finalize plan _).bind fun _ => ?_
  refine (routine_finalize plan _).bind fun _ => .ite (.forM (fun _ => ?_) _) (.pure _)
  exact .bind .getRecord fun _ => .bind (.exec _) fun _ => .pure _

end Findings

/-! ## Phases -/

namespace Pipeline

variable {η : Type}

/-- The chroot is set up, filled and looked at before anything is built, and a step that fails for
good gives the scan up. -/
theorem routine_initChroot (srpm nvr : String) (plan : Plan η) :
    Scan.Routine True (initChroot srpm nvr plan) := by
  refine Chroot.routine_init.bind fun _ => Chroot.routine_findRoot.bind fun _ => ?_
  refine (Chroot.routine_install _).bind fun _ => (Chroot.routine_exec _).bind fun _ => ?_
  refine .ite (.bind (.failFatal _ le_rfl) fun _ => ?list) ?list
  refine .bind .getRecord fun _ => .bind .get fun _ => ?_
  refine .bind (.exec _) fun _ => .ite (.bind (.error _ _) fun _ => ?entries) ?entries
  refine .bind .get fun _ => .bind (.putMetadata _ _) fun _ => ?_
  exact .bind (.putMetadata _ _) fun _ => Chroot.routine_copyIn _

/-- The sources are prepared and built; only the last of these commands may fail without the scan
being given up. -/
theorem routine_build (srpm nvr : String) (plan : Plan η) :
    Scan.Routine marks (build srpm nvr plan) := by
  refine (Chroot.routine_exec _).bind fun _ => ?_
  refine .ite (.bind (.failFatal _ le_rfl) fun _ => ?prepare) ?prepare
  refine (Chroot.routine_execBuilder _).bind fun _ => ?_
  refine .ite (.bind (.failFatal _ le_rfl) fun _ => ?make) ?make
  exact (Chroot.routine_execBuilder _).bind fun _ => .ite (.error _ _) (.pure _)

theorem routine_afterBuild (command : String) : Scan.Routine marks (afterBuild command) :=
  (Chroot.routine_execBuilder _).bind fun _ => .ite (.error _ _) (.pure _)

theorem routine_installStage (plan : Plan η) : Scan.Routine marks (installStage plan) :=
  (Chroot.routine_execBuilder _).bind fun _ => .ite (.error _ _) (.pure _)

theorem routine_copyOut (path : String) : Scan.Routine marks (copyOut path) :=
  (Chroot.routine_copyOut _).bind fun _ => .ite (.print _) (.pure _)

/-- Collecting the findings is routine, although filters are put in place between two steps of it.
-/
theorem routine_collect : Work.Routine marks (collect : Work η Unit) := by
  refine .bind .getPlan fun plan => .bind (.scan (Findings.routine_processCapture plan)) fun _ => ?_
  -- the filters are put in place between two steps that may fail, and what becomes of the plan is
  -- kept either way
  choose y hy plan' hrun using @Findings.exists_routine_installKnown marks η
  refine .depends (fun job => do
    modifyPlan fun _ => plan' job.plan job.bench
    scan (y job.plan job.bench)
    let _ ← scan Findings.merge
    scan (Findings.apply (← getPlan) [])) (fun job => ?_) fun job => ?_
  · refine .bind (.modifyPlan _) fun _ => .bind (.scan (hy _ _)) fun _ => ?_
    refine .bind (.scan Findings.routine_merge) fun _ => .bind .getPlan fun _ => ?_
    exact .scan (Findings.routine_apply _ _)
  · have hact : (Findings.installKnown job.plan).run job.bench =
        (((eval (y job.plan job.bench) job.bench).1, plan' job.plan job.bench),
          (eval (y job.plan job.bench) job.bench).2) := hrun job.plan job.bench
    rw [eval_get_bind, hact, modifyPlan, eval_modify_bind]
    dsimp only
    rw [eval_set_bind, eval_bind _ (scan (y job.plan job.bench)), eval_scan]
    rcases eval (y job.plan job.bench) job.bench with ⟨e | ⟨⟩, bench⟩
    · rfl
    · rfl

/-- The chroot is cleaned or left alone. -/
theorem routine_cleanUp (noClean : Bool) : Work.Routine marks (cleanUp noClean : Work η Unit) :=
  .bind .get fun _ => .ite (.scan Chroot.routine_clean) (.pure _)

end Pipeline

end ChrootScan
