import ChrootScan.Proofs.Setup.SharedSteps

/-!
# Wrappers as a whole

The steps that analyzers share, in any order, on any host and whatever it answers: the compiler
wrapper and the loader of built binaries are set up as a whole or not at all. What carries the proof
is that all steps but two take nothing away of what was set up (`Plan.Carries`).
-/

namespace ChrootScan

open Effect

variable {η : Type} {t : Nat} {p p' p'' : Plan η}

namespace Plan

/-! ## What is set up -/

/-- The variables that flags for the linker go into. -/
def linkVars : List String :=
  [FlagMatrix.addCVar, FlagMatrix.addCxxVar]

/-- The compiler wrapper of a plan is set up as a whole, with the timeout `t`, or not at all. -/
structure Wrapped (t : Nat) (p : Plan η) : Prop where
  enabled_iff_path : p.wrapEnabled = true ↔ p.wrapPath.isSome = true
  enabled_iff_captured : p.wrapEnabled = true ↔ p.env.contains wrapCaptureVar = true
  dir_entered : ∀ dir ∈ p.wrapPath, dir ∈ p.path ∧ dir ∈ p.copyInFiles
  bin_copied : p.wrapEnabled = true → wrapBin ∈ p.copyInFiles
  capture_copied : p.copyOutFiles.count wrapCaptureFile = if p.wrapEnabled then 1 else 0
  timeout : p.wrapTimeout = t
  timeout_set : p.wrapEnabled = true → p.env.get? wrapTimeoutVar = some (toString t)

/-- Built binaries of a plan are linked against the loader as a whole, or not at all. -/
structure Linked (p : Plan η) : Prop where
  wrapped : p.execEnabled = true → p.wrapEnabled = true
  installed : p.execEnabled = true → p.installs execPackage = true
  flagged : p.execEnabled = true → ∀ name ∈ linkVars, execLinkFlag ∈ FlagMatrix.held p.env name

/-- A plan has all of the compiler wrapper that another one has. -/
structure Carries (p p' : Plan η) : Prop where
  enabled : p'.wrapEnabled = p.wrapEnabled
  wrapPath : p'.wrapPath = p.wrapPath
  timeout : p'.wrapTimeout = p.wrapTimeout
  copyOut : p'.copyOutFiles = p.copyOutFiles
  path : p.path ⊆ p'.path
  copyIn : p.copyInFiles ⊆ p'.copyInFiles
  installed : p.installPkgs ⊆ p'.installPkgs
  vars : ∀ name ∈ [wrapCaptureVar, wrapTimeoutVar], p'.env.get? name = p.env.get? name
  flagged : ∀ name ∈ linkVars, FlagMatrix.held p.env name ⊆ FlagMatrix.held p'.env name

/-- At the beginning nothing is set up, so the wrapper is not half there. -/
theorem wrapped_start (t : Nat) : (start t : Plan η).Wrapped t := by
  constructor <;> simp [start, Dict.contains, Dict.get?, Dict.empty]

/-- At the beginning nothing is linked. -/
theorem linked_start (t : Nat) : (start t : Plan η).Linked :=
  ⟨nofun, nofun, nofun⟩

/-- A wrapper that is set up as a whole stays so where nothing is taken away of it. -/
theorem Wrapped.carried (h : p.Wrapped t) (hcarries : p.Carries p') : p'.Wrapped t where
  enabled_iff_path := by
    rw [hcarries.enabled, hcarries.wrapPath]
    exact h.enabled_iff_path
  enabled_iff_captured := by
    rw [hcarries.enabled, Dict.contains, hcarries.vars _ List.mem_cons_self]
    exact h.enabled_iff_captured
  dir_entered dir hdir := by
    rw [hcarries.wrapPath] at hdir
    exact (h.dir_entered dir hdir).imp (hcarries.path ·) (hcarries.copyIn ·)
  bin_copied hon := hcarries.copyIn (h.bin_copied (hcarries.enabled ▸ hon))
  capture_copied := by
    rw [hcarries.copyOut, hcarries.enabled]
    exact h.capture_copied
  timeout := hcarries.timeout.trans h.timeout
  timeout_set hon := by
    rw [hcarries.vars wrapTimeoutVar (by decide)]
    exact h.timeout_set (hcarries.enabled ▸ hon)

theorem installs_iff {pkg : String} : p.installs pkg = true ↔ pkg ∈ p.installPkgs :=
  List.contains_iff_mem

/-- Links that are there as a whole stay so where nothing is taken away of the wrapper. -/
theorem Linked.carried (h : p.Linked) (hcarries : p.Carries p')
    (hexec : p'.execEnabled = p.execEnabled) : p'.Linked where
  wrapped hlinked := hcarries.enabled.trans (h.wrapped (hexec ▸ hlinked))
  installed hlinked :=
    installs_iff.2 (hcarries.installed (installs_iff.1 (h.installed (hexec ▸ hlinked))))
  flagged hlinked name hname :=
    hcarries.flagged name hname (h.flagged (hexec ▸ hlinked) name hname)

/-! ## Setting up -/

/-- The variables that say what is set up. -/
def wrapperVars : List String :=
  [wrapCaptureVar, wrapTimeoutVar] ++ linkVars

/-- Directories, files and packages may be added. -/
theorem Carries.of_added (henabled : p'.wrapEnabled = p.wrapEnabled)
    (hwrapPath : p'.wrapPath = p.wrapPath) (htimeout : p'.wrapTimeout = p.wrapTimeout)
    (hcopyOut : p'.copyOutFiles = p.copyOutFiles) (henv : p'.env = p.env)
    (hpath : p.path ⊆ p'.path) (hcopyIn : p.copyInFiles ⊆ p'.copyInFiles)
    (hinstalled : p.installPkgs ⊆ p'.installPkgs) : p.Carries p' := by
  refine ⟨henabled, hwrapPath, htimeout, hcopyOut, hpath, hcopyIn, hinstalled, fun name _ => ?_,
    fun name _ => ?_⟩
  · rw [henv]
  · rw [henv]
    exact List.Subset.refl _

theorem Carries.refl (p : Plan η) : p.Carries p :=
  .of_added rfl rfl rfl rfl rfl (List.Subset.refl _) (List.Subset.refl _) (List.Subset.refl _)

/-- What is carried over two steps is carried over both. -/
theorem Carries.trans (h : p.Carries p') (h' : p'.Carries p'') : p.Carries p'' where
  enabled := h'.enabled.trans h.enabled
  wrapPath := h'.wrapPath.trans h.wrapPath
  timeout := h'.timeout.trans h.timeout
  copyOut := h'.copyOut.trans h.copyOut
  path := List.Subset.trans h.path h'.path
  copyIn := List.Subset.trans h.copyIn h'.copyIn
  installed := List.Subset.trans h.installed h'.installed
  vars name hname := (h'.vars name hname).trans (h.vars name hname)
  flagged name hname := List.Subset.trans (h.flagged name hname) (h'.flagged name hname)

/-- Other variables may be set freely. -/
theorem Carries.of_env {env : Env} (henv : ∀ name ∈ wrapperVars, env.get? name = p.env.get? name) :
    p.Carries { p with env := env } := by
  obtain ⟨hvars, hlink⟩ := List.forall_mem_append.1 henv
  refine ⟨rfl, rfl, rfl, rfl, List.Subset.refl _, List.Subset.refl _, List.Subset.refl _, hvars,
    fun name hname => ?_⟩
  rw [FlagMatrix.held, FlagMatrix.held, hlink name hname]
  exact List.Subset.refl _

/-- A variable of another name takes nothing away. -/
theorem Carries.of_insert {var value : String} (h : ∀ name ∈ wrapperVars, name ≠ var) :
    p.Carries { p with env := p.env.insert var value } :=
  .of_env fun name hname => Dict.get?_insert_of_ne (h name hname) _

/-- Flags are written behind those that are there. -/
theorem Carries.of_writeTo (flags : FlagMatrix) :
    p.Carries { p with env := flags.writeTo p.env } := by
  have hvars : ∀ name ∈ [wrapCaptureVar, wrapTimeoutVar], name ∉ FlagMatrix.flagVars := by decide
  have hlink : linkVars ⊆ FlagMatrix.flagVars := by decide
  refine ⟨rfl, rfl, rfl, rfl, List.Subset.refl _, List.Subset.refl _, List.Subset.refl _,
    fun name hname => ?_, fun name hname flag hflag => ?_⟩
  · exact FlagMatrix.get?_writeTo_of_not_mem (hvars name hname) flags p.env
  · exact FlagMatrix.mem_held_writeTo (hlink hname) (FlagMatrix.isItem_of_mem_held hflag)
      (.inl hflag)

/-- The compiler wrapper is set up at most once, so what is copied out is there once. -/
theorem Wrapped.withWrap (h : p.Wrapped t) (hoff : p.wrapEnabled = false) (dir : String) :
    (p.withWrap dir).Wrapped t where
  enabled_iff_path := Iff.rfl
  enabled_iff_captured := by
    have hne : wrapCaptureVar ≠ wrapTimeoutVar := by decide
    have hset : (p.withWrap dir).env.get? wrapCaptureVar = some wrapCaptureFile :=
      (Dict.get?_insert_of_ne hne _).trans (Dict.get?_insert_self _)
    rw [Dict.contains, hset]
    exact Iff.rfl
  dir_entered := by
    rintro _ ⟨⟩
    exact ⟨List.mem_cons_self, by simp [Plan.withWrap]⟩
  bin_copied _ := by simp [Plan.withWrap]
  capture_copied := by
    -- as long as the wrapper is off, the capture is not copied out
    have hcount := h.capture_copied
    rw [hoff] at hcount
    show (p.copyOutFiles ++ [wrapCaptureFile]).count wrapCaptureFile = 1
    rw [List.count_append, hcount, List.count_singleton_self]
    rfl
  timeout := h.timeout
  timeout_set _ := by
    rw [← h.timeout]
    exact Dict.get?_insert_self _

/-- The loader has nothing to do with the variables of the compiler wrapper. -/
theorem Linked.withWrap (h : p.Linked) (dir : String) : (p.withWrap dir).Linked where
  wrapped _ := rfl
  installed := h.installed
  flagged hlinked name hname := by
    have hother : ∀ name ∈ linkVars, name ≠ wrapTimeoutVar ∧ name ≠ wrapCaptureVar := by decide
    have hsame : (p.withWrap dir).env.get? name = p.env.get? name :=
      (Dict.get?_insert_of_ne (hother name hname).1 _).trans
        (Dict.get?_insert_of_ne (hother name hname).2 _)
    rw [FlagMatrix.held, hsame]
    exact h.flagged hlinked name hname

/-- Linking built binaries takes nothing away of the wrapper. -/
theorem Carries.withExec (p : Plan η) : p.Carries p.withExec := by
  have hflags := Carries.of_writeTo (p := p) (({} : FlagMatrix).append [execLinkFlag])
  exact ⟨rfl, rfl, rfl, rfl, List.Subset.refl _, List.Subset.refl _, List.subset_append_left _ _,
    hflags.vars, hflags.flagged⟩

/-- Behind the wrapper, linking is complete: the package and the flags come together. -/
theorem linked_withExec (hon : p.wrapEnabled = true) : p.withExec.Linked where
  wrapped _ := hon
  installed _ := installs_iff.2 (List.mem_append_right _ (List.mem_singleton_self _))
  flagged _ name hname := by
    have hlink : ∀ name ∈ linkVars, name ∈ FlagMatrix.flagVars ∧
        (({} : FlagMatrix).append [execLinkFlag]).flagsFor name = [execLinkFlag] := by decide
    have hitem : FlagMatrix.IsItem execLinkFlag := by
      unfold FlagMatrix.IsItem
      decide
    refine FlagMatrix.mem_held_writeTo (hlink name hname).1 hitem (.inr ?_)
    rw [(hlink name hname).2]
    exact List.mem_singleton_self execLinkFlag

/-- Wherever a directory is put into the path, the others stay. -/
theorem exists_insertPathBeforeWrap_eq (p : Plan η) (dir : String) :
    ∃ path, p.path ⊆ path ∧ p.insertPathBeforeWrap dir = { p with path := path } := by
  unfold insertPathBeforeWrap
  dsimp only
  split
  · refine ⟨_, fun entry hentry => ?_, rfl⟩
    have hprefix := List.takeWhile_prefix (l := p.path) fun d => !Text.endsWith "/cswrap" d
    rw [← List.prefix_iff_eq_append.1 hprefix] at hentry
    exact (List.mem_append.1 hentry).elim (List.mem_append_left _)
      fun hbehind => List.mem_append_right _ (List.mem_cons_of_mem _ hbehind)
  · exact ⟨_, List.subset_cons_self _ _, rfl⟩

end Plan

/-! ## One step -/

open Plan

section
variable (p : Plan η) (dir : String)

/-- Turned on once more or for the first time, the wrapper is on. -/
theorem Edit.wrapEnabled_apply_wrap : (Edit.apply p (.wrap dir)).wrapEnabled = true := by
  rw [apply]
  split
  · assumption
  · rfl

/-- Turning the wrapper on does not link anything. -/
theorem Edit.execEnabled_apply_wrap : (Edit.apply p (.wrap dir)).execEnabled = p.execEnabled := by
  rw [apply]
  split
  · rfl
  · rfl

/-- The wrapper is turned on as a whole, or stays as it was. -/
theorem Plan.Wrapped.apply_wrap {p : Plan η} (h : p.Wrapped t) :
    (Edit.apply p (.wrap dir)).Wrapped t := by
  rw [Edit.apply]
  split
  · exact h
  · exact h.withWrap (Bool.eq_false_of_not_eq_true ‹_›) dir

/-- Turning the wrapper on leaves the links as they were. -/
theorem Plan.Linked.apply_wrap {p : Plan η} (h : p.Linked) :
    (Edit.apply p (.wrap dir)).Linked := by
  rw [Edit.apply]
  split
  · exact h
  · exact h.withWrap dir

namespace SharedStep

/-- A step takes nothing away of what was set up, or sets up the compiler wrapper, or that and the
loader. -/
theorem effect_cases (step : SharedStep) :
    p.Carries (step.effect dir p) ∧ (step.effect dir p).execEnabled = p.execEnabled ∨
      step.effect dir p = Edit.apply p (.wrap dir) ∨
      step.effect dir p = (Edit.apply p (.wrap dir)).withExec := by
  cases step with
  | enableWrap => exact .inr (.inl rfl)
  | enableExec =>
    by_cases hlinked : p.execEnabled = true
    · have heffect : effect dir p enableExec = p := if_pos hlinked
      rw [heffect]
      exact .inl ⟨.refl p, rfl⟩
    · exact .inr (.inr (if_neg hlinked))
  | limitTime tools => exact .inl ⟨.of_insert (by decide), rfl⟩
  | setExecWrap argv => exact .inl ⟨.of_insert (by decide), rfl⟩
  | insertPath new =>
    obtain ⟨path, hpath, heq⟩ := exists_insertPathBeforeWrap_eq p new
    have heffect : effect dir p (insertPath new) = { p with path := path } := heq
    rw [heffect]
    exact .inl ⟨.of_added rfl rfl rfl rfl rfl hpath (List.Subset.refl _) (List.Subset.refl _), rfl⟩
  | wrapCompiler wrapper =>
    exact .inl ⟨.of_added rfl rfl rfl rfl rfl (List.subset_cons_self _ _)
      (List.subset_append_left _ _) (List.Subset.refl _), rfl⟩
  | copyInScript script =>
    exact .inl ⟨.of_added rfl rfl rfl rfl rfl (List.Subset.refl _)
      (List.subset_append_left _ _) (List.Subset.refl _), rfl⟩
  | dirsToScan tool scanBuild scanInstall =>
    refine .inl ?_
    rw [effect]
    split
    · exact ⟨.of_added rfl rfl rfl rfl rfl (List.Subset.refl _) (List.Subset.refl _)
        (List.Subset.refl _), rfl⟩
    · exact ⟨.refl p, rfl⟩
  | useCompiler cc cxx =>
    -- neither variable is one of the wrappers
    have hcc : p.Carries (Edit.apply p (.setVar "CC" cc)) := .of_insert (by decide)
    have hcxx : Plan.Carries _ (Edit.apply (Edit.apply p (.setVar "CC" cc)) (.setVar "CXX" cxx)) :=
      .of_insert (by decide)
    exact .inl ⟨(hcc.trans hcxx).trans (.of_added rfl rfl rfl rfl rfl (List.Subset.refl _)
      (List.Subset.refl _) (List.Subset.refl _)), rfl⟩
  | writeFlags flags => exact .inl ⟨.of_writeTo flags, rfl⟩

/-- Nothing that is set up is taken down. -/
theorem kept_effect (step : SharedStep) :
    (p.wrapEnabled = true → (step.effect dir p).wrapEnabled = true) ∧
      (p.execEnabled = true → (step.effect dir p).execEnabled = true) := by
  rcases step.effect_cases p dir with ⟨hcarries, hexec⟩ | heq | heq
  · exact ⟨hcarries.enabled.trans, hexec.trans⟩
  · rw [heq, Edit.execEnabled_apply_wrap]
    exact ⟨fun _ => Edit.wrapEnabled_apply_wrap p dir, id⟩
  · rw [heq]
    exact ⟨fun _ => Edit.wrapEnabled_apply_wrap p dir, fun _ => rfl⟩

/-- The effect of a shared step leaves the wrapper and the links whole. -/
theorem whole_effect {p : Plan η} (step : SharedStep) (hwrapped : p.Wrapped t)
    (hlinked : p.Linked) : (step.effect dir p).Wrapped t ∧ (step.effect dir p).Linked := by
  rcases step.effect_cases p dir with ⟨hcarries, hexec⟩ | heq | heq
  · exact ⟨hwrapped.carried hcarries, hlinked.carried hcarries hexec⟩
  · rw [heq]
    exact ⟨hwrapped.apply_wrap dir, hlinked.apply_wrap dir⟩
  · rw [heq]
    exact ⟨(hwrapped.apply_wrap dir).carried (.withExec _),
      linked_withExec (Edit.wrapEnabled_apply_wrap p dir)⟩

end SharedStep
end

/-! ## All steps -/

/-- One plan comes from another by a shared step, whether it fails or not, on some host. -/
def Plan.Step (p p' : Plan η) : Prop :=
  ∃ (σ : Type) (around : Surroundings σ) (s : σ) (step : SharedStep),
    (eval (step.run.run around) ⟨p, s⟩).2.plan = p'

/-- One plan comes from another by shared steps in some order. -/
def Plan.Reaches : Plan η → Plan η → Prop :=
  Relation.ReflTransGen Plan.Step

namespace SharedStep

variable {σ : Type} {around : Surroundings σ} {s : σ} {d' : Draft η σ}

/-- A shared step that fails leaves the plan as it was. -/
theorem plan_eq_of_error {step : SharedStep} {e : ScanError}
    (h : eval (step.run.run around) ⟨p, s⟩ = (.error e, d')) : d'.plan = p := by
  have houtcome : step.Outcome p (eval (step.run.run around) ⟨p, s⟩) := step.outcome ⟨p, s⟩
  rw [h] at houtcome
  cases houtcome
  rfl

/-- A shared step that succeeds leaves the plan with its effect. -/
theorem plan_eq_of_ok {step : SharedStep}
    (h : eval (step.run.run around) ⟨p, s⟩ = (.ok (), d')) :
    ∃ dir, d'.plan = step.effect dir p := by
  have houtcome : step.Outcome p (eval (step.run.run around) ⟨p, s⟩) := step.outcome ⟨p, s⟩
  rw [h] at houtcome
  cases houtcome with
  | done dir s => exact ⟨dir, rfl⟩

end SharedStep

/-- A step of any host leaves the plan as it was, or with the effect of the step. -/
theorem Plan.Step.eq_or_effect (h : p.Step p') :
    p' = p ∨ ∃ (step : SharedStep) (dir : String), p' = step.effect dir p := by
  obtain ⟨σ, around, s, step, rfl⟩ := h
  rcases heval : eval (step.run.run around) ⟨p, s⟩ with ⟨e | ⟨⟩, d'⟩
  · exact .inl (SharedStep.plan_eq_of_error heval)
  · obtain ⟨dir, heq⟩ := SharedStep.plan_eq_of_ok heval
    exact .inr ⟨step, dir, heq⟩

/-- What is turned on is not turned off again. -/
theorem Plan.Reaches.kept (h : p.Reaches p') :
    (p.wrapEnabled = true → p'.wrapEnabled = true) ∧
      (p.execEnabled = true → p'.execEnabled = true) := by
  induction h with
  | refl => exact ⟨id, id⟩
  | tail _ hstep ih =>
    rcases hstep.eq_or_effect with rfl | ⟨step, dir, rfl⟩
    · exact ih
    · obtain ⟨hwrap, hexec⟩ := step.kept_effect _ dir
      exact ⟨hwrap ∘ ih.1, hexec ∘ ih.2⟩

/-- In any order, shared steps leave the wrapper and the links whole. -/
theorem Plan.Reaches.whole (h : p.Reaches p') (hwrapped : p.Wrapped t) (hlinked : p.Linked) :
    p'.Wrapped t ∧ p'.Linked := by
  induction h with
  | refl => exact ⟨hwrapped, hlinked⟩
  | tail _ hstep ih =>
    rcases hstep.eq_or_effect with rfl | ⟨step, dir, rfl⟩
    · exact ih
    · exact step.whole_effect dir ih.1 ih.2

/-! ## Once is enough -/

namespace SharedStep

variable {σ σ' : Type} {around : Surroundings σ} {s : σ} {d' : Draft η σ}

/-- Once the compiler wrapper is on, turning it on does nothing, on any host. -/
theorem enableWrap_again (h : eval ((run enableWrap).run around) ⟨p, s⟩ = (.ok (), d'))
    (hlater : d'.plan.Reaches p') (around' : Surroundings σ') (s' : σ') :
    eval ((run enableWrap).run around') ⟨p', s'⟩ = (.ok (), ⟨p', s'⟩) := by
  obtain ⟨dir, heq⟩ := plan_eq_of_ok h
  have hon : d'.plan.wrapEnabled = true := by
    rw [heq]
    exact Edit.wrapEnabled_apply_wrap p dir
  exact (Setup.eval_enableWrap ⟨p', s'⟩).trans (if_pos (hlater.kept.1 hon))

/-- Once built binaries are linked, linking them does nothing, on any host. -/
theorem enableExec_again (h : eval ((run enableExec).run around) ⟨p, s⟩ = (.ok (), d'))
    (hlater : d'.plan.Reaches p') (around' : Surroundings σ') (s' : σ') :
    eval ((run enableExec).run around') ⟨p', s'⟩ = (.ok (), ⟨p', s'⟩) := by
  obtain ⟨dir, heq⟩ := plan_eq_of_ok h
  have hon : d'.plan.execEnabled = true := by
    rw [heq, effect]
    split
    · assumption
    · rfl
  exact (Setup.eval_enableExec ⟨p', s'⟩).trans (if_pos (hlater.kept.2 hon))

end SharedStep

/-- A plan that comes from the first one by shared steps, in any order, on any host. What it says of
the compiler wrapper and of built binaries is there as a whole or not at all; a step that fails
leaves it as it is; and once the compiler wrapper is on or built binaries are linked, doing so once
more changes nothing, whatever was done in between. -/
theorem Plan.shared_steps_whole (h : (Plan.start t : Plan η).Reaches p) :
    p.Wrapped t ∧ p.Linked ∧
      (∀ {σ : Type} (around : Surroundings σ) (s : σ) (step : SharedStep) (e : ScanError) d',
        eval (step.run.run around) ⟨p, s⟩ = (.error e, d') → d'.plan = p) ∧
      ∀ {σ σ' : Type} (around : Surroundings σ) (s : σ) (around' : Surroundings σ') (s' : σ'),
        ∀ step ∈ [SharedStep.enableWrap, .enableExec], ∀ d' p',
          eval (step.run.run around) ⟨p, s⟩ = (.ok (), d') → d'.plan.Reaches p' →
            eval (step.run.run around') ⟨p', s'⟩ = (.ok (), ⟨p', s'⟩) := by
  obtain ⟨hwrapped, hlinked⟩ := h.whole (wrapped_start t) (linked_start t)
  refine ⟨hwrapped, hlinked, ?failed, ?again⟩
  case failed =>
    intro σ around s step e d' herror
    exact SharedStep.plan_eq_of_error herror
  case again =>
    intro σ σ' around s around' s' step hstep d' p' hok hlater
    simp only [List.mem_cons, List.not_mem_nil, or_false] at hstep
    rcases hstep with rfl | rfl
    · exact SharedStep.enableWrap_again hok hlater around' s'
    · exact SharedStep.enableExec_again hok hlater around' s'

/-- Built binaries linked on a host that has the compiler wrapper, and flags written after that. -/
def linkedPlan : Plan Unit :=
  let host : Host.Memory :=
    ({} : Host.Memory).addCommand (Setup.wrapQuery "cswrap") "/usr/lib64/cswrap"
  let around : Surroundings Host.Memory := { host := Host.memory }
  let linked := (eval ((SharedStep.run .enableExec).run around) ⟨Plan.start 30, host⟩).2.plan
  let flags := ({} : FlagMatrix).append ["-Wl,--dynamic-linker,/lib/ld.so"]
  (eval ((SharedStep.run (.writeFlags flags)).run around) ⟨linked, host⟩).2.plan

/-- The flag for the loader stays beside another one for the same purpose. -/
theorem Plan.shared_steps_whole_linked :
    linkedPlan.execEnabled = true ∧ linkedPlan.wrapEnabled = true ∧
      execLinkFlag ∈ FlagMatrix.held linkedPlan.env FlagMatrix.addCVar ∧
      linkedPlan.env.get? wrapTimeoutVar = some "30" := by
  have hreached : (Plan.start 30 : Plan Unit).Reaches linkedPlan :=
    .tail (.single ⟨_, _, _, .enableExec, rfl⟩) ⟨_, _, _, .writeFlags _, rfl⟩
  obtain ⟨hwrapped, hlinked, -⟩ := Plan.shared_steps_whole hreached
  have hexec : linkedPlan.execEnabled = true := by decide +kernel
  have hon := hlinked.wrapped hexec
  exact ⟨hexec, hon, hlinked.flagged hexec _ List.mem_cons_self, hwrapped.timeout_set hon⟩

end ChrootScan
