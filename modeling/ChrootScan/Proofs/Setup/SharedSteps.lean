import ChrootScan.Proofs.Flags.Writing
import ChrootScan.Proofs.Setup.Edits

/-!
# Steps that analyzers share

Analyzers change the wrappers of a plan by a few steps that several of them use, in any order.
`SharedStep` lists these. Each either fails and leaves the plan as it was, or has the effect that
`SharedStep.effect` says. What a plan says of the compiler wrapper is there as a whole or not at all
(`Plan.Wrapped`), likewise what it says of built binaries (`Plan.Linked`), whatever the host
answers.
-/

namespace ChrootScan

open Effect Setup

/-- A step of configuration that analyzers share. -/
inductive SharedStep
  | enableWrap
  | enableExec
  | limitTime (tools : List String)
  | setExecWrap (argv : List String)
  | insertPath (dir : String)
  | wrapCompiler (wrapper : String)
  | copyInScript (script : String)
  | dirsToScan (tool : String) (scanBuild scanInstall : Option Bool)
  | useCompiler (cc cxx : String)
  | writeFlags (flags : FlagMatrix)

namespace SharedStep

variable {η σ : Type} {around : Surroundings σ}

/-- What a step does, its answer left out. -/
def run : SharedStep → Setup η σ Unit
  | enableWrap => Setup.enableWrap
  | enableExec => Setup.enableExec
  | limitTime tools => Setup.limitTime tools
  | setExecWrap argv => Setup.setExecWrap argv
  | insertPath dir => modifyPlan fun p => p.insertPathBeforeWrap dir
  | wrapCompiler wrapper => do let _ ← Setup.wrapCompiler wrapper
  | copyInScript script => do let _ ← Setup.copyInScript script
  | dirsToScan tool scanBuild scanInstall => do
    let _ ← Setup.dirsToScan tool scanBuild scanInstall
  | useCompiler cc cxx => Setup.useCompiler cc cxx
  | writeFlags flags => Setup.writeFlags flags

/-- The plan behind a step that succeeds, where `dir` is the directory of a wrapper that the host
reports if it is asked. -/
def effect (dir : String) (p : Plan η) : SharedStep → Plan η
  | enableWrap => Edit.apply p (.wrap dir)
  | enableExec => if p.execEnabled then p else (Edit.apply p (.wrap dir)).withExec
  | limitTime tools => p.addWrapTimeoutFor tools
  | setExecWrap argv => Edit.apply p (.execWrap argv)
  | insertPath dir => p.insertPathBeforeWrap dir
  | wrapCompiler wrapper =>
    Edit.apply (Edit.apply p (.enterPath dir)) (.copyIn ["/usr/bin/" ++ wrapper, dir])
  | copyInScript script => Edit.apply p (.copyIn [script])
  | dirsToScan _ _ scanInstall =>
    if scanInstall.getD (!p.shellCmd.isSome) then Edit.apply p .needInstall else p
  | useCompiler cc cxx =>
    Edit.apply (Edit.apply (Edit.apply p (.setVar "CC" cc)) (.setVar "CXX" cxx))
      (.define (["__cc " ++ cc, "__cxx " ++ cxx, "__cpp " ++ cc ++ " -E"].flatMap
        fun d => ["--define", d]))
  | writeFlags flags => Edit.apply p (.writeFlags flags)

/-- The outcome of a step: an error with the plan as it was, or the effect of the step. -/
inductive Outcome (step : SharedStep) (p : Plan η) : Except ScanError Unit × Draft η σ → Prop
  | failed (e : ScanError) (s : σ) : Outcome step p (.error e, ⟨p, s⟩)
  | done (dir : String) (s : σ) : Outcome step p (.ok (), ⟨step.effect dir p, s⟩)

/-- A plan that is the effect of a step is an outcome of it, with any state of the host. -/
theorem Outcome.of_effect {step : SharedStep} {p p' : Plan η} {dir : String}
    (h : step.effect dir p = p') (s : σ) : Outcome step p (.ok (), ⟨p', s⟩) :=
  h ▸ .done dir s

/-- The compiler wrapper is turned on with the directory that the host reports; if it reports none,
the plan stays as it was. -/
theorem outcome_enableWrap (d : Draft η σ) :
    Outcome enableWrap d.plan (eval (Setup.enableWrap.run around) d) := by
  rw [eval_enableWrap]
  by_cases hon : d.plan.wrapEnabled = true
  · have heffect : effect "" d.plan enableWrap = d.plan := if_pos hon
    rw [if_pos hon]
    exact .of_effect heffect d.host
  · rw [if_neg hon]
    rcases around.host.commandOutput (wrapQuery "cswrap") d.host with ⟨_ | dir, s⟩
    · exact .failed _ s
    · have heffect : effect dir d.plan enableWrap = d.plan.withWrap dir := if_neg hon
      exact .of_effect heffect s

/-- Built binaries are watched once the compiler wrapper is on, and a failure of the latter changes
nothing. -/
theorem outcome_enableExec (d : Draft η σ) :
    Outcome enableExec d.plan (eval (Setup.enableExec.run around) d) := by
  rw [eval_enableExec]
  by_cases hlinked : d.plan.execEnabled = true
  · have heffect : effect "" d.plan enableExec = d.plan := if_pos hlinked
    rw [if_pos hlinked]
    exact .of_effect heffect d.host
  · rw [if_neg hlinked]
    -- the plan is changed only once the compiler wrapper is on
    have houtcome : Outcome enableWrap d.plan
        (eval ((Setup.enableWrap : Setup η σ Unit).run around) d) := outcome_enableWrap d
    rcases hwrap : eval ((Setup.enableWrap : Setup η σ Unit).run around) d with ⟨result, t⟩
    rw [hwrap] at houtcome
    cases houtcome with
    | failed e s => exact .failed e s
    | done dir s =>
      have heffect : effect dir d.plan enableExec = (Edit.apply d.plan (.wrap dir)).withExec :=
        if_neg hlinked
      exact .of_effect heffect s

/-- The wrapper of built binaries is set only if none is there; otherwise the step fails. -/
theorem outcome_setExecWrap (argv : List String) (d : Draft η σ) :
    Outcome (setExecWrap argv) d.plan (eval ((Setup.setExecWrap argv).run around) d) := by
  rw [Setup.setExecWrap, eval_getPlan_bind]
  unfold Plan.setExecWrap
  by_cases howned : d.plan.env.contains Plan.execWrapVar = true
  · rw [if_pos howned]
    exact .failed _ d.host
  · rw [if_neg howned]
    exact .done "" d.host

/-- A wrapper is entered and copied in together, or not at all if the host does not know it. -/
theorem outcome_wrapCompiler (wrapper : String) (d : Draft η σ) :
    Outcome (wrapCompiler wrapper) d.plan
      (eval ((run (wrapCompiler wrapper)).run around) d) := by
  have heval : eval ((Setup.wrapCompiler wrapper : Setup η σ String).run around) d = _ :=
    eval_wrapCompiler wrapper d
  rcases hanswer : around.host.commandOutput (wrapQuery wrapper) d.host with ⟨_ | dir, s⟩
  · rw [hanswer] at heval
    have hrun := eval_bind_error heval fun _ => pure ()
    exact hrun ▸ .failed _ s
  · rw [hanswer] at heval
    exact (eval_bind_ok heval fun _ => pure ()) ▸ .done dir s

/-- A script is copied in if it is a file of the host. -/
theorem outcome_copyInScript (script : String) (d : Draft η σ) :
    Outcome (copyInScript script) d.plan
      (eval ((run (copyInScript script)).run around) d) := by
  have heval : eval ((Setup.copyInScript script : Setup η σ String).run around) d = _ :=
    eval_copyInScript script d
  by_cases hfile : around.host.isFile d.host script = true
  · rw [if_pos hfile] at heval
    exact (eval_bind_ok heval fun _ => pure ()) ▸ .done "" d.host
  · rw [if_neg hfile] at heval
    exact (eval_bind_error heval fun _ => pure ()) ▸ .failed _ d.host

/-- The directories to scan are refused before the plan is touched, or the installation is asked for
where it is to be scanned. -/
theorem outcome_dirsToScan (tool : String) (scanBuild scanInstall : Option Bool) (d : Draft η σ) :
    Outcome (dirsToScan tool scanBuild scanInstall) d.plan
      (eval ((run (dirsToScan tool scanBuild scanInstall)).run around) d) := by
  have heval : eval ((Setup.dirsToScan tool scanBuild scanInstall).run around) d = _ :=
    eval_dirsToScan tool scanBuild scanInstall d
  dsimp only at heval
  -- the two answers that are refused, then the one that is not
  split at heval
  · exact (eval_bind_error heval fun _ => pure ()) ▸ .failed _ d.host
  split at heval
  · exact (eval_bind_error heval fun _ => pure ()) ▸ .failed _ d.host
  · exact (eval_bind_ok heval fun _ => pure ()) ▸ .done "" d.host

/-- Every shared step fails without a trace or has its effect. -/
theorem outcome (step : SharedStep) (d : Draft η σ) :
    Outcome step d.plan (eval (step.run.run around) d) := by
  cases step with
  | enableWrap => exact outcome_enableWrap d
  | enableExec => exact outcome_enableExec d
  | limitTime tools => exact .done "" d.host
  | setExecWrap argv => exact outcome_setExecWrap argv d
  | insertPath dir => exact .done "" d.host
  | wrapCompiler wrapper => exact outcome_wrapCompiler wrapper d
  | copyInScript script => exact outcome_copyInScript script d
  | dirsToScan tool scanBuild scanInstall => exact outcome_dirsToScan tool scanBuild scanInstall d
  | useCompiler cc cxx => exact .done "" d.host
  | writeFlags flags => exact .done "" d.host

end SharedStep
end ChrootScan
