import ChrootScan.Proofs.Pipeline.Onward
import ChrootScan.Analyzer.Gcc

/-!
# The analyzer inside the compiler enters the path

The hook that makes the build call the analyzer inside the compiler probes it first and, for another
compiler, installs a wrapper script. Only a run that gets past these steps changes the path,
whatever becomes of it later: the directory of the analyzer's wrapper is put before that of the
compiler wrapper.
-/

namespace ChrootScan

open Effect Work

/-! ## The directory of the compiler wrapper -/

/-- A directory is put right before the last one, if that is the only one of a compiler wrapper. -/
theorem Plan.path_insertPathBeforeWrap {η : Type} {p : Plan η} {dirs : List String} {last : String}
    (hpath : p.path = dirs ++ [last]) (hdirs : ∀ dir ∈ dirs, Text.endsWith "/cswrap" dir = false)
    (hlast : Text.endsWith "/cswrap" last = true) (dir : String) :
    (p.insertPathBeforeWrap dir).path = dirs ++ [dir, last] := by
  have hbefore : p.path.takeWhile (fun dir => !Text.endsWith "/cswrap" dir) = dirs := by
    rw [hpath, List.takeWhile_append_of_pos, List.takeWhile_cons_of_neg, List.append_nil]
    · simp [hlast]
    · simpa using hdirs
  have hlength : dirs.length < p.path.length := by
    rw [hpath, List.length_append, List.length_singleton]
    omega
  rw [insertPathBeforeWrap, hbefore, if_pos hlength]
  show dirs ++ dir :: p.path.drop dirs.length = dirs ++ [dir, last]
  rw [hpath, List.drop_left]

/-! ## Steps that leave the path alone -/

/-- Two states of a scan with the same path. -/
def Job.SamePath {η : Type} (job job' : Job η) : Prop :=
  job'.plan.path = job.plan.path

instance {η : Type} : IsPreorder (Job η) Job.SamePath where
  refl _ := rfl
  trans _ _ _ h h' := h'.trans h

namespace Work

variable {η α : Type}

/-- Work on the record does not touch the plan. -/
theorem samePath_scan (x : Scan α) : Keeps Job.SamePath (scan x : Work η α) := by
  intro job
  rw [eval_scan]
  exact refl_of Job.SamePath job

end Work

namespace Gcc

theorem samePath_runChrootCmd (command : String) (asBuilder : Bool) :
    Keeps Job.SamePath (Hook.runChrootCmd command asBuilder) :=
  samePath_scan _

theorem samePath_error (text : String) (ec : Int) : Keeps Job.SamePath (Hook.error text ec) :=
  samePath_scan _

/-- The wrapper script is put into the chroot and named by a variable, which is no part of the path.
-/
theorem samePath_installWrapper (compiler : String) :
    Keeps Job.SamePath (installWrapper compiler) := by
  refine (samePath_runChrootCmd _ _).bind fun _ =>
    .ite ((samePath_error _ _).bind fun _ => .pure _) ?_
  refine .bind (fun job => refl_of Job.SamePath job) fun plan => ?_
  refine (samePath_runChrootCmd _ _).bind fun _ =>
    .ite ((samePath_error _ _).bind fun _ => .pure _) ?_
  -- the last step sets a variable
  exact fun job => rfl

theorem samePath_recordAnalyzerVersion (compiler : String) :
    Keeps Job.SamePath (recordAnalyzerVersion compiler) :=
  (samePath_scan _).bind fun _ => .ite (.pure _) ((samePath_scan _).bind fun _ => .pure _)

/-- The other changes that the hook makes to the plan are to the environment. -/
theorem path_enterPath (a : InlineAnalyzer) (p : Plan Hook) :
    (enterPath a p).path = (p.insertPathBeforeWrap a.wrapPath).path := by
  unfold enterPath
  dsimp only
  by_cases hflags : a.addFlags.isEmpty = true
  · rw [if_pos hflags]
    rfl
  · rw [if_neg hflags]
    rfl

/-! ## Runs of the hook -/

/-- The steps of the hook that come before it enters the path have led from one state of a scan to
another one: the compiler analyzes and, unless it is that of the chroot, can be called through the
compiler wrapper. -/
inductive Ready (a : InlineAnalyzer) (job : Job Hook) : Job Hook → Prop
  | own {job' : Job Hook} (hcompiler : a.compiler = none)
    (hprobe : eval (Hook.runChrootCmd (probeCmd "gcc") true) job = (.ok 0, job')) :
    Ready a job job'
  | other {compiler : String} {job₁ job' : Job Hook} (hcompiler : a.compiler = some compiler)
    (hprobe : eval (Hook.runChrootCmd (probeCmd compiler) true) job = (.ok 0, job₁))
    (hwrapper : eval (installWrapper compiler) job₁ = (.ok 0, job')) :
    Ready a job job'

namespace Ready

variable {a : InlineAnalyzer} {job job' : Job Hook}

/-- Up to the point where the directory is entered, the path stays as it was. -/
theorem samePath (h : Ready a job job') : job.SamePath job' := by
  cases h with
  | own _ hprobe =>
    have hsame := samePath_runChrootCmd (probeCmd "gcc") true job
    rwa [hprobe] at hsame
  | @other compiler job₁ _ _ hprobe hwrapper =>
    have hfirst := samePath_runChrootCmd (probeCmd compiler) true job
    have hsecond := samePath_installWrapper compiler job₁
    rw [hprobe] at hfirst
    rw [hwrapper] at hsecond
    exact trans_of Job.SamePath hfirst hsecond

/-- What is left to do enters the path. -/
theorem eval_runAnalyzer (h : Ready a job job') :
    eval (runAnalyzer a) job =
      eval (recordAnalyzerVersion (a.compiler.getD "gcc"))
        { job' with plan := enterPath a job'.plan } := by
  cases h with
  | own hcompiler hprobe =>
    rw [runAnalyzer, hcompiler]
    exact eval_bind_ok hprobe _
  | other hcompiler hprobe hwrapper =>
    rw [runAnalyzer, hcompiler]
    exact (eval_bind_ok hprobe _).trans (eval_bind_ok hwrapper _)

/-- The directory of the analyzer's wrapper is right before that of the compiler wrapper, whether
the rest of the run fails or not. -/
theorem path_runAnalyzer (h : Ready a job job') {dirs : List String} {last : String}
    (hpath : job.plan.path = dirs ++ [last])
    (hdirs : ∀ dir ∈ dirs, Text.endsWith "/cswrap" dir = false)
    (hlast : Text.endsWith "/cswrap" last = true) :
    (eval (runAnalyzer a) job).2.plan.path = dirs ++ [a.wrapPath, last] := by
  rw [h.eval_runAnalyzer, samePath_recordAnalyzerVersion, path_enterPath]
  exact Plan.path_insertPathBeforeWrap (h.samePath.trans hpath) hdirs hlast a.wrapPath

end Ready
end Gcc
end ChrootScan
