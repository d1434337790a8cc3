import ChrootScan.Proofs.Hook.Routine
import ChrootScan.Proofs.Pipeline.Stages
import ChrootScan.Proofs.Setup.Configuration

/-!
# The directory of the installation

Analyzers of scripts may scan what the build installs, and ask for the install stage then. Their
commands run after the build, though, and the install stage comes behind them: a scan that gets as
far as such a command runs it on a directory that nothing has filled.
-/

namespace ChrootScan

open Effect

namespace StageCall

/-- A command that runs after the build, on the directory of the installation. -/
def readsBuildRoot (c : StageCall) : Bool :=
  c.stage == "post-build" && c.call.argv.any (Text.contains Plan.buildRootDir)

/-- The command that fills the directory of the installation. -/
def fillsBuildRoot (c : StageCall) : Bool :=
  c.stage == "install" && c.call.argv.any (Text.contains "rpmbuild -bi")

/-- The directory of the installation is filled before each command that reads it. -/
def FilledFirst (calls : List StageCall) : Prop :=
  ∀ before c after, calls = before ++ c :: after → c.readsBuildRoot = true →
    ∃ c' ∈ before, c'.fillsBuildRoot = true

end StageCall

namespace Chroot

/-- The call that runs a command as the user of the build. -/
def builderCall (c : Chroot) (command : String) : List String :=
  c.call ["--chroot", asBuilder command]

/-- The builder's call of a command holds what the command holds, if that needs no escapes. -/
theorem contains_builderCall (c : Chroot) {part command : String}
    (hplain : part.toList.any Shell.needsEscape = false)
    (h : Text.contains part command = true) :
    (c.builderCall command).any (Text.contains part) = true := by
  have hquoted : Text.contains part (asBuilder command) = true :=
    Text.contains_trans (Shell.contains_quote hplain h) (Text.contains_append_right _ _)
  refine List.any_eq_true.2 ⟨asBuilder command, ?_, hquoted⟩
  exact List.mem_append_right _ (List.mem_cons_of_mem _ (List.mem_singleton_self _))

end Chroot

/-- The command of the install stage is taken for what it is. -/
theorem StageCall.fillsBuildRoot_installStage {η : Type} (plan : Plan η) (c : Chroot)
    (location : String) :
    StageCall.fillsBuildRoot ⟨"install", location, c.builderCall (plan.rpmbuildCmd "-bi")⟩ =
      true := by
  have hcmd : Text.contains "rpmbuild -bi" (plan.rpmbuildCmd "-bi") = true := by
    have hhead : Text.contains "rpmbuild -bi" (plan.envPrefix ++ " rpmbuild " ++ "-bi") = true := by
      rw [String.append_assoc]
      exact Text.contains_trans (by decide) (Text.contains_append_right _ _)
    unfold Plan.rpmbuildCmd
    iterate 5 refine Text.contains_trans ?_ (Text.contains_append_left _ _)
    exact hhead
  have hcall := c.contains_builderCall (by decide +kernel) hcmd
  rw [fillsBuildRoot, hcall]
  rfl

namespace Pipeline

variable {η : Type} (model : HookModel η) (job : Job η)

/-- Whatever reads the directory of the installation comes before what fills it. -/
theorem reads_before_fills :
    (trail model job).Pairwise fun c c' => c.fillsBuildRoot = true → c'.readsBuildRoot = false := by
  have hstages := pairwise_trail model (R := fun a b => a = "install" → b ≠ "post-build")
    (fun name h => by rw [h]; decide) (by decide) job
  refine hstages.imp fun {c c'} h hfills => ?_
  have hinstall : c.stage = "install" := beq_iff_eq.1 (Bool.and_eq_true_iff.1 hfills).1
  rw [StageCall.readsBuildRoot, beq_eq_false_iff_ne.2 (h hinstall), Bool.false_and]

/-- The directory of the installation is filled before all reads exactly in scans without reads. -/
theorem filledFirst_iff :
    StageCall.FilledFirst (trail model job) ↔ ∀ c ∈ trail model job, c.readsBuildRoot = false := by
  constructor
  · intro hfilled c hc
    by_contra hreads
    rw [Bool.not_eq_false] at hreads
    obtain ⟨before, after, hsplit⟩ := List.append_of_mem hc
    -- what fills the directory would have to come before a read, and it never does
    obtain ⟨c', hc', hfills⟩ := hfilled before c after hsplit hreads
    have hpairwise := reads_before_fills model job
    rw [hsplit, List.pairwise_append] at hpairwise
    have := hpairwise.2.2 c' hc' c List.mem_cons_self hfills
    rw [this] at hreads
    cases hreads
  · intro hnone before c after hsplit hreads
    have hc : c ∈ trail model job := by
      rw [hsplit]
      exact List.mem_append_right _ List.mem_cons_self
    rw [hnone c hc] at hreads
    cases hreads

variable {σ : Type} {around : Surroundings σ} {o : AnalyzerOptions} {selection : ToolSelection}
  {names : List String} {d d' : Draft Hook σ}

/-- If an analyzer of scripts scans the directory of the installation, the plan asks for the stage
that fills it and for a command that reads it. The trail of a scan with this plan is all that its
phases start; but it has the directory filled before all reads exactly if nothing reads it. -/
theorem installed_before_scanned_iff
    (hconfigured : eval (((Registry.ofOptions o).configure selection).run around) d =
      (.ok names, d'))
    {script : ScriptAnalyzer} {dirs : ScanDirs} (hscript : (script, dirs) ∈ o.scripts)
    (henabled : script.name ∈ names)
    (hinstall : dirs.install.getD (!d.plan.shellCmd.isSome) = true) :
    (d'.plan.needInstall = true ∧
      (∀ (chroot : Chroot) location, StageCall.fillsBuildRoot
        ⟨"install", location, chroot.builderCall (d'.plan.rpmbuildCmd "-bi")⟩ = true) ∧
      ∃ command ∈ d'.plan.postBuildCmds, ∀ (chroot : Chroot) location, StageCall.readsBuildRoot
        ⟨"post-build", location, chroot.builderCall command⟩ = true) ∧
    ∀ (model : HookModel Hook) (job : Job Hook), job.plan = d'.plan →
      (model.GoesOnward → (eval (runPhases model) job).2.bench.machine.calls =
        job.bench.machine.calls ++ (trail model job).map StageCall.call) ∧
      (StageCall.FilledFirst (trail model job) ↔
        ∀ c ∈ trail model job, c.readsBuildRoot = false) := by
  have hplan := Registry.readsBuildRoot_of_configure hconfigured hscript henabled hinstall
  refine ⟨⟨hplan.needInstall, ?fills, ?reads⟩, fun model job _ => ⟨?calls, ?order⟩⟩
  case fills => exact StageCall.fillsBuildRoot_installStage d'.plan
  case reads =>
    obtain ⟨command, hmem, hnamed⟩ := hplan.reads
    refine ⟨command, hmem, fun chroot location => ?_⟩
    rw [StageCall.readsBuildRoot, chroot.contains_builderCall (by decide +kernel) hnamed]
    rfl
  case calls => exact fun hmodel => calls_runPhases model hmodel job
  case order => exact filledFirst_iff model job

/-- ShellCheck alone, configured on a host that has its helper script. -/
def shellcheckAlone : Except ScanError (List String) × Draft Hook Host.Memory :=
  let files : Host.Memory :=
    ({} : Host.Memory).addFile "/usr/share/csmock/scripts/run-shellcheck.sh" ""
  eval (((Registry.ofOptions {}).configure { tools := some ["shellcheck"] }).run
    { host := Host.memory }) ⟨{ Plan.start 30 with srpm := some "demo-1-1.src.rpm" }, files⟩

theorem shellcheckAlone_accepted : shellcheckAlone.1 = .ok ["shellcheck"] := by
  decide +kernel

/-- ShellCheck scans the directory of the installation where nothing is said. -/
theorem installed_before_scanned_shellcheck :
    shellcheckAlone.1 = .ok ["shellcheck"] ∧ shellcheckAlone.2.plan.needInstall = true ∧
      ∀ job : Job Hook, job.plan = shellcheckAlone.2.plan →
        (eval (runPhases Hook.model) job).2.bench.machine.calls =
          job.bench.machine.calls ++ (trail Hook.model job).map StageCall.call ∧
        (StageCall.FilledFirst (trail Hook.model job) ↔
          ∀ c ∈ trail Hook.model job, c.readsBuildRoot = false) := by
  have hconfigured : shellcheckAlone = (.ok ["shellcheck"], shellcheckAlone.2) := by
    rw [← shellcheckAlone_accepted]
  have hscript : (Shellcheck.script, {}) ∈ AnalyzerOptions.scripts {} := List.mem_cons_self
  have h := installed_before_scanned_iff hconfigured hscript (List.mem_singleton_self _) (by decide)
  refine ⟨shellcheckAlone_accepted, h.1.1, fun job hjob => ?_⟩
  obtain ⟨hcalls, hfilled⟩ := h.2 Hook.model job hjob
  exact ⟨hcalls Hook.model_goesOnward, hfilled⟩

/-- A scan with ShellCheck whose programs and hooks all succeed reads the directory of the
installation before it fills it. -/
theorem not_installed_before_scanned :
    let model : HookModel Hook := { name := Hook.name, rank := fun _ => 0, run := fun _ => pure 0 }
    let job : Job Hook :=
      { bench :=
          { machine := { behaviour := fun _ _ _ argv => .started { location := argv.headD "" } }
            record := { output := "out" } }
        plan := shellcheckAlone.2.plan }
    shellcheckAlone.1 = .ok ["shellcheck"] ∧ ¬ StageCall.FilledFirst (trail model job) := by
  intro model job
  refine ⟨shellcheckAlone_accepted, fun hfilled => ?_⟩
  have hcall : (trail model job)[9]? = some ⟨"post-build", "/usr/bin/mock",
      ["/usr/bin/mock", "-r", "default", "--chroot",
        "su mockbuild -c \"/usr/share/csmock/scripts/run-shellcheck.sh /builddir/build/BUILDROOT" ++
          " > /builddir/shellcheck-capture.err\""]⟩ := by
    decide +kernel
  obtain ⟨c, hc, hreads⟩ : ∃ c ∈ trail model job, c.readsBuildRoot = true :=
    ⟨_, List.mem_of_getElem? hcall, by decide +kernel⟩
  have hnone := (filledFirst_iff model job).1 hfilled c hc
  rw [hnone] at hreads
  cases hreads

end Pipeline
end ChrootScan
