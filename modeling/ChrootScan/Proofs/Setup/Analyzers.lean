import ChrootScan.Analyzer.Registry
import ChrootScan.Proofs.Setup.Entering
import ChrootScan.Proofs.Setup.Visits
import ChrootScan.Proofs.Setup.Watching

/-!
# What analyzers edit

Every analyzer does nothing to the plan but edits. Those that watch built binaries run put them
under one command; the others leave that command alone.
-/

namespace ChrootScan

open Effect Setup

variable {σ : Type} {scope : Scope σ}

/-! ## Wrappers beside the compiler -/

/-- Clang brings its wrapper along and does nothing else but plain edits. -/
theorem Clang.wraps_configure (o : Clang.Options) :
    Wraps scope "csclng" (Clang.configure o) := by
  refine ⟨_, rfl, .after (.limitTime trivial) fun _ => .after (.setFlagsVar rfl) fun _ => ?_⟩
  refine .after (.filterCapture trivial) fun _ => .after (.install trivial) fun _ => ?_
  refine .before (.wrapCompiler _) fun _ => .bind (.ask _) fun _ => ?_
  refine .ite (.bind (.copyIn trivial) fun _ => ?version) ?version
  exact .addHook trivial

/-- The Cppcheck of the host is copied in with what it needs. -/
theorem Cppcheck.edits_copyInHost : Edits scope (Plain scope) Cppcheck.copyInHost := by
  refine .bind (.shellSucceeds _) fun _ => .ite (.bind (.install trivial) fun _ => ?files) ?files
  refine .bind (.copyIn trivial) fun _ => .forM fun _ _ => ?_
  exact .bind (.ask _) fun _ => .ite (.copyIn trivial) (.pure _)

/-- Cppcheck brings its wrapper along, whichever Cppcheck is run. -/
theorem Cppcheck.wraps_configure (o : Cppcheck.Options) :
    Wraps scope "cscppc" (Cppcheck.configure o) := by
  refine ⟨_, rfl, .after (.limitTime trivial) fun _ => .after (.filterCapture trivial) fun _ => ?_⟩
  refine .after (.setFlagsVar rfl) fun _ => .before (.wrapCompiler _) fun _ => ?_
  refine .bind (.copyIn trivial) fun _ => ?_
  exact .ite (.bind Cppcheck.edits_copyInHost fun _ => .addHook trivial)
    (.bind (.install trivial) fun _ => .addHook trivial)

/-- Smatch brings its wrapper along and does nothing else but plain edits. -/
theorem Smatch.wraps_configure : Wraps scope "csmatch" Smatch.configure := by
  refine ⟨_, rfl, .after (.limitTime trivial) fun _ => .after (.filterCapture trivial) fun _ => ?_⟩
  exact .after (.install trivial) fun _ => .before (.wrapCompiler _) fun _ => .addHook trivial

/-! ## GCC -/

/-- A sanitizer runs the checks, installs its packages, keeps Valgrind out and sets its variables.
-/
theorem Gcc.Sanitizer.edits_prepare {S : Edit Hook → Prop} {s : Gcc.Sanitizer}
    (hcheck : S .runCheck) (hinstall : S (.install s.pkgs))
    (hkeep : S (.blacklist [Gcc.valgrindPackage])) (hvars : ∀ v ∈ s.vars, S (.setVar v.1 v.2)) :
    Edits scope S s.prepare := by
  refine .bind (.runCheck hcheck) fun _ => .bind (.install hinstall) fun _ => ?_
  refine .bind (.edit (e := .blacklist [Gcc.valgrindPackage]) hkeep) fun _ => ?_
  exact .forM fun v hv => .setVar (hvars v hv)

/-- All sanitizers that can be chosen. -/
def Gcc.allSanitizers : List Gcc.Sanitizer :=
  [addressSanitizer, leakSanitizer, threadSanitizer, undefinedSanitizer]

/-- The options choose from the sanitizers that there are. -/
theorem Gcc.Options.sanitizers_subset (o : Gcc.Options) : o.sanitizers ⊆ allSanitizers := by
  have hchosen {chosen : Bool} {s t : Gcc.Sanitizer} (h : s ∈ if chosen then [t] else []) :
      s = t := by
    split at h
    · exact List.mem_singleton.1 h
    · cases h
  intro s hs
  rw [sanitizers, List.mem_append, List.mem_append, List.mem_append] at hs
  rcases hs with ((haddress | hleak) | hthread) | hundefined
  · simp [allSanitizers, hchosen haddress]
  · simp [allSanitizers, hchosen hleak]
  · simp [allSanitizers, hchosen hthread]
  · simp [allSanitizers, hchosen hundefined]

/-- No sanitizer sets the command that built binaries run under. -/
theorem Gcc.Options.vars_sanitizers {o : Gcc.Options} {s : Gcc.Sanitizer} (hs : s ∈ o.sanitizers) :
    ∀ v ∈ s.vars, (v.1 != Plan.execWrapVar) = true := by
  have hall : ∀ s ∈ Gcc.allSanitizers, ∀ v ∈ s.vars, (v.1 != Plan.execWrapVar) = true := by decide
  exact hall s (o.sanitizers_subset hs)

/-- Looking for the analyzer inside the compiler edits nothing but the files to copy in. -/
theorem Gcc.edits_analyzerDir? (o : Gcc.Options) :
    Edits scope (Plain scope) (Gcc.analyzerDir? o) := by
  refine .bind .read fun _ => .ite (.pure _) ?_
  rcases o.analyzerBin.filter fun path => !Path.isAbsolute path with _ | path
  · refine .bind (.commandOutput _) fun dir => ?_
    cases dir with
    | none => exact .reject _
    | some dir => exact .bind (.copyIn trivial) fun _ => .pure _
  · exact .reject _

/-- The directory that the analyzer inside the compiler is called from is one that the host reports
for its wrapper. -/
theorem Gcc.reports_of_analyzerDir? {o : Gcc.Options} {d d' : Draft Hook σ} {dir? : Option String}
    (hs : scope.states d.host)
    (h : eval ((Gcc.analyzerDir? o).run scope.around) d = (.ok dir?, d')) :
    ∀ dir ∈ dir?, scope.Reports Gcc.analyzerWrap dir := by
  obtain ⟨_, t, hread, h⟩ := run_bind_eq_ok h
  cases hread
  split at h
  · cases h
    exact nofun
  · cases hrelative : o.analyzerBin.filter fun path => !Path.isAbsolute path with
    | some path =>
      rw [hrelative] at h
      cases h
    | none =>
      rw [hrelative] at h
      replace h := (eval_commandOutput_bind _ _ d).symm.trans h
      rcases hanswer : scope.around.host.commandOutput (wrapQuery Gcc.analyzerWrap) d.host with
        ⟨_ | dir, s⟩
      · rw [hanswer] at h
        cases h
      · rw [hanswer] at h
        cases h
        rintro _ ⟨⟩
        exact ⟨d.host, hs, congrArg Prod.fst hanswer⟩

/-- What is left to do once it is clear that the sanitizers go together with the packages. -/
def Gcc.configureBuild (o : Gcc.Options) (dir? : Option String) : Setup Hook σ Unit := do
  let level := FlagMatrix.ofWarningLevel (o.warningLevel.getD 0)
  install ["gcc"]
  enableWrap
  filterCapture "csgrep --mode=json --invert-match --checker COMPILER_WARNING --event error"
  writeFlags ((o.sanitizers.foldl Sanitizer.addTo level).appendCustom o.custom)
  recordVersion "gcc"
  match dir? with
  | none => pure ()
  | some dir =>
    addHook .postDepinst (.gccAnalyzer
      { wrapPath := dir, compiler := o.analyzerBin, addFlags := o.analyzeAddFlags })

/-- The second half of GCC's configuration is plain, given a directory that the host has reported.
-/
theorem Gcc.edits_configureBuild (o : Gcc.Options) {dir? : Option String}
    (hdir : ∀ dir ∈ dir?, scope.Reports Gcc.analyzerWrap dir) :
    Edits scope (Plain scope) (Gcc.configureBuild o dir?) := by
  refine .bind (.install trivial) fun _ => .bind (.enableWrap fun _ h => h) fun _ => ?_
  refine .bind (.filterCapture trivial) fun _ => .bind (.writeFlags trivial) fun _ => ?_
  refine .bind (.addHook trivial) fun _ => ?_
  cases dir? with
  | none => exact .pure _
  | some dir => exact .addHook (hdir dir rfl)

/-- GCC does nothing but plain edits, with and without sanitizers. -/
theorem Gcc.edits_configure (o : Gcc.Options) :
    Edits scope (Plain scope) (Gcc.configure o) := by
  refine .bind_of (Gcc.edits_analyzerDir? o) (fun _ _ _ => Gcc.reports_of_analyzerDir?)
    fun dir hdir => ?_
  refine .ite (.bind (.setVar rfl) fun _ => .bind (.setVar rfl) fun _ => ?sanitize) ?sanitize
  have hprepare : Edits scope (Plain scope) (o.sanitizers.forM Gcc.Sanitizer.prepare) :=
    .forM fun s hs =>
      Gcc.Sanitizer.edits_prepare trivial trivial rfl (Gcc.Options.vars_sanitizers hs)
  refine .bind hprepare fun _ => .bind .getPlan fun _ => ?_
  refine .ite (.bind (.reject _) fun _ => ?build) ?build
  exact Gcc.edits_configureBuild o hdir

/-! ## Scripts -/

/-- An analyzer that is a script in the chroot does nothing but plain edits. -/
theorem ScriptAnalyzer.edits_configure (a : ScriptAnalyzer) (dirs : ScanDirs) :
    Edits scope (Plain scope) (a.configure dirs) := by
  refine .bind (.dirsToScan _ _ _ trivial) fun _ => .bind (.install trivial) fun _ => ?_
  refine .bind (.helper fun _ => trivial) fun _ => .bind (.afterBuild trivial) fun _ => ?_
  exact .bind (.copyOut trivial) fun _ => .bind (.addHook trivial) fun _ => .addHook trivial

/-! ## Hooks that work on their own -/

theorem Clippy.edits_configure : Edits scope (Plain scope) Clippy.configure := by
  refine .bind (.helper fun _ => trivial) fun _ => .bind (.addHook trivial) fun _ => ?_
  refine .bind (.install trivial) fun _ => .bind (.copyOut trivial) fun _ => ?_
  exact .bind (.addHook trivial) fun _ => .addHook trivial

theorem Unicontrol.edits_configure (o : Unicontrol.Options) :
    Edits scope (Plain scope) (Unicontrol.configure o) :=
  .bind (.addHook trivial) fun _ => .bind (.addHook trivial) fun _ => .addHook trivial

/-- The archive of Infer is looked for on the host alone. -/
theorem Infer.edits_findArchive (given : Option String) :
    Edits scope (Plain scope) (Infer.findArchive given) := by
  cases given with
  | none =>
    refine .bind (.ask _) fun names => ?_
    rcases Infer.greatest? (names.filter Infer.isArchiveName) with _ | name
    · exact .reject _
    · exact .pure _
  | some path =>
    refine .bind (.ask _) fun _ => .ite (.bind (.reject _) fun _ => ?found) ?found
    exact .bind .read fun _ => .pure _

theorem Infer.edits_configure (o : Infer.Options) :
    Edits scope (Plain scope) (Infer.configure o) := by
  refine .bind (.install trivial) fun _ => .bind (Infer.edits_findArchive _) fun _ => ?_
  refine .bind (.copyIn trivial) fun _ => .bind (.helper fun _ => trivial) fun _ => ?_
  refine .bind (.addHook trivial) fun _ => .bind (.afterBuild trivial) fun _ => ?_
  exact .bind (.copyOut trivial) fun _ => .addHook trivial

/-- Gitleaks adds two hooks, with its own rules or those that it brings along. -/
theorem Gitleaks.edits_configure (o : Gitleaks.Options) :
    Edits scope (Plain scope) (Gitleaks.configure o) := by
  unfold Gitleaks.configure
  rcases o.config with _ | path
  · refine .bind (.pure _) fun _ => .bind .read fun _ => ?_
    exact .bind (.addHook trivial) fun _ => .addHook trivial
  · refine .bind (.expandTilde _) fun _ => .bind (.requireFile _) fun _ => ?_
    refine .bind (.pure _) fun _ => .bind .read fun _ => ?_
    exact .bind (.addHook trivial) fun _ => .addHook trivial

/-- Semgrep adds three hooks; it is refused in front of them without rules, or with options that
are. -/
theorem Semgrep.edits_configure (o : Semgrep.Options) :
    Edits scope (Plain scope) (Semgrep.configure o) := by
  -- the rules are given or the analyzer is refused; the rest is the same for all rules
  have hhooks (rules : String) (options : Option String) :
      Edits scope (Plain scope) (do
        addHook .preMock (.semgrepPrepare rules)
        addHook .postInstall (.semgrepScan { metrics := o.metrics, verbose := o.verbose, options })
        addHook .postProcess (.hostCmd "semgrep-filter" Semgrep.filterCmd?) : Setup Hook σ Unit) :=
    .bind (.addHook trivial) fun _ => .bind (.addHook trivial) fun _ => .addHook trivial
  unfold Semgrep.configure
  rcases o.rulesRepo with _ | rules
  · refine .bind (.reject _) fun rules => ?_
    rcases o.scanOptions with _ | value
    · exact .bind (.pure _) fun _ => hhooks rules _
    · exact .bind (.lift _) fun _ => .bind (.pure _) fun _ => hhooks rules _
  · refine .bind (.pure _) fun rules => ?_
    rcases o.scanOptions with _ | value
    · exact .bind (.pure _) fun _ => hhooks rules _
    · exact .bind (.lift _) fun _ => .bind (.pure _) fun _ => hhooks rules _

/-- Where Snyk comes from is settled without a change of the plan. -/
theorem Snyk.edits_source (o : Snyk.Options) :
    Edits scope (Plain scope) (Snyk.source o) := by
  unfold Snyk.source
  rcases o.bin with _ | path
  · exact .bind .read fun _ => .pure _
  · exact .bind (.expandTilde _) fun _ => .pure _

/-- Snyk marks its checker as important and adds its hooks; it is refused without its token, or with
options that are. -/
theorem Snyk.edits_configure (o : Snyk.Options) :
    Edits scope (Plain scope) (Snyk.configure o) := by
  have hhooks (token : String) (options : Option String) :
      Edits scope (Plain scope) (do
        modifyPlan (Edit.apply · (.important Snyk.checker "--event=^error"))
        let source ← Snyk.source o
        addHook .preMock (.snykFetch source)
        addHook .postDepinst .snykResolvConf
        addHook .postInstall (.snykScan
          { program := Snyk.Source.path source, token, options, timeout := o.timeout })
        addHook .postProcess .snykStats
        addHook .postProcess (.hostCmd "snyk-filter" Snyk.filterCmd?) : Setup Hook σ Unit) := by
    refine .bind (.edit trivial) fun _ => .bind (Snyk.edits_source o) fun _ => ?_
    refine .bind (.addHook trivial) fun _ => .bind (.addHook trivial) fun _ => ?_
    exact .bind (.addHook trivial) fun _ => .bind (.addHook trivial) fun _ => .addHook trivial
  unfold Snyk.configure
  refine .bind (.expandTilde _) fun token => .bind (.ask _) fun _ => ?_
  refine .ite (.bind (.reject _) fun _ => ?options) ?options
  rcases o.codeTestOptions with _ | value
  · exact .bind (.pure _) fun _ => hhooks token _
  · exact .bind (.lift _) fun _ => .bind (.pure _) fun _ => hhooks token _

/-! ## Built binaries under observation -/

/-- Valgrind puts built binaries under its own command, and under no other one. -/
theorem Valgrind.watches_configure (o : Valgrind.Options) :
    Watches scope false (some o.wrapCmd) (Valgrind.configure o) := by
  refine .after (.install trivial) fun _ => .after (.addHook trivial) fun _ => ?_
  refine .before (watches_runUnder _ _ _) fun _ => .bind (.runCheck trivial) fun _ => ?_
  exact .bind (.copyOut trivial) fun _ => .bind (.addHook trivial) fun _ => .addHook trivial

/-- Strace puts built binaries under its own command. -/
theorem Strace.watches_configure (o : Strace.Options) :
    Watches scope false (some o.wrapCmd) (Strace.configure o) := by
  refine .after (.install trivial) fun _ => .after (.addHook trivial) fun _ => ?_
  refine .before (watches_runUnder _ _ _) fun _ => .bind (.runCheck trivial) fun _ => ?_
  exact .copyOut trivial

/-- Divine puts built binaries under its own command, after it has chosen the compiler. -/
theorem Divine.watches_configure (o : Divine.Options) :
    Watches scope false (some o.wrapCmd) (Divine.configure o) := by
  refine .after (.addRepos trivial) fun _ => .after (.install trivial) fun _ => ?_
  refine .after (.enableWrap fun _ h => h) fun _ => .after (.filterCapture trivial) fun _ => ?_
  refine .after (.useCompiler rfl rfl fun _ => trivial) fun _ => ?_
  refine .after (.define trivial) fun _ => .after (.addHook trivial) fun _ => ?_
  refine .before (watches_runUnder _ _ _) fun _ => ?_
  refine .bind (.writeFlags trivial) fun _ => .bind (.runCheck trivial) fun _ => ?_
  exact .bind (.copyOut trivial) fun _ => .addHook trivial

/-- Symbiotic puts built binaries under its own command, after it has chosen the compiler. -/
theorem Symbiotic.watches_configure (o : Symbiotic.Options) :
    Watches scope false (some o.wrapCmd) (Symbiotic.configure o) := by
  refine .after (.addRepos trivial) fun _ => .after (.install trivial) fun _ => ?_
  refine .after (.enableWrap fun _ h => h) fun _ => .after (.filterCapture trivial) fun _ => ?_
  refine .after (.useCompiler rfl rfl fun _ => trivial) fun _ => ?_
  refine .after (.addHook trivial) fun _ => .after (.define trivial) fun _ => ?_
  refine .after (.addHook trivial) fun _ => .before (watches_runUnder _ _ _) fun _ => ?_
  refine .bind (.writeFlags trivial) fun _ => ?_
  exact .bind (.runCheck trivial) fun _ => .bind (.copyOut trivial) fun _ => .addHook trivial

/-- CBMC puts built binaries under its own command, after it has chosen the compiler. -/
theorem Cbmc.watches_configure (o : Cbmc.Options) :
    Watches scope false (some o.wrapCmd) (Cbmc.configure o) := by
  refine .after (.install trivial) fun _ => .after (.addHook trivial) fun _ => ?_
  refine .after (.enableWrap fun _ h => h) fun _ => .after (.filterCapture trivial) fun _ => ?_
  refine .after (.useCompiler rfl rfl fun _ => trivial) fun _ => ?_
  refine .after (.define trivial) fun _ => .before (watches_runUnder _ _ _) fun _ => ?_
  refine .bind (.writeFlags trivial) fun _ => ?_
  exact .bind (.runCheck trivial) fun _ => .bind (.copyOut trivial) fun _ => .addHook trivial

/-! ## All of them -/

/-- No two analyzers have the same name. -/
theorem Registry.nodup_names_ofOptions (o : AnalyzerOptions) :
    ((Registry.ofOptions o : Registry Hook σ).map Analyzer.name).Nodup := by
  show ["gcc", "clang", "cppcheck", "smatch", "shellcheck", "pylint", "bandit", "clippy",
    "unicontrol", "infer", "valgrind", "strace", "divine", "symbiotic", "cbmc", "gitleaks",
    "semgrep", "snyk"].Nodup
  decide

/-- The command under which an analyzer has built binaries run, if it is one that watches them. -/
def AnalyzerOptions.watchCmd? (o : AnalyzerOptions) (name : String) : Option (List String) :=
  [("valgrind", o.valgrind.wrapCmd), ("strace", o.strace.wrapCmd), ("divine", o.divine.wrapCmd),
    ("symbiotic", o.symbiotic.wrapCmd), ("cbmc", o.cbmc.wrapCmd)].lookup name

/-- The wrapper beside the compiler that an analyzer brings along, if it is called by one. -/
def Registry.wrapperOf? (name : String) : Option String :=
  [("cppcheck", "cscppc"), ("clang", "csclng"), ("smatch", "csmatch")].lookup name

/-- Every analyzer, enabled or not, does nothing to the plan but edits. Those that watch built
binaries put them under their own command when they are enabled, and only those with a wrapper
beside the compiler enter directories. -/
theorem watches_ofOptions {o : AnalyzerOptions} {a : Analyzer Hook σ}
    (ha : a ∈ (Registry.ofOptions o : Registry Hook σ)) :
    Watches scope (Registry.wrapperOf? a.name).isSome (o.watchCmd? a.name) a.configure ∧
      Watches scope false none a.configureDisabled := by
  have hpure : Watches scope false none (pure () : Setup Hook σ Unit) := Edits.watches (.pure _)
  simp only [Registry.ofOptions, List.mem_cons, List.not_mem_nil, or_false] at ha
  rcases ha with rfl | rfl | rfl | rfl | rfl | rfl | rfl | rfl | rfl | rfl | rfl | rfl | rfl | rfl |
    rfl | rfl | rfl | rfl
  · exact ⟨(Gcc.edits_configure _).watches, Edits.watches (.filterCapture trivial)⟩
  · exact ⟨(Clang.wraps_configure _).edits.watches, hpure⟩
  · exact ⟨(Cppcheck.wraps_configure _).edits.watches, hpure⟩
  · exact ⟨Smatch.wraps_configure.edits.watches, hpure⟩
  · exact ⟨(ScriptAnalyzer.edits_configure _ _).watches, hpure⟩
  · exact ⟨(ScriptAnalyzer.edits_configure _ _).watches, hpure⟩
  · exact ⟨(ScriptAnalyzer.edits_configure _ _).watches, hpure⟩
  · exact ⟨Clippy.edits_configure.watches, hpure⟩
  · exact ⟨(Unicontrol.edits_configure _).watches, hpure⟩
  · exact ⟨(Infer.edits_configure _).watches, hpure⟩
  · exact ⟨Valgrind.watches_configure _, hpure⟩
  · exact ⟨Strace.watches_configure _, hpure⟩
  · exact ⟨Divine.watches_configure _, hpure⟩
  · exact ⟨Symbiotic.watches_configure _, hpure⟩
  · exact ⟨Cbmc.watches_configure _, hpure⟩
  · exact ⟨(Gitleaks.edits_configure _).watches, hpure⟩
  · exact ⟨(Semgrep.edits_configure _).watches, hpure⟩
  · exact ⟨(Snyk.edits_configure _).watches, hpure⟩

/-- An analyzer that brings a wrapper along enters the directory of the wrapper. -/
theorem wraps_ofOptions {o : AnalyzerOptions} {a : Analyzer Hook σ}
    (ha : a ∈ (Registry.ofOptions o : Registry Hook σ)) {wrapper : String}
    (hwrapper : Registry.wrapperOf? a.name = some wrapper) :
    Wraps scope wrapper a.configure := by
  simp only [Registry.ofOptions, List.mem_cons, List.not_mem_nil, or_false] at ha
  rcases ha with rfl | rfl | rfl | rfl | rfl | rfl | rfl | rfl | rfl | rfl | rfl | rfl | rfl | rfl |
    rfl | rfl | rfl | rfl
  all_goals cases hwrapper
  · exact Clang.wraps_configure _
  · exact Cppcheck.wraps_configure _
  · exact Smatch.wraps_configure

/-! ## Visits -/

/-- An analyzer that is not enabled neither watches nor enters a directory. -/
theorem Visit.watches {o : AnalyzerOptions} {v : Visit Hook σ}
    (hv : v.analyzer ∈ Registry.ofOptions o) :
    Watches scope (v.enabled && (Registry.wrapperOf? v.analyzer.name).isSome)
      (if v.enabled then o.watchCmd? v.analyzer.name else none) v.work := by
  obtain ⟨hconfigure, hdisabled⟩ := watches_ofOptions hv
  unfold Visit.work
  cases v.enabled with
  | true => exact hconfigure
  | false => exact hdisabled

end ChrootScan
