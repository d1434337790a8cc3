import ChrootScan.Proofs.Order.Arrangement
import ChrootScan.Proofs.Setup.Analyzers
import ChrootScan.Proofs.Text.Parts

/-!
# Whole configurations

What the analyzers of scripts ask of a scan is still there when all analyzers are configured: the
plan only grows (`Plan.Grown`).
-/

namespace ChrootScan

open Effect

/-! ## Plans grow -/

/-- A plan asks for no less than another after the build. -/
structure Plan.Grown {η : Type} (p p' : Plan η) : Prop where
  needInstall : p.needInstall = true → p'.needInstall = true
  postBuildCmds : p.postBuildCmds <+: p'.postBuildCmds
  shellCmd : p'.shellCmd = p.shellCmd

section
variable {η : Type}

instance : IsPreorder (Plan η) Plan.Grown where
  refl _ := ⟨id, List.prefix_rfl, rfl⟩
  trans _ _ _ h h' := ⟨h'.needInstall ∘ h.needInstall, h.postBuildCmds.trans h'.postBuildCmds,
    h'.shellCmd.trans h.shellCmd⟩

/-- No edit takes anything away that a plan has collected. -/
theorem Edit.grown (e : Edit η) (p : Plan η) : p.Grown (e.apply p) := by
  have hsame {p' : Plan η} (hinstall : p'.needInstall = p.needInstall)
      (hcmds : p'.postBuildCmds = p.postBuildCmds) (hshell : p'.shellCmd = p.shellCmd) :
      p.Grown p' :=
    ⟨fun h => hinstall.trans h, hcmds ▸ List.prefix_rfl, hshell⟩
  -- only two edits are about what comes after the build
  cases e with
  | needInstall => exact ⟨fun _ => rfl, List.prefix_rfl, rfl⟩
  | afterBuild command => exact ⟨id, List.prefix_append _ _, rfl⟩
  | addHook phase hook => cases phase <;> exact hsame rfl rfl rfl
  | wrap dir =>
    rw [apply]
    split
    · exact refl_of Plan.Grown p
    · exact hsame rfl rfl rfl
  | _ => exact hsame rfl rfl rfl

theorem Edited.grown {S : Edit η → Prop} {p p' : Plan η} (h : Edited S p p') : p.Grown p' :=
  h.keeps fun e _ p => e.grown p

end

/-! ## Steps that succeed -/

namespace Setup

variable {η σ α : Type} {around : Surroundings σ} {d d' : Draft η σ}

/-- What goes on after a check has passed the check. -/
theorem run_guarded_eq_ok {c : Prop} [Decidable c] {text : String} {x : Setup η σ α} {a : α}
    (h : eval ((if c then (do let _ ← reject (α := PUnit) text; x) else x).run around) d =
      (.ok a, d')) :
    ¬ c ∧ eval (x.run around) d = (.ok a, d') := by
  by_cases hc : c
  · rw [if_pos hc] at h
    obtain ⟨_, _, hreject, -⟩ := run_bind_eq_ok h
    cases hreject
  · rw [if_neg hc] at h
    exact ⟨hc, h⟩

/-- An analyzer of scripts that scans the directory of the installation has it filled. -/
theorem needInstall_of_dirsToScan {tool dirs : String} {scanBuild scanInstall : Option Bool}
    (h : eval ((dirsToScan tool scanBuild scanInstall).run around) d = (.ok dirs, d'))
    (hinstall : scanInstall.getD (!d.plan.shellCmd.isSome) = true) :
    d'.plan.needInstall = true ∧ Text.contains Plan.buildRootDir dirs = true := by
  rw [eval_dirsToScan, hinstall] at h
  dsimp only at h
  split at h
  · cases h
  split at h
  · cases h
  · cases h
    exact ⟨rfl, Text.contains_join _ (List.mem_append_right _ (List.mem_singleton_self _))⟩

/-- The plan grows across a step that does nothing to it but edits. -/
theorem Edits.grown {S : Edit η → Prop} {x : Setup η σ α} (hx : Edits around.scope S x)
    {result : Except ScanError α} (h : eval (x.run around) d = (result, d')) :
    d.plan.Grown d'.plan :=
  (hx.edited h trivial).2.grown

end Setup

open Setup

/-! ## Analyzers of scripts -/

/-- A plan has the directory of the installation filled and a command that reads it. -/
structure Plan.ReadsBuildRoot {η : Type} (p : Plan η) : Prop where
  needInstall : p.needInstall = true
  reads : ∃ command ∈ p.postBuildCmds, Text.contains Plan.buildRootDir command = true

theorem Plan.Grown.readsBuildRoot {η : Type} {p p' : Plan η} (h : p.Grown p')
    (hp : p.ReadsBuildRoot) : p'.ReadsBuildRoot := by
  obtain ⟨command, hmem, hnamed⟩ := hp.reads
  exact ⟨h.needInstall hp.needInstall, command, h.postBuildCmds.subset hmem, hnamed⟩

variable {σ : Type} {around : Surroundings σ}

namespace ScriptAnalyzer

theorem contains_command (a : ScriptAnalyzer) (script dirs : String) :
    Text.contains dirs (a.command script dirs) = true := by
  have hmem : dirs ∈ script :: a.args ++ [dirs] :=
    List.mem_append_right _ (List.mem_singleton_self dirs)
  have hpreamble := Text.contains_trans (Text.contains_join " " hmem)
    (Text.contains_append_right a.preamble _)
  rw [command, String.append_assoc]
  exact Text.contains_trans hpreamble (Text.contains_append_left _ _)

/-- An analyzer of scripts that scans the directory of the installation has it filled, and its
command reads it. -/
theorem eval_configure {a : ScriptAnalyzer} {dirs : ScanDirs} {d d' : Draft Hook σ}
    (h : eval ((a.configure dirs).run around) d = (.ok (), d'))
    (hinstall : dirs.install.getD (!d.plan.shellCmd.isSome) = true) :
    d'.plan.ReadsBuildRoot := by
  obtain ⟨names, d₁, hdirs, h⟩ := run_bind_eq_ok h
  obtain ⟨hneed, hnamed⟩ := needInstall_of_dirsToScan hdirs hinstall
  obtain ⟨⟨⟩, d₂, hpkg, h⟩ := run_bind_eq_ok h
  obtain ⟨script, d₃, hhelper, h⟩ := run_bind_eq_ok h
  have hgrown : d₁.plan.Grown d₃.plan :=
    trans_of Plan.Grown ((Edits.install (S := Any) trivial).grown hpkg)
      ((Edits.helper (S := Any) fun _ => trivial).grown hhelper)
  obtain ⟨⟨⟩, d₄, hafter, h⟩ := run_bind_eq_ok h
  cases hafter
  have hreads : (Edit.apply d₃.plan (.afterBuild (a.command script names))).ReadsBuildRoot :=
    ⟨hgrown.needInstall hneed, _, List.mem_append_right _ (List.mem_singleton_self _),
      Text.contains_trans hnamed (a.contains_command script names)⟩
  -- the command is in the plan by now, and what is left to do takes nothing out of it
  have hrest : Edits around.scope Any (do
      copyOut a.capture
      recordVersion a.pkg
      filterRaw (a.name ++ "-filter") a.capture a.filter : Setup Hook σ Unit) :=
    .bind (.copyOut trivial) fun _ => .bind (.addHook trivial) fun _ => .addHook trivial
  exact (hrest.grown h).readsBuildRoot hreads

end ScriptAnalyzer

/-! ## All analyzers -/

/-- Visits without a failure do nothing to the plan but the edits of analyzers. -/
theorem Visited.edited {scope : Scope σ} {o : AnalyzerOptions} {visits : List (Visit Hook σ)}
    {d d' : Draft Hook σ} (hall : ∀ v ∈ visits, v.analyzer ∈ Registry.ofOptions o)
    (h : Visited scope.around d visits (.ok ()) d') (hs : scope.states d.host) :
    scope.states d'.host ∧ Edited (Edit.Allowed scope true true) d.plan d'.plan := by
  induction visits generalizing d with
  | nil =>
    rw [← h.eq_of_nil]
    exact ⟨hs, .refl _⟩
  | cons v visits ih =>
    obtain ⟨hv, hvisits⟩ := List.forall_mem_cons.1 hall
    obtain ⟨d₁, hfirst, hrest⟩ := h.of_cons
    obtain ⟨hs₁, hedited⟩ := (Visit.watches hv).edits.edited hfirst hs
    have hfirst := hedited.mono fun e he => he.mono (fun _ => rfl) fun _ => rfl
    exact (ih hvisits hrest hs₁).imp_right hfirst.trans

/-- The analyzers of scripts, each with the directories that it scans. -/
def AnalyzerOptions.scripts (o : AnalyzerOptions) : List (ScriptAnalyzer × ScanDirs) :=
  [(Shellcheck.script, o.shellcheck.dirs), (Pylint.script o.pylint, o.pylint.dirs),
    (Bandit.script o.bandit, o.bandit.dirs)]

namespace Registry

/-- Analyzers are told apart by their names. -/
theorem eq_of_name_eq {o : AnalyzerOptions} {a a' : Analyzer Hook σ} (ha : a ∈ ofOptions o)
    (ha' : a' ∈ ofOptions o) (h : a.name = a'.name) : a = a' :=
  List.inj_on_of_nodup_map (nodup_names_ofOptions o) ha ha' h

/-- Every script is one of an analyzer in the registry. -/
theorem exists_of_mem_scripts {o : AnalyzerOptions} {script : ScriptAnalyzer} {dirs : ScanDirs}
    (h : (script, dirs) ∈ o.scripts) :
    ∃ a ∈ (ofOptions o : Registry Hook σ), a.name = script.name ∧
      a.configure = script.configure dirs := by
  simp only [AnalyzerOptions.scripts, List.mem_cons, Prod.mk.injEq, List.not_mem_nil,
    or_false] at h
  rcases h with ⟨rfl, rfl⟩ | ⟨rfl, rfl⟩ | ⟨rfl, rfl⟩
  · exact ⟨Shellcheck.analyzer o.shellcheck, by simp [ofOptions], rfl, rfl⟩
  · exact ⟨Pylint.analyzer o.pylint, by simp [ofOptions], rfl, rfl⟩
  · exact ⟨Bandit.analyzer o.bandit, by simp [ofOptions], rfl, rfl⟩

/-- All analyzers, in the order in which they are configured. -/
def ordered (o : AnalyzerOptions) : Registry Hook σ :=
  [Valgrind.analyzer o.valgrind, Strace.analyzer o.strace, Bandit.analyzer o.bandit,
    Cbmc.analyzer o.cbmc, Clippy.analyzer, Divine.analyzer o.divine, Gitleaks.analyzer o.gitleaks,
    Infer.analyzer o.infer, Semgrep.analyzer o.semgrep, Snyk.analyzer o.snyk,
    Symbiotic.analyzer o.symbiotic, Gcc.analyzer o.gcc, Unicontrol.analyzer o.unicontrol,
    Cppcheck.analyzer o.cppcheck, Clang.analyzer o.clang, Smatch.analyzer,
    Pylint.analyzer o.pylint, Shellcheck.analyzer o.shellcheck]

/-- What decides the order does not depend on the options. -/
theorem arrange_ofOptions (o : AnalyzerOptions) :
    Ranked.arrange ranked (ofOptions o : Registry Hook σ) = .ok (ordered o) := by
  have hranked : (ofOptions o : Registry Hook σ).map ranked =
      (ofOptions {} : Registry Hook Unit).map ranked := rfl
  have horder : Ranked.order ((ofOptions {} : Registry Hook Unit).map ranked) =
      .ok [10, 11, 6, 14, 7, 12, 15, 9, 16, 17, 13, 0, 8, 2, 1, 3, 5, 4] := by
    decide +kernel
  rw [Ranked.arrange, hranked, horder]
  rfl

/-- Configuration of all analyzers that succeeds is a run of visits to them in this order. -/
theorem visited_ordered {o : AnalyzerOptions} {s : ToolSelection} {names : List String}
    {d d' : Draft Hook σ} (h : eval (((ofOptions o).configure s).run around) d = (.ok names, d')) :
    ∃ enabled, (ofOptions o : Registry Hook σ).enabled s = .ok enabled ∧
      names = enabledNames enabled (ordered o : Registry Hook σ) ∧
      Visited around d ((ordered o).map (visit enabled)) (.ok ()) d' := by
  obtain ⟨enabled, arranged, henabled, harranged, hnames, hvisited⟩ := visited_of_configure h
  rw [arrange_ofOptions] at harranged
  cases harranged
  exact ⟨enabled, henabled, hnames, hvisited⟩

theorem perm_ordered (o : AnalyzerOptions) : (ordered o : Registry Hook σ).Perm (ofOptions o) :=
  Ranked.perm_of_arrange (nodup_names_ofOptions o) (arrange_ofOptions o)

theorem mem_ofOptions_of_mem_visits {o : AnalyzerOptions} {enabled : List String}
    {v : Visit Hook σ} (hv : v ∈ (ordered o).map (visit enabled)) : v.analyzer ∈ ofOptions o := by
  obtain ⟨a, ha, rfl⟩ := List.mem_map.1 hv
  exact (perm_ordered o).mem_iff.1 ha

/-- Configuration of all analyzers that succeeds is a run of visits to all of them. -/
theorem visits_ofOptions {o : AnalyzerOptions} {s : ToolSelection} {names : List String}
    {d d' : Draft Hook σ} (h : eval (((ofOptions o).configure s).run around) d = (.ok names, d')) :
    ∃ visits, (visits.map Visit.analyzer).Perm (ofOptions o) ∧ configured visits = names ∧
      Visited around d visits (.ok ()) d' ∧ ∀ v ∈ visits, v.analyzer ∈ ofOptions o := by
  obtain ⟨enabled, -, rfl, hvisited⟩ := visited_ordered h
  have hanalyzers : ((ordered o).map (visit enabled)).map Visit.analyzer =
      (ordered o : Registry Hook σ) := by
    rw [List.map_map]
    exact List.map_id (ordered o)
  refine ⟨_, ?_, configured_map_visit enabled (ordered o), hvisited,
    fun v => mem_ofOptions_of_mem_visits⟩
  rw [hanalyzers]
  exact perm_ordered o

/-- The plan grows from visit to visit. -/
theorem grown_of_visited {o : AnalyzerOptions} {visits : List (Visit Hook σ)} {d d' : Draft Hook σ}
    (hall : ∀ v ∈ visits, v.analyzer ∈ ofOptions o) (h : Visited around d visits (.ok ()) d') :
    d.plan.Grown d'.plan := by
  have hscope : Visited around.scope.around d visits (.ok ()) d' := h
  exact (hscope.edited hall trivial).2.grown

/-- If an analyzer of scripts is among those configured and scans the directory of the installation,
the plan has that directory filled and a command that reads it. -/
theorem readsBuildRoot_of_configure {o : AnalyzerOptions} {s : ToolSelection} {names : List String}
    {d d' : Draft Hook σ}
    (h : eval (((ofOptions o).configure s).run around) d = (.ok names, d'))
    {script : ScriptAnalyzer} {dirs : ScanDirs} (hscript : (script, dirs) ∈ o.scripts)
    (hname : script.name ∈ names)
    (hinstall : dirs.install.getD (!d.plan.shellCmd.isSome) = true) :
    d'.plan.ReadsBuildRoot := by
  obtain ⟨visits, -, rfl, hvisited, hall⟩ := visits_ofOptions h
  obtain ⟨v, hv, henabled, hvname⟩ := mem_configured.1 hname
  obtain ⟨b, hb, hbname, hconfigure⟩ := exists_of_mem_scripts (σ := σ) hscript
  have hanalyzer : v.analyzer = b := eq_of_name_eq (hall v hv) hb (hvname.trans hbname.symm)
  have hwork : v.work = script.configure dirs := by
    rw [Visit.work, if_pos henabled, hanalyzer, hconfigure]
  obtain ⟨before, after, rfl⟩ := List.append_of_mem hv
  obtain ⟨d₁, hbefore, hrest⟩ := hvisited.of_append
  obtain ⟨d₂, hrun, hafter⟩ := hrest.of_cons
  have hgrown : d.plan.Grown d₁.plan :=
    grown_of_visited (fun v hv => hall v (List.mem_append_left _ hv)) hbefore
  have hbehind : d₂.plan.Grown d'.plan :=
    grown_of_visited (fun v hv => hall v (List.mem_append_right _ (List.mem_cons_of_mem _ hv)))
      hafter
  -- the plan that the analyzer finds builds by shell exactly if the first one did
  rw [← hgrown.shellCmd] at hinstall
  rw [hwork] at hrun
  exact hbehind.readsBuildRoot (ScriptAnalyzer.eval_configure hrun hinstall)

end Registry
end ChrootScan
