import ChrootScan.Proofs.Flags.Writing
import ChrootScan.Proofs.Setup.Configuration
import ChrootScan.Proofs.Setup.Selection

/-!
# Packages of a configured scan

The sanitizers of GCC do not go together with Valgrind. GCC refuses them if Valgrind is to be
installed when its turn comes, and keeps it out of the chroot from then on. That no configuration
has both is a matter of the order: Valgrind asks for its package before GCC looks.
-/

namespace ChrootScan

open Effect Setup

/-! ## Packages are only added -/

/-- A plan installs what another one installs, keeps out what that keeps out, and runs the tests of
the package if that does. -/
structure Plan.Stocked {η : Type} (p p' : Plan η) : Prop where
  installed : p.installPkgs ⊆ p'.installPkgs
  keptOut : p.installBlacklist ⊆ p'.installBlacklist
  tested : p.runCheck = true → p'.runCheck = true

section
variable {η : Type} {p p' : Plan η}

instance : IsPreorder (Plan η) Plan.Stocked where
  refl _ := ⟨List.Subset.refl _, List.Subset.refl _, id⟩
  trans _ _ _ h h' := ⟨List.Subset.trans h.installed h'.installed,
    List.Subset.trans h.keptOut h'.keptOut, h'.tested ∘ h.tested⟩

/-- What does not touch the packages takes none of them away. -/
theorem Plan.Stocked.of_same (hinstalled : p'.installPkgs = p.installPkgs)
    (hkeptOut : p'.installBlacklist = p.installBlacklist) (htested : p'.runCheck = p.runCheck) :
    p.Stocked p' :=
  ⟨hinstalled ▸ List.Subset.refl _, hkeptOut ▸ List.Subset.refl _, fun h => htested.trans h⟩

/-- No edit takes packages away, or the tests. -/
theorem Edit.stocked (e : Edit η) (p : Plan η) : p.Stocked (e.apply p) := by
  cases e with
  | install pkgs => exact ⟨List.subset_append_left _ _, List.Subset.refl _, id⟩
  | blacklist pkgs => exact ⟨List.Subset.refl _, List.subset_append_left _ _, id⟩
  | exec => exact ⟨List.subset_append_left _ _, List.Subset.refl _, id⟩
  | runCheck => exact ⟨List.Subset.refl _, List.Subset.refl _, fun _ => rfl⟩
  | addHook phase hook => cases phase <;> exact .of_same rfl rfl rfl
  | wrap dir =>
    rw [apply]
    split
    · exact refl_of Plan.Stocked p
    · exact .of_same rfl rfl rfl
  | _ => exact .of_same rfl rfl rfl

/-- Edits one after the other take nothing away either. -/
theorem Edited.stocked {S : Edit η → Prop} (h : Edited S p p') : p.Stocked p' :=
  h.keeps fun e _ p => e.stocked p

end

variable {σ : Type} {around : Surroundings σ} {d d' : Draft Hook σ}

/-- A step of configuration takes no packages away, also when it fails half-way. -/
theorem Setup.Edits.stocked {α : Type} {S : Edit Hook → Prop} {x : Setup Hook σ α}
    (hx : Edits around.scope S x) {result : Except ScanError α}
    (h : eval (x.run around) d = (result, d')) : d.plan.Stocked d'.plan :=
  (hx.edited h trivial).2.stocked

/-- Nothing but Valgrind is kept out of the chroot. -/
def Plan.KeepsOutValgrind {η : Type} (p : Plan η) : Prop :=
  ∀ pkg ∈ p.installBlacklist, pkg = Gcc.valgrindPackage

/-- No edit of an analyzer keeps anything out but Valgrind. -/
theorem Edit.keepsOutValgrind {scope : Scope σ} {watch enter : Bool} {e : Edit Hook}
    (he : e.Allowed scope watch enter) {p : Plan Hook} (h : p.KeepsOutValgrind) :
    (e.apply p).KeepsOutValgrind := by
  cases e with
  | blacklist pkgs =>
    obtain rfl : pkgs = [Gcc.valgrindPackage] := he
    intro pkg hpkg
    exact (List.mem_append.1 hpkg).elim (h pkg) List.mem_singleton.1
  | addHook phase hook => cases phase <;> exact h
  | wrap dir =>
    rw [apply]
    split
    · exact h
    · exact h
  | _ => exact h

/-! ## Sanitizers -/

namespace Gcc

/-- A plan is prepared for sanitizers: it runs the tests of the package, keeps Valgrind out and
installs what the sanitizers need. -/
def PreparedFor (sanitizers : List Sanitizer) (p : Plan Hook) : Prop :=
  ∀ s ∈ sanitizers, p.runCheck = true ∧ valgrindPackage ∈ p.installBlacklist ∧
    s.pkgs ⊆ p.installPkgs

/-- A plan stays prepared when packages are added. -/
theorem PreparedFor.stocked {sanitizers : List Sanitizer} {p p' : Plan Hook}
    (h : PreparedFor sanitizers p) (hstocked : p.Stocked p') : PreparedFor sanitizers p' := by
  intro s hs
  obtain ⟨htested, hkeptOut, hinstalled⟩ := h s hs
  exact ⟨hstocked.tested htested, hstocked.keptOut hkeptOut,
    List.Subset.trans hinstalled hstocked.installed⟩

/-- Each sanitizer prepares the plan for itself. -/
theorem preparedFor_of_prepare {s : Sanitizer}
    (h : eval (s.prepare.run around) d = (.ok (), d')) : PreparedFor [s] d'.plan := by
  obtain ⟨⟨⟩, _, hcheck, h⟩ := run_bind_eq_ok h
  cases hcheck
  obtain ⟨⟨⟩, _, hinstall, h⟩ := run_bind_eq_ok h
  cases hinstall
  obtain ⟨⟨⟩, d₁, hkeep, h⟩ := run_bind_eq_ok h
  cases hkeep
  have hvars : Edits around.scope Any (s.vars.forM fun v => setVar v.1 v.2) :=
    .forM fun _ _ => .setVar trivial
  refine PreparedFor.stocked (fun t ht => ?_) (hvars.stocked h)
  obtain rfl := List.mem_singleton.1 ht
  exact ⟨rfl, List.mem_append_right _ (List.mem_singleton_self _), List.subset_append_right _ _⟩

/-- Preparing the plan for all sanitizers is made of edits. -/
theorem edits_prepareAll (sanitizers : List Sanitizer) :
    Edits around.scope Any (sanitizers.forM Sanitizer.prepare) :=
  .forM fun _ _ => Sanitizer.edits_prepare trivial trivial trivial fun _ _ => trivial

/-- The sanitizers are prepared for one after the other. -/
theorem preparedFor_of_forM {sanitizers : List Sanitizer}
    (h : eval ((sanitizers.forM Sanitizer.prepare).run around) d = (.ok (), d')) :
    PreparedFor sanitizers d'.plan := by
  induction sanitizers generalizing d with
  | nil => exact nofun
  | cons s sanitizers ih =>
    obtain ⟨⟨⟩, d₁, hfirst, hrest⟩ := run_bind_eq_ok h
    intro t ht
    rcases List.mem_cons.1 ht with rfl | ht
    · exact (preparedFor_of_prepare hfirst).stocked ((edits_prepareAll sanitizers).stocked hrest) t
        (List.mem_singleton_self t)
    · exact ih hrest t ht

/-- A sanitizer that is asked for is among those that are chosen. -/
theorem Options.sanitizers_ne_nil {o : Options} (h : o.anySanitizer = true) :
    o.sanitizers ≠ [] := by
  intro hnil
  simp only [sanitizers, List.append_eq_nil_iff, ite_eq_right_iff, List.cons_ne_nil, imp_false,
    Bool.not_eq_true] at hnil
  obtain ⟨⟨⟨haddress, hleak⟩, hthread⟩, hundefined⟩ := hnil
  rw [anySanitizer, haddress, hleak, hthread, hundefined] at h
  cases h

/-- What is left to do once the variables are set. -/
def configureSanitized (o : Options) (dir? : Option String) : Setup Hook σ Unit := do
  o.sanitizers.forM Sanitizer.prepare
  if o.anySanitizer && (← getPlan).installs valgrindPackage then
    reject "GCC sanitizers are not compatible with valgrind"
  configureBuild o dir?

/-- The configuration of GCC falls into the search for its analyzer, the variables and the rest. -/
theorem configure_eq (o : Options) :
    (configure o : Setup Hook σ Unit) = (do
      let dir? ← analyzerDir? o
      if o.setEnv then do
        setVar "CC" "gcc"
        setVar "CXX" "g++"
        configureSanitized o dir?
      else configureSanitized o dir?) :=
  rfl

/-- If sanitizers are configured, Valgrind was not to be installed, and the plan is prepared for all
of them. -/
theorem eval_configureSanitized {o : Options} (hany : o.anySanitizer = true) {dir? : Option String}
    (hdir : ∀ dir ∈ dir?, around.scope.Reports analyzerWrap dir)
    (h : eval ((configureSanitized o dir?).run around) d = (.ok (), d')) :
    valgrindPackage ∉ d.plan.installPkgs ∧ PreparedFor o.sanitizers d'.plan := by
  obtain ⟨⟨⟩, d₁, hprepare, h⟩ := run_bind_eq_ok h
  -- GCC looks behind its own preparations, and these take no package away
  have hbefore : d.plan.Stocked d₁.plan := (edits_prepareAll o.sanitizers).stocked hprepare
  obtain ⟨p, _, hplan, h⟩ := run_bind_eq_ok h
  cases hplan
  obtain ⟨hfree, h⟩ := run_guarded_eq_ok h
  have hbehind : d₁.plan.Stocked d'.plan := (edits_configureBuild o hdir).stocked h
  refine ⟨fun hmem => hfree ?_, (preparedFor_of_forM hprepare).stocked hbehind⟩
  rw [hany, Bool.true_and, Plan.installs, List.contains_iff_mem]
  exact hbefore.installed hmem

/-- GCC with sanitizers is configured only if Valgrind is not to be installed by then. -/
theorem eval_configure_sanitizers {o : Options} (hany : o.anySanitizer = true)
    (h : eval ((configure o).run around) d = (.ok (), d')) :
    valgrindPackage ∉ d.plan.installPkgs ∧ PreparedFor o.sanitizers d'.plan := by
  rw [configure_eq] at h
  obtain ⟨dir?, d₁, hdir, h⟩ := run_bind_eq_ok h
  have hbefore : d.plan.Stocked d₁.plan := (edits_analyzerDir? o).stocked hdir
  have hreported : ∀ dir ∈ dir?, around.scope.Reports analyzerWrap dir :=
    reports_of_analyzerDir? trivial hdir
  -- setting the variables touches no packages
  have hrest : valgrindPackage ∉ d₁.plan.installPkgs ∧ PreparedFor o.sanitizers d'.plan := by
    split at h
    · obtain ⟨⟨⟩, _, hcc, h⟩ := run_bind_eq_ok h
      cases hcc
      obtain ⟨⟨⟩, _, hcxx, h⟩ := run_bind_eq_ok h
      cases hcxx
      obtain ⟨hfree, hprepared⟩ := eval_configureSanitized hany hreported h
      exact ⟨hfree, hprepared⟩
    · exact eval_configureSanitized hany hreported h
  exact hrest.imp_left (mt (hbefore.installed ·))

end Gcc

/-! ## Configuration -/

/-- Valgrind has its package installed. -/
theorem Valgrind.mem_installPkgs_of_configure {o : Valgrind.Options}
    (h : eval ((Valgrind.configure o).run around) d = (.ok (), d')) :
    Gcc.valgrindPackage ∈ d'.plan.installPkgs := by
  obtain ⟨⟨⟩, d₁, hinstall, h⟩ := run_bind_eq_ok h
  cases hinstall
  refine Plan.Stocked.installed (Edits.stocked (S := Edit.Allowed around.scope true false) ?_ h)
    (List.mem_append_right _ (List.mem_singleton_self _))
  refine .bind (.addHook trivial) fun _ => .bind (watches_runUnder _ _ _).edits fun _ => ?_
  refine .bind (.runCheck trivial) fun _ => .bind (.copyOut trivial) fun _ => ?_
  exact .bind (.addHook trivial) fun _ => .addHook trivial

/-- A package is installed if it was asked for and is not kept out. -/
theorem Plan.mem_pkgsToInstall {η : Type} {p : Plan η} {pkg : String} :
    pkg ∈ p.pkgsToInstall ↔ pkg ∈ p.installPkgs ∧ pkg ∉ p.installBlacklist := by
  rw [pkgsToInstall, mem_distinct, List.mem_filter, Bool.not_eq_true', Bool.eq_false_iff, ne_eq,
    List.contains_iff_mem]

/-- Analyzers that are visited one by one take no packages away. -/
theorem Visited.stocked {o : AnalyzerOptions} {visits : List (Visit Hook σ)}
    (hall : ∀ v ∈ visits, v.analyzer ∈ Registry.ofOptions o)
    (h : Visited around d visits (.ok ()) d') : d.plan.Stocked d'.plan := by
  have hscope : Visited around.scope.around d visits (.ok ()) d' := h
  exact (hscope.edited hall trivial).2.stocked

namespace Registry

variable {o : AnalyzerOptions} {s : ToolSelection} {names : List String}

theorem enabled_of_mem_enabledNames {enabled : List String} {analyzers : Registry Hook σ}
    {name : String} (h : name ∈ enabledNames enabled analyzers) :
    enabled.contains name = true := by
  obtain ⟨a, ha, rfl⟩ := List.mem_map.1 h
  exact (List.mem_filter.1 ha).2

/-- Valgrind is the first analyzer to be configured, GCC comes later. -/
theorem exists_ordered_eq (o : AnalyzerOptions) :
    ∃ between after, (ordered o : Registry Hook σ) =
      Valgrind.analyzer o.valgrind :: (between ++ Gcc.analyzer o.gcc :: after) :=
  ⟨(ordered o).tail.take 10, (ordered o).drop 12, rfl⟩

/-- When GCC with sanitizers is configured, Valgrind was not. -/
theorem preparedFor_of_visited (hany : o.gcc.anySanitizer = true) {enabled : List String}
    (hgcc : enabled.contains "gcc" = true)
    (h : Visited around d ((ordered o).map (visit enabled)) (.ok ()) d') :
    enabled.contains "valgrind" = false ∧ Gcc.PreparedFor o.gcc.sanitizers d'.plan := by
  have hall : ∀ v ∈ (ordered o : Registry Hook σ).map (visit enabled), v.analyzer ∈ ofOptions o :=
    fun v => mem_ofOptions_of_mem_visits
  obtain ⟨between, after, hordered⟩ := exists_ordered_eq (σ := σ) o
  rw [hordered, List.map_cons, List.map_append, List.map_cons] at h hall
  obtain ⟨-, hlater⟩ := List.forall_mem_cons.1 hall
  obtain ⟨hbetween, hbehind⟩ := List.forall_mem_append.1 hlater
  obtain ⟨-, hafter⟩ := List.forall_mem_cons.1 hbehind
  obtain ⟨d₁, hvalgrind, h⟩ := h.of_cons
  obtain ⟨d₂, hvisits, h⟩ := h.of_append
  obtain ⟨d₃, hconfigure, hrest⟩ := h.of_cons
  have hwork : (visit enabled (Gcc.analyzer o.gcc : Analyzer Hook σ)).work = Gcc.configure o.gcc :=
    if_pos hgcc
  rw [hwork] at hconfigure
  obtain ⟨hfree, hprepared⟩ := Gcc.eval_configure_sanitizers hany hconfigure
  refine ⟨Bool.eq_false_iff.2 fun henabled => hfree ?_, hprepared.stocked (hrest.stocked hafter)⟩
  -- an enabled Valgrind has asked for its package before GCC looks
  have hwork : (visit enabled (Valgrind.analyzer o.valgrind : Analyzer Hook σ)).work =
      Valgrind.configure o.valgrind := if_pos henabled
  rw [hwork] at hvalgrind
  exact (hvisits.stocked hbetween).installed
    (Valgrind.mem_installPkgs_of_configure hvalgrind)

/-- Configuration of all analyzers that succeeds with a sanitizer of GCC, whatever packages are to
be installed before. GCC is configured then, and Valgrind is not; its package is not installed, not
even if something else asks for it. The tests of the package run, and what the sanitizers need is
installed. -/
theorem configure_sanitizers_without_valgrind (hany : o.gcc.anySanitizer = true)
    (hkept : d.plan.installBlacklist = [])
    (h : eval (((ofOptions o).configure s).run around) d = (.ok names, d')) :
    "gcc" ∈ names ∧ "valgrind" ∉ names ∧ "valgrind" ∉ d'.plan.pkgsToInstall ∧
      d'.plan.runCheck = true ∧
      ∀ san ∈ o.gcc.sanitizers, ∀ pkg ∈ san.pkgs, pkg ∈ d'.plan.pkgsToInstall := by
  have hgcc : "gcc" ∈ names := by
    have hgiven : o.gcc.anyGiven = true := by simp [Gcc.Options.anyGiven, hany]
    have hmem : Gcc.analyzer o.gcc ∈ (ofOptions o : Registry Hook σ) := List.mem_cons_self
    exact (mem_names_of_configure (nodup_names_ofOptions o) h).2 (.auto hmem hgiven)
  obtain ⟨enabled, -, rfl, hvisited⟩ := visited_ordered h
  obtain ⟨hvalgrind, hprepared⟩ :=
    preparedFor_of_visited hany (enabled_of_mem_enabledNames hgcc) hvisited
  obtain ⟨san, hsan⟩ := List.exists_mem_of_ne_nil _ (Gcc.Options.sanitizers_ne_nil hany)
  obtain ⟨htested, hkeptOut, -⟩ := hprepared san hsan
  refine ⟨hgcc, fun hmem => ?unlisted, fun hmem => ?absent, htested, fun san hsan pkg hpkg => ?pkgs⟩
  case unlisted =>
    exact Bool.eq_false_iff.1 hvalgrind (enabled_of_mem_enabledNames hmem)
  case absent =>
    exact (Plan.mem_pkgsToInstall.1 hmem).2 hkeptOut
  case pkgs =>
    -- what is kept out is not among the packages of the sanitizers
    have hscope : Visited around.scope.around d _ (.ok ()) d' := hvisited
    have hout : d'.plan.KeepsOutValgrind :=
      (hscope.edited (fun v => mem_ofOptions_of_mem_visits) trivial).2.preserves
        (fun e he _ => e.keepsOutValgrind he) (by rw [Plan.KeepsOutValgrind, hkept]; exact nofun)
    have hnames : ∀ san ∈ Gcc.allSanitizers, ∀ pkg ∈ san.pkgs, pkg ≠ Gcc.valgrindPackage := by
      decide
    refine Plan.mem_pkgsToInstall.2 ⟨(hprepared san hsan).2.2 hpkg, fun hmem => ?_⟩
    exact hnames san (o.gcc.sanitizers_subset hsan) pkg hpkg (hout pkg hmem)

/-- A sanitizer alone, on a host that has the compiler wrapper, with more packages to install. -/
def sanitizedAlone (pkgs : List String) :
    Except ScanError (List String) × Draft Hook Host.Memory :=
  let host : Host.Memory :=
    ({} : Host.Memory).addCommand (wrapQuery "cswrap") "/usr/lib64/cswrap"
  eval (((ofOptions { gcc := { sanitizeUndefined := true } }).configure
    { tools := some ["unicontrol"] }).run { host := Host.memory })
    ⟨{ Plan.start 30 with installPkgs := pkgs }, host⟩

/-- The sanitizer enables GCC, and is refused if Valgrind is to be installed. -/
theorem configure_sanitizers_without_valgrind_undefined :
    (sanitizedAlone ["gdb"]).1 = .ok ["gcc", "unicontrol"] ∧
      "libubsan-static" ∈ (sanitizedAlone ["gdb"]).2.plan.pkgsToInstall ∧
      (sanitizedAlone ["gdb", "valgrind"]).1 =
        .error (.usage "GCC sanitizers are not compatible with valgrind") := by
  have hok : (sanitizedAlone ["gdb"]).1 = .ok ["gcc", "unicontrol"] := by decide +kernel
  have hconfigured : sanitizedAlone ["gdb"] =
      (.ok ["gcc", "unicontrol"], (sanitizedAlone ["gdb"]).2) := by
    rw [← hok]
  obtain ⟨-, -, -, -, hpkgs⟩ :=
    configure_sanitizers_without_valgrind (by decide) rfl hconfigured
  have hpkg : "libubsan-static" ∈ (sanitizedAlone ["gdb"]).2.plan.pkgsToInstall :=
    hpkgs Gcc.undefinedSanitizer (by simp [Gcc.Options.sanitizers]) _ (by decide)
  exact ⟨hok, hpkg, by decide +kernel⟩

end Registry
end ChrootScan
