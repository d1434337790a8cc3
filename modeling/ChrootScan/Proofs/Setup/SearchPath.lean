import ChrootScan.Hook.Run
import ChrootScan.Proofs.Hook.InlineAnalyzer
import ChrootScan.Proofs.Setup.Configuration

/-!
# The path of a configured scan

Every visit to an enabled analyzer with a wrapper of its own puts one directory in front, so at the
end the directories stand in reverse of the order of configuration, and that of the compiler wrapper
is the last one. The hook of the analyzer inside the compiler finds it there.
-/

namespace ChrootScan

open Effect Setup

variable {σ : Type} {scope : Scope σ} {o : AnalyzerOptions} {d d' : Draft Hook σ}

/-! ## Visits -/

/-- A directory is one that the host reports for the wrapper of an analyzer. -/
def Scope.ReportsFor (scope : Scope σ) (name dir : String) : Prop :=
  ∃ wrapper ∈ Registry.wrapperOf? name, scope.Reports wrapper dir

/-- There are three wrappers beside that of the compiler. -/
theorem Registry.mem_of_wrapperOf? {name wrapper : String} (h : wrapper ∈ wrapperOf? name) :
    wrapper ∈ ["cscppc", "csclng", "csmatch"] := by
  obtain ⟨before, after, htable, -⟩ := List.lookup_eq_some_iff.1 h
  have hmem : (name, wrapper) ∈
      [("cppcheck", "cscppc"), ("clang", "csclng"), ("smatch", "csmatch")] := by
    rw [htable]
    exact List.mem_append_right _ List.mem_cons_self
  exact List.mem_map_of_mem (f := Prod.snd) hmem

/-- The directories in front of that of the compiler wrapper are those of the wrappers of the given
analyzers, in order. -/
def Plan.FrontedBy {η : Type} (scope : Scope σ) (names : List String) (p : Plan η) : Prop :=
  ∃ dirs, List.Forall₂ scope.ReportsFor names dirs ∧ p.Fronted scope dirs

/-- The analyzers with a wrapper of their own that visits configure, the last one first. -/
def enteredBy (visits : List (Visit Hook σ)) : List String :=
  ((configured visits).filter fun name => (Registry.wrapperOf? name).isSome).reverse

/-- The first analyzer with a wrapper comes last: those behind it enter in front of it. -/
theorem enteredBy_cons_of_enters {v : Visit Hook σ} (visits : List (Visit Hook σ))
    (hv : v.enabled = true) (hwrapper : (Registry.wrapperOf? v.analyzer.name).isSome = true) :
    enteredBy (v :: visits) = enteredBy visits ++ [v.analyzer.name] := by
  rw [enteredBy, configured, List.filter_cons_of_pos hv, List.map_cons, List.filter_cons,
    if_pos hwrapper, List.reverse_cons]
  rfl

/-- An analyzer that is not enabled, or has no wrapper, enters nothing. -/
theorem enteredBy_cons_of_not_enters {v : Visit Hook σ} (visits : List (Visit Hook σ))
    (hv : (v.enabled && (Registry.wrapperOf? v.analyzer.name).isSome) = false) :
    enteredBy (v :: visits) = enteredBy visits := by
  rw [enteredBy, configured, List.filter_cons]
  by_cases henabled : v.enabled = true
  · rw [henabled, Bool.true_and] at hv
    rw [if_pos henabled, List.map_cons, List.filter_cons, if_neg (Bool.eq_false_iff.1 hv)]
    rfl
  · rw [if_neg henabled]
    rfl

/-- Visits without a failure put the directories of all wrappers in front, one by one. -/
theorem Visited.frontedBy {visits : List (Visit Hook σ)} {names : List String}
    (hall : ∀ v ∈ visits, v.analyzer ∈ Registry.ofOptions o)
    (h : Visited scope.around d visits (.ok ()) d') (hs : scope.states d.host)
    (hd : d.plan.FrontedBy scope names) :
    d'.plan.FrontedBy scope (enteredBy visits ++ names) := by
  induction visits generalizing d names with
  | nil => rwa [← h.eq_of_nil]
  | cons v visits ih =>
    obtain ⟨hv, hvisits⟩ := List.forall_mem_cons.1 hall
    obtain ⟨d₁, hfirst, hrest⟩ := h.of_cons
    obtain ⟨dirs, hdirs, hfronted⟩ := hd
    have hedits : Edits scope _ v.work := (Visit.watches hv).edits
    have hs₁ := (hedits.edited hfirst hs).1
    -- the directories of this visit stand behind those of the later ones
    rcases henters : v.enabled && (Registry.wrapperOf? v.analyzer.name).isSome with _ | _
    · rw [enteredBy_cons_of_not_enters visits henters]
      rw [henters] at hedits
      exact ih hvisits hrest hs₁ ⟨dirs, hdirs, hedits.fronted hfirst hs hfronted⟩
    · rw [Bool.and_eq_true] at henters
      obtain ⟨henabled, hsome⟩ := henters
      obtain ⟨wrapper, hwrapper⟩ := Option.isSome_iff_exists.1 hsome
      rw [enteredBy_cons_of_enters visits henabled hsome, List.append_assoc, List.singleton_append]
      rw [Visit.work, if_pos henabled] at hfirst
      obtain ⟨dir, hreported, hlined⟩ := (wraps_ofOptions hv hwrapper).entered hfirst hs hfronted
      exact ih hvisits hrest hs₁
        ⟨dir :: dirs, .cons ⟨wrapper, hwrapper, hreported⟩ hdirs, .inl hlined⟩

/-! ## Hooks -/

theorem Plan.mem_hooks_addHook {η : Type} {p : Plan η} {phase phase' : HookPhase} {hook new : η}
    (h : hook ∈ (p.addHook phase' new).hooks phase) : hook ∈ p.hooks phase ∨ hook = new := by
  have hmem : hook ∈ p.hooks phase ∨ hook ∈ [new] := by
    cases phase' <;> cases phase <;> first | exact .inl h | exact List.mem_append.1 h
  exact hmem.imp_right List.mem_singleton.1

/-- Every analyzer inside the compiler that a plan schedules is called from a directory that the
host reports for its wrapper, unless it was scheduled in the plan `start`. -/
def Plan.AnalyzersReported (p : Plan Hook) (scope : Scope σ) (start : Plan Hook) : Prop :=
  ∀ phase a, .gccAnalyzer a ∈ p.hooks phase →
    .gccAnalyzer a ∈ start.hooks phase ∨ scope.Reports Gcc.analyzerWrap a.wrapPath

/-- An edit keeps the hooks of analyzers inside the compiler to directories that the host reports.
-/
theorem Edit.analyzersReported {watch enter : Bool} {e : Edit Hook}
    (he : e.Allowed scope watch enter) {start p : Plan Hook}
    (h : p.AnalyzersReported scope start) : (e.apply p).AnalyzersReported scope start := by
  intro phase a hmem
  cases e with
  | addHook phase' hook =>
    rcases Plan.mem_hooks_addHook hmem with hmem | rfl
    · exact h phase a hmem
    · exact .inr he
  | wrap dir =>
    have hsame : (Edit.apply p (.wrap dir)).hooks phase = p.hooks phase := by
      rw [Edit.apply]
      split
      · rfl
      · cases phase <;> rfl
    exact h phase a (hsame ▸ hmem)
  | _ => cases phase <;> exact h _ a hmem

/-! ## Configuration -/

namespace Registry

variable {s : ToolSelection} {names enabled : List String}

/-- Of the analyzers with a wrapper of their own, Cppcheck is configured first and Smatch last. -/
theorem enteredBy_ordered (o : AnalyzerOptions) (enabled : List String) :
    enteredBy ((ordered o : Registry Hook σ).map (visit enabled)) =
      ["smatch", "clang", "cppcheck"].filter fun name =>
        (enabledNames enabled (ordered o : Registry Hook σ)).contains name := by
  have hnames : enabledNames enabled (ordered o : Registry Hook σ) =
      ((ordered o : Registry Hook σ).map Analyzer.name).filter (enabled.contains ·) := by
    rw [List.filter_map]
    rfl
  have hwrappers : ((ordered o : Registry Hook σ).map Analyzer.name).filter
      (fun name => (wrapperOf? name).isSome) = ["cppcheck", "clang", "smatch"] := by
    show ((ordered {} : Registry Hook Unit).map Analyzer.name).filter _ = _
    decide
  rw [enteredBy, configured_map_visit, hnames, List.filter_comm, hwrappers, ← List.filter_reverse]
  refine List.filter_congr fun name hname => ?_
  -- all three are among the analyzers that there are
  have hthere : name ∈ (ordered o : Registry Hook σ).map Analyzer.name := by
    rw [List.mem_reverse, ← hwrappers] at hname
    exact (List.mem_filter.1 hname).1
  rw [Bool.eq_iff_iff, List.contains_iff_mem, List.contains_iff_mem, List.mem_filter,
    List.contains_iff_mem]
  exact ⟨fun henabled => ⟨hthere, henabled⟩, And.right⟩

/-- Configuration of all analyzers that succeeds, from a plan without the compiler wrapper and with
an empty path, on a host that tells the directory of that wrapper from the others by how it ends. If
the compiler wrapper is on then, its directory is the last one in the path, behind those of the
enabled analyzers with a wrapper of their own: Smatch, Clang and Cppcheck, in this order. The hook
of the analyzer inside the compiler puts the directory of its wrapper right before that of the
compiler wrapper once it is past its probe and its own wrapper script, and leaves the others as they
are. -/
theorem configure_path_in_order
    (hcswrap : ∀ dir, scope.Reports "cswrap" dir → Text.endsWith "/cswrap" dir = true)
    (hothers : ∀ wrapper ∈ ["cscppc", "csclng", "csmatch"], ∀ dir, scope.Reports wrapper dir →
      Text.endsWith "/cswrap" dir = false)
    (hs : scope.states d.host) (hpath : d.plan.path = []) (hoff : d.plan.wrapEnabled = false)
    (h : eval (((ofOptions o).configure s).run scope.around) d = (.ok names, d'))
    (hon : d'.plan.wrapEnabled = true) :
    ∃ dirs dir, scope.Reports "cswrap" dir ∧ d'.plan.wrapPath = some dir ∧
      d'.plan.path = dirs ++ [dir] ∧
      List.Forall₂ scope.ReportsFor (["smatch", "clang", "cppcheck"].filter names.contains) dirs ∧
      d'.plan.AnalyzersReported scope d.plan ∧
      ∀ a job job', job.plan.path = d'.plan.path → Gcc.Ready a job job' →
        (eval (Hook.run (.gccAnalyzer a)) job).2.plan.path = dirs ++ [a.wrapPath, dir] := by
  obtain ⟨enabled, -, rfl, hvisited⟩ := visited_ordered h
  have hall : ∀ v ∈ (ordered o : Registry Hook σ).map (visit enabled), v.analyzer ∈ ofOptions o :=
    fun v => mem_ofOptions_of_mem_visits
  -- nothing is entered at the start, and every visit keeps to that order
  have hstart : d.plan.FrontedBy scope [] := ⟨[], .nil, .inr ⟨rfl, hoff, hpath⟩⟩
  obtain ⟨dirs, hdirs, hfronted⟩ := hvisited.frontedBy hall hs hstart
  rw [List.append_nil, enteredBy_ordered] at hdirs
  have hlined := hfronted.resolve_right fun hnone => Bool.eq_false_iff.1 hnone.2.1 hon
  obtain ⟨dir, hreported, hwrapPath, hlast⟩ := hlined.path
  refine ⟨dirs, dir, hreported, hwrapPath, hlast, hdirs, ?hooks, ?run⟩
  case hooks =>
    exact (hvisited.edited hall hs).2.preserves (I := (Plan.AnalyzersReported · scope d.plan))
      (fun e he _ => e.analyzersReported he) fun phase a hmem => .inl hmem
  case run =>
    intro a job job' hsame hready
    -- the other wrappers are found elsewhere, so the analyzer's goes right in front of the last one
    have hends (dir name : String) (h : scope.ReportsFor name dir) :
        Text.endsWith "/cswrap" dir = false ∧ scope.ReportsFor name dir := by
      obtain ⟨wrapper, hwrapper, hreported⟩ := h
      exact ⟨hothers wrapper (mem_of_wrapperOf? hwrapper) dir hreported, wrapper, hwrapper,
        hreported⟩
    have hfront : ∀ dir ∈ dirs, Text.endsWith "/cswrap" dir = false :=
      ((List.forall₂_and_left _ _).1 (hdirs.flip.imp hends)).1
    exact hready.path_runAnalyzer (hsame.trans hlast) hfront (hcswrap dir hreported)

/-- A host that has the compiler wrapper and all other wrappers. -/
def wrappersHost : Host.Memory :=
  [("cswrap", "/usr/lib64/cswrap"), ("csclng", "/usr/lib64/csclng"),
    ("cscppc", "/usr/lib64/cscppc"), ("csmatch", "/usr/lib64/csmatch"),
    (Gcc.analyzerWrap, "/usr/lib64/csgcca")].foldl
    (fun host (wrapper, dir) => host.addCommand (wrapQuery wrapper) dir) {}

/-- Asking that host leaves it as it is. -/
def wrappersScope : Scope Host.Memory where
  around := { host := Host.memory }
  states := (· = wrappersHost)
  commandOutput _ _ := id
  shellSucceeds _ _ := id

/-- All analyzers of compiled code, configured on that host. -/
def allWrapped : Except ScanError (List String) × Draft Hook Host.Memory :=
  eval (((ofOptions { gcc := { analyze := true } }).configure
    { tools := some ["gcc", "clang", "cppcheck", "smatch"] }).run wrappersScope.around)
    ⟨Plan.start 30, wrappersHost⟩

/-- The scan that was configured, on a machine on which every program succeeds. -/
def wrappedJob : Job Hook where
  bench :=
    { machine :=
        { vars := .empty, behaviour := fun _ _ _ _ => .started { location := "/usr/bin/mock" } }
      record := { output := "" } }
  plan := allWrapped.2.plan

/-- All three analyzers with a wrapper of their own have a directory in the path, and the analyzer
inside the compiler gets its place. -/
theorem configure_path_in_order_all :
    ∃ dirs dir, allWrapped.2.plan.path = dirs ++ [dir] ∧ dirs.length = 3 ∧
      (eval (Hook.run (.gccAnalyzer { wrapPath := "/usr/lib64/csgcca" })) wrappedJob).2.plan.path =
        dirs ++ ["/usr/lib64/csgcca", dir] := by
  have hok : allWrapped.1 = .ok ["gcc", "cppcheck", "clang", "smatch"] := by decide +kernel
  have hconfigured : allWrapped = (.ok ["gcc", "cppcheck", "clang", "smatch"], allWrapped.2) := by
    rw [← hok]
  -- what that host answers does not depend on when it is asked
  have hcswrap (dir : String) (h : wrappersScope.Reports "cswrap" dir) :
      Text.endsWith "/cswrap" dir = true := by
    obtain ⟨_, rfl, hdir⟩ := h
    have hanswer : ((wrappersScope.around.host.commandOutput (wrapQuery "cswrap")
      wrappersHost).1.all (Text.endsWith "/cswrap")) = true := by decide +kernel
    rw [hdir] at hanswer
    exact hanswer
  have hothers (wrapper : String) (hwrapper : wrapper ∈ ["cscppc", "csclng", "csmatch"])
      (dir : String) (h : wrappersScope.Reports wrapper dir) :
      Text.endsWith "/cswrap" dir = false := by
    obtain ⟨_, rfl, hdir⟩ := h
    have hanswer : ∀ wrapper ∈ ["cscppc", "csclng", "csmatch"],
        ((wrappersScope.around.host.commandOutput (wrapQuery wrapper) wrappersHost).1.any
          (Text.endsWith "/cswrap")) = false := by decide +kernel
    have hended := hanswer wrapper hwrapper
    rw [hdir] at hended
    exact hended
  have hs : wrappersScope.states
      (⟨Plan.start 30, wrappersHost⟩ : Draft Hook Host.Memory).host := rfl
  have hprobe : (eval (Hook.runChrootCmd (Gcc.probeCmd "gcc") true) wrappedJob).1.toOption =
      some 0 := by decide +kernel
  have hready : Gcc.Ready { wrapPath := "/usr/lib64/csgcca" } wrappedJob
      (eval (Hook.runChrootCmd (Gcc.probeCmd "gcc") true) wrappedJob).2 := by
    refine .own rfl ?_
    rcases h : eval (Hook.runChrootCmd (Gcc.probeCmd "gcc") true) wrappedJob with ⟨e | code, job⟩
    · rw [h] at hprobe
      cases hprobe
    · rw [h] at hprobe
      cases hprobe
      rfl
  obtain ⟨dirs, dir, -, -, hpath, hdirs, -, hrun⟩ :=
    configure_path_in_order hcswrap hothers hs rfl rfl hconfigured (by decide +kernel)
  exact ⟨dirs, dir, hpath, hdirs.length_eq.symm.trans (by decide), hrun _ _ _ rfl hready⟩

end Registry
end ChrootScan
