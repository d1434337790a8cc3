import ChrootScan.Proofs.Setup.Configuration
import ChrootScan.Proofs.Setup.Selection

/-!
# One analyzer at most watches

Valgrind, strace, Divine, Symbiotic and CBMC have built binaries run under commands of their own.
Every visit that is made puts the binaries under the command of its analyzer, if it has one and is
enabled, so the commands of all visits together are set one by one; and there is room for one.
-/

namespace ChrootScan

open Effect Setup

variable {σ : Type} {around : Surroundings σ} {o : AnalyzerOptions} {s : ToolSelection}
  {d d' : Draft Hook σ} {visits : List (Visit Hook σ)} {names : List String}

/-! ## Visits -/

/-- The commands of those that visits configure. -/
theorem filterMap_configured_cons (v : Visit Hook σ) (visits : List (Visit Hook σ)) :
    (configured (v :: visits)).filterMap o.watchCmd? =
      (if v.enabled then o.watchCmd? v.analyzer.name else none).toList ++
        (configured visits).filterMap o.watchCmd? := by
  by_cases hv : v.enabled = true
  · rw [configured, List.filter_cons_of_pos hv, List.map_cons, List.filterMap_cons, if_pos hv]
    cases o.watchCmd? v.analyzer.name with
    | none => rfl
    | some argv => rfl
  · rw [configured, List.filter_cons_of_neg hv, if_neg hv]
    rfl

/-- Visits without a failure put built binaries under the commands of all that they configure. -/
theorem Visited.putUnder (hall : ∀ v ∈ visits, v.analyzer ∈ Registry.ofOptions o)
    (h : Visited around d visits (.ok ()) d') :
    Plan.PutUnder (((configured visits).filterMap o.watchCmd?).map (Text.join Plan.execSeparator))
      d.plan d'.plan := by
  induction visits generalizing d with
  | nil =>
    rw [h.eq_of_nil]
    exact .refl _
  | cons v visits ih =>
    obtain ⟨hv, hvisits⟩ := List.forall_mem_cons.1 hall
    obtain ⟨d₁, hfirst, hrest⟩ := h.of_cons
    have hwork : eval (v.work.run around.scope.around) d = (.ok (), d₁) := hfirst
    have hstep := (Visit.watches hv).putUnder hwork trivial
    rw [filterMap_configured_cons, List.map_append]
    exact hstep.trans (ih hvisits hrest)

/-! ## Configuration -/

namespace Registry

/-- There is room for one command. -/
theorem length_filter_watchCmd?_le_one (hall : ∀ v ∈ visits, v.analyzer ∈ ofOptions o)
    (h : Visited around d visits (.ok ()) d') :
    ((configured visits).filter fun name => (o.watchCmd? name).isSome).length ≤ 1 := by
  have hlength := (h.putUnder hall).length_le_one
  rwa [List.length_map, List.length_filterMap_eq_countP, List.countP_eq_length_filter] at hlength

/-- Whoever watches is not disturbed by later visits. -/
theorem watchedBy_of_visited (hstart : d.plan.watch? = none)
    (hall : ∀ v ∈ visits, v.analyzer ∈ ofOptions o) (h : Visited around d visits (.ok ()) d')
    {name : String} (hname : name ∈ configured visits) {argv : List String}
    (hargv : o.watchCmd? name = some argv) : d'.plan.WatchedBy argv :=
  (h.putUnder hall).watchedBy hstart (List.mem_filterMap.2 ⟨name, hname, hargv⟩)

/-- Two analyzers that watch are not configured together. -/
theorem eq_of_watchCmd? {name name' : String}
    (hone : (names.filter fun name => (o.watchCmd? name).isSome).length ≤ 1)
    (hname : name ∈ names) (hname' : name' ∈ names) (hcmd : (o.watchCmd? name).isSome = true)
    (hcmd' : (o.watchCmd? name').isSome = true) : name = name' := by
  by_contra hne
  have hnodup : [name, name'].Nodup := by simpa using hne
  have hsub : [name, name'] ⊆ names.filter fun name => (o.watchCmd? name).isSome := by
    simp [hname, hname', hcmd, hcmd']
  have hlength := (hnodup.subperm hsub).length_le
  rw [List.length_cons, List.length_singleton] at hlength
  omega

/-- Configuration of all analyzers, from a plan without a command that built binaries run under. If
it succeeds, one of the configured analyzers at most watches built binaries. From its visit on they
are under its command, whatever is visited later; without such an analyzer there is no command.
Configuration fails if two of the analyzers that watch are enabled. -/
theorem configure_watched_once (hstart : d.plan.env.contains Plan.execWrapVar = false) :
    (∀ names d', eval (((ofOptions o).configure s).run around) d = (.ok names, d') →
      (names.filter fun name => (o.watchCmd? name).isSome).length ≤ 1 ∧
      (∃ visits, (visits.map Visit.analyzer).Perm (ofOptions o) ∧ configured visits = names ∧
        Visited around d visits (.ok ()) d' ∧
        ∀ name ∈ names, ∀ argv, o.watchCmd? name = some argv → d'.plan.WatchedBy argv ∧
          ∀ before later, visits = before ++ later → name ∈ configured before →
            ∃ d₁, Visited around d before (.ok ()) d₁ ∧ Visited around d₁ later (.ok ()) d' ∧
              d₁.plan.WatchedBy argv) ∧
      ((∀ name ∈ names, o.watchCmd? name = none) →
        d'.plan.env.contains Plan.execWrapVar = false)) ∧
    (∀ name name', name ≠ name' → (o.watchCmd? name).isSome → (o.watchCmd? name').isSome →
      (ofOptions o : Registry Hook σ).Wanted s name →
      (ofOptions o : Registry Hook σ).Wanted s name' →
      ∃ e d', eval (((ofOptions o).configure s).run around) d = (.error e, d')) := by
  have hnone : d.plan.watch? = none := Plan.watch?_eq_none_iff.2 hstart
  constructor
  · intro names d' h
    obtain ⟨visits, hperm, rfl, hvisited, hall⟩ := visits_ofOptions h
    refine ⟨?one, ⟨visits, hperm, rfl, hvisited, ?watched⟩, ?unwatched⟩
    case one => exact length_filter_watchCmd?_le_one hall hvisited
    case watched =>
      intro name hname argv hargv
      refine ⟨watchedBy_of_visited hnone hall hvisited hname hargv, ?_⟩
      -- the visits up to any place are again visits from the first draft
      intro before later hsplit hbefore
      subst hsplit
      obtain ⟨d₁, hfirst, hlater⟩ := hvisited.of_append
      have hallBefore : ∀ v ∈ before, v.analyzer ∈ ofOptions o :=
        fun v hv => hall v (List.mem_append_left _ hv)
      exact ⟨d₁, hfirst, hlater, watchedBy_of_visited hnone hallBefore hfirst hbefore hargv⟩
    case unwatched =>
      intro hnobody
      have hcommands : (configured visits).filterMap o.watchCmd? = [] :=
        List.filterMap_eq_nil_iff.2 hnobody
      have hput := hvisited.putUnder hall
      rw [hcommands] at hput
      exact Plan.watch?_eq_none_iff.1 (hput.watch?_eq_none hnone)
  · intro name name' hne hcmd hcmd' hwanted hwanted'
    rcases h : eval (((ofOptions o).configure s).run around) d with ⟨e | names, d'⟩
    · exact ⟨e, d', rfl⟩
    · have hmem := (mem_names_of_configure (nodup_names_ofOptions o) h).2 hwanted
      have hmem' := (mem_names_of_configure (nodup_names_ofOptions o) h).2 hwanted'
      obtain ⟨visits, -, rfl, hvisited, hall⟩ := visits_ofOptions h
      have hone := length_filter_watchCmd?_le_one hall hvisited
      exact absurd (eq_of_watchCmd? hone hmem hmem' hcmd hcmd') hne

/-- Valgrind alone, configured on a host that has the compiler wrapper. -/
def valgrindAlone : Except ScanError (List String) × Draft Hook Host.Memory :=
  let host : Host.Memory :=
    ({} : Host.Memory).addCommand ["cswrap", "--print-path-to-wrap"] "/usr/lib64/cswrap"
  eval (((ofOptions {}).configure { tools := some ["valgrind"] }).run { host := Host.memory })
    ⟨Plan.start 30, host⟩

/-- Valgrind alone watches; together with strace it is refused. -/
theorem configure_watched_once_valgrind :
    valgrindAlone.1 = .ok ["valgrind"] ∧
      valgrindAlone.2.plan.WatchedBy (Valgrind.Options.wrapCmd {}) ∧
      ∃ e d', eval (((ofOptions {}).configure { tools := some ["valgrind", "strace"] }).run
        { host := Host.memory }) ⟨Plan.start 30, {}⟩ = (.error e, d') := by
  have hok : valgrindAlone.1 = .ok ["valgrind"] := by decide +kernel
  have hconfigured : valgrindAlone = (.ok ["valgrind"], valgrindAlone.2) := by
    rw [← hok]
  have hstart : (Plan.start 30 : Plan Hook).env.contains Plan.execWrapVar = false := by decide
  obtain ⟨-, ⟨visits, -, -, -, hwatched⟩, -⟩ := (configure_watched_once hstart).1 _ _ hconfigured
  obtain ⟨hwatchedBy, -⟩ := hwatched "valgrind" (List.mem_singleton_self _) _ rfl
  have hfirst : (ofOptions {} : Registry Hook Host.Memory).Wanted
      { tools := some ["valgrind", "strace"] } "valgrind" :=
    .named ⟨by decide, "valgrind", by decide, by decide +kernel⟩
  have hsecond : (ofOptions {} : Registry Hook Host.Memory).Wanted
      { tools := some ["valgrind", "strace"] } "strace" :=
    .named ⟨by decide, "strace", by decide, by decide +kernel⟩
  exact ⟨hok, hwatchedBy, (configure_watched_once hstart).2 _ _ (by decide) rfl rfl hfirst hsecond⟩

end Registry
end ChrootScan
