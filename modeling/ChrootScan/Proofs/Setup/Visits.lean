import ChrootScan.Analyzer.Registry
import ChrootScan.Proofs.Effect

/-!
# Analyzers visited in order

Configuring a registry is visiting its analyzers one after the other: those that are enabled edit
the plan, the others do what they do when they are not. `Visited` is such a run, from one draft to
another one, and `Visits` says that a step of configuration is nothing but a run of planned visits,
up to the first that fails, whatever the analyzers do.
-/

namespace ChrootScan

open Effect

/-- A visit to one analyzer. -/
structure Visit (η σ : Type) where
  analyzer : Analyzer η σ
  enabled : Bool

variable {η σ α β : Type} {around : Surroundings σ}

/-- What a visit does to the draft. -/
def Visit.work (v : Visit η σ) : Setup η σ Unit :=
  if v.enabled then v.analyzer.configure else v.analyzer.configureDisabled

/-- The names of the analyzers that visits configure, in order. -/
def configured (visits : List (Visit η σ)) : List String :=
  (visits.filter Visit.enabled).map fun v => v.analyzer.name

/-- An analyzer is configured if it is visited as one that is enabled. -/
theorem mem_configured {visits : List (Visit η σ)} {name : String} :
    name ∈ configured visits ↔ ∃ v ∈ visits, v.enabled = true ∧ v.analyzer.name = name := by
  simp only [configured, List.mem_map, List.mem_filter, and_assoc]

/-- Visits that were made one after the other, each to the draft that the one before has left, with
their outcome and the last draft. -/
inductive Visited (around : Surroundings σ) :
    Draft η σ → List (Visit η σ) → Except ScanError Unit → Draft η σ → Prop
  | nil (d : Draft η σ) : Visited around d [] (.ok ()) d
  /-- Nothing is visited behind a visit that fails. -/
  | failed {d d' : Draft η σ} {v : Visit η σ} {e : ScanError} :
    eval (v.work.run around) d = (.error e, d') → Visited around d [v] (.error e) d'
  | cons {d d₁ d' : Draft η σ} {v : Visit η σ} {visits : List (Visit η σ)}
    {result : Except ScanError Unit} :
    eval (v.work.run around) d = (.ok (), d₁) → Visited around d₁ visits result d' →
      Visited around d (v :: visits) result d'

namespace Visited

variable {d d₁ d' : Draft η σ} {visits more : List (Visit η σ)} {result : Except ScanError Unit}

theorem eq_of_nil (h : Visited around d [] (.ok ()) d') : d = d' := by
  cases h
  rfl

/-- Visits that all succeed begin with one that does. -/
theorem of_cons {v : Visit η σ} (h : Visited around d (v :: visits) (.ok ()) d') :
    ∃ d₁, eval (v.work.run around) d = (.ok (), d₁) ∧ Visited around d₁ visits (.ok ()) d' := by
  cases h with
  | cons hv hrest => exact ⟨_, hv, hrest⟩

/-- Visits without a failure can be cut anywhere. -/
theorem of_append (h : Visited around d (visits ++ more) (.ok ()) d') :
    ∃ d₁, Visited around d visits (.ok ()) d₁ ∧ Visited around d₁ more (.ok ()) d' := by
  induction visits generalizing d with
  | nil => exact ⟨d, .nil d, h⟩
  | cons v visits ih =>
    obtain ⟨d₂, hv, hrest⟩ := h.of_cons
    obtain ⟨d₁, hvisits, hmore⟩ := ih hrest
    exact ⟨d₁, .cons hv hvisits, hmore⟩

end Visited

/-- A step of configuration makes the planned visits in order, up to the first that fails, and does
nothing else; if none fails, it answers `answer`. -/
def Visits (x : Setup η σ α) (planned : List (Visit η σ)) (answer : α) : Prop :=
  ∀ around d, ∃ made result d', Visited around d made result d' ∧ made <+: planned ∧
    (result = .ok () → made = planned) ∧
    eval (x.run around) d = (result.map fun _ => answer, d')

namespace Visits

variable {x : Setup η σ α} {planned : List (Visit η σ)} {answer : α}

theorem pure (a : α) : Visits (pure a : Setup η σ α) [] a :=
  fun _ d => ⟨[], .ok (), d, .nil d, List.prefix_rfl, fun _ => rfl, rfl⟩

/-- Something made of the answer adds no visit. -/
theorem map (h : Visits x planned answer) (f : α → β) :
    Visits (x >>= fun a => Pure.pure (f a)) planned (f answer) := by
  intro around d
  obtain ⟨made, result, d', hvisited, hprefix, hall, heval⟩ := h around d
  refine ⟨made, result, d', hvisited, hprefix, hall, ?_⟩
  cases result with
  | error e => exact eval_bind_error heval _
  | ok => exact eval_bind_ok heval _

/-- One more visit comes in front, and those behind it are made only if it succeeds. -/
theorem cons (v : Visit η σ) (h : Visits x planned answer) :
    Visits (v.work >>= fun _ => x) (v :: planned) answer := by
  intro around d
  rcases hv : eval (v.work.run around) d with ⟨e | ⟨⟩, d₁⟩
  · -- the first visit fails, and is the only one made
    refine ⟨[v], .error e, d₁, .failed hv, ⟨planned, rfl⟩, fun hok => ?_, ?_⟩
    · cases hok
    · exact eval_bind_error hv _
  · obtain ⟨made, result, d', hvisited, hprefix, hall, heval⟩ := h around d₁
    refine ⟨v :: made, result, d', .cons hv hvisited, ?_, fun hok => ?_, ?_⟩
    · exact List.cons_prefix_cons.2 ⟨rfl, hprefix⟩
    · rw [hall hok]
    · exact (eval_bind_ok hv _).trans heval

/-- A step that succeeds has made all visits. -/
theorem visited_of_ok (h : Visits x planned answer) {a : α} {d d' : Draft η σ}
    (hok : eval (x.run around) d = (.ok a, d')) :
    a = answer ∧ Visited around d planned (.ok ()) d' := by
  obtain ⟨made, result, d₁, hvisited, -, hall, heval⟩ := h around d
  rw [heval] at hok
  cases result with
  | error e => cases hok
  | ok =>
    cases hok
    rw [← hall rfl]
    exact ⟨rfl, hvisited⟩

end Visits

/-! ## The analyzers of a registry -/

namespace Registry

/-- The visit to an analyzer, given the names of those that are enabled. -/
def visit (enabled : List String) (a : Analyzer η σ) : Visit η σ :=
  ⟨a, enabled.contains a.name⟩

/-- The names of those analyzers that are enabled. -/
def enabledNames (enabled : List String) (analyzers : List (Analyzer η σ)) : List String :=
  (analyzers.filter fun a => enabled.contains a.name).map Analyzer.name

/-- The analyzers that are configured are those that are enabled. -/
theorem configured_map_visit (enabled : List String) (analyzers : List (Analyzer η σ)) :
    configured (analyzers.map (visit enabled)) = enabledNames enabled analyzers := by
  rw [configured, List.filter_map, List.map_map]
  rfl

/-- Configuring a registry is nothing but a visit to each of its analyzers, in order. -/
theorem visits_configureAll (enabled : List String) (analyzers : List (Analyzer η σ)) :
    Visits (configureAll enabled analyzers) (analyzers.map (visit enabled))
      (enabledNames enabled analyzers) := by
  induction analyzers with
  | nil => exact .pure []
  | cons a rest ih =>
    by_cases ha : enabled.contains a.name = true
    · have hnames : enabledNames enabled (a :: rest) = a.name :: enabledNames enabled rest := by
        simp only [enabledNames, List.filter_cons, if_pos ha, List.map_cons]
      have hwork : (visit enabled a).work = a.configure := if_pos ha
      rw [configureAll, if_pos ha, hnames, List.map_cons, ← hwork]
      exact .cons _ (ih.map fun names => a.name :: names)
    · have hnames : enabledNames enabled (a :: rest) = enabledNames enabled rest := by
        simp only [enabledNames, List.filter_cons, if_neg ha]
      have hwork : (visit enabled a).work = a.configureDisabled := if_neg ha
      rw [configureAll, if_neg ha, hnames, List.map_cons, ← hwork]
      exact .cons _ ih

/-- Once it is known who is enabled and in which order they come, configuring a registry is
visiting its analyzers. -/
theorem visits_configure {r : Registry η σ} {s : ToolSelection} {enabled : List String}
    {ordered : List (Analyzer η σ)} (henabled : r.enabled s = .ok enabled)
    (hordered : Ranked.arrange ranked r = .ok ordered) :
    Visits (r.configure s) (ordered.map (visit enabled)) (enabledNames enabled ordered) := by
  have hconfigure : ∀ around d, eval ((r.configure s).run around) d =
      eval ((configureAll enabled ordered).run around) d := by
    intro around d
    rw [configure, henabled, hordered]
    rfl
  intro around d
  rw [hconfigure]
  exact visits_configureAll enabled ordered around d

/-- Configuration that succeeds has visited all analyzers. -/
theorem visited_of_configure {r : Registry η σ} {s : ToolSelection} {names : List String}
    {d d' : Draft η σ} (h : eval ((r.configure s).run around) d = (.ok names, d')) :
    ∃ enabled ordered, r.enabled s = .ok enabled ∧ Ranked.arrange ranked r = .ok ordered ∧
      names = enabledNames enabled ordered ∧
      Visited around d (ordered.map (visit enabled)) (.ok ()) d' := by
  cases henabled : r.enabled s with
  | error e =>
    rw [configure, henabled] at h
    cases h
  | ok enabled =>
    cases hordered : Ranked.arrange ranked r with
    | error e =>
      rw [configure, henabled, hordered] at h
      cases h
    | ok ordered =>
      obtain ⟨hnames, hvisited⟩ := (visits_configure henabled hordered).visited_of_ok h
      exact ⟨enabled, ordered, rfl, rfl, hnames, hvisited⟩

end Registry
end ChrootScan
