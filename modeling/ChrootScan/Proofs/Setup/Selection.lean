import ChrootScan.Proofs.Dict
import ChrootScan.Proofs.Order.Cycles
import ChrootScan.Proofs.Setup.Visits

/-!
# Which analyzers are visited, and when

A selection is looked through before any analyzer is asked to do something. It is refused as a whole
if it names an analyzer that there is not, or if the analyzers cannot be put in order; what they
would do does not matter then, and the plan stays as it was. Otherwise every analyzer is visited
once, in order, and the enabled ones are those wanted for one of four reasons.
-/

namespace ChrootScan

open Effect

/-- A selection asks for an analyzer by its name. Blanks around a name do not count, nor do entries
without a name. -/
def ToolSelection.Names (s : ToolSelection) (name : String) : Prop :=
  name ≠ "" ∧ ∃ entry ∈ s.tools.getD [], Text.trim entry = name

/-- An analyzer as it declares itself, with nothing to do. -/
def Analyzer.declared {η σ : Type} (a : Analyzer η σ) : Analyzer η σ :=
  { a with configure := pure (), configureDisabled := pure () }

namespace Registry

variable {η σ : Type} {r r' : Registry η σ} {s s' : ToolSelection} {name : String}

/-- A selection names an analyzer that there is not. -/
def Unknown (r : Registry η σ) (s : ToolSelection) : Prop :=
  ∃ name, s.Names name ∧ ∀ a ∈ r, a.name ≠ name

/-- The reasons for which an analyzer is enabled. -/
inductive Wanted (r : Registry η σ) (s : ToolSelection) : String → Prop
  | named {name : String} : s.Names name → Wanted r s name
  | stable {a : Analyzer η σ} :
    a ∈ r → s.allTools = true → a.stability = .stable → Wanted r s a.name
  | auto {a : Analyzer η σ} : a ∈ r → a.autoEnabled = true → Wanted r s a.name
  /-- Nothing is asked for. -/
  | default {a : Analyzer η σ} :
    a ∈ r → s.tools = none → s.allTools = false → a.name ∈ defaultTools → Wanted r s a.name

/-- The analyzers of two registries differ only in what they do. -/
def Alike (r r' : Registry η σ) : Prop :=
  r'.map Analyzer.declared = r.map Analyzer.declared

/-- A selection is refused for what the analyzers declare: whatever they would do, there is the same
error, and the draft stays as it was. -/
def Refuses (r : Registry η σ) (s : ToolSelection) : Prop :=
  ∃ e, ∀ r', Alike r r' → ∀ (around : Surroundings σ) (d : Draft η σ),
    eval ((r'.configure s).run around) d = (.error e, d)

/-! ## Names -/

theorem mem_givenNames {tools : List String} :
    name ∈ givenNames tools ↔ name ≠ "" ∧ ∃ entry ∈ tools, Text.trim entry = name := by
  rw [givenNames, List.mem_filter, List.mem_map, decide_eq_true_iff, and_comm]

theorem isSome_get?_iff : (r.get? name).isSome = true ↔ ∃ a ∈ r, a.name = name := by
  simp only [get?, List.find?_isSome, beq_iff_eq]

/-- Being known hangs on the names alone. -/
theorem known_eq (r : Registry η σ) (name : String) :
    r.known name = if (r.get? name).isSome then .ok ()
      else .error (.usage ("unknown tool: " ++ name
        ++ " (use 'csmock list-tools' to see the available tools)")) := by
  unfold known
  cases r.get? name with
  | none => rfl
  | some a => rfl

theorem known_eq_ok_iff : r.known name = .ok () ↔ ∃ a ∈ r, a.name = name := by
  rw [← isSome_get?_iff, known_eq]
  split
  · next hknown => simp [hknown]
  · next hknown => simp [hknown]

/-- The first name that is not known ends the look at the names. -/
theorem forM_known_eq_ok_iff {names : List String} :
    names.forM r.known = .ok () ↔ ∀ name ∈ names, ∃ a ∈ r, a.name = name := by
  induction names with
  | nil =>
    simp only [List.not_mem_nil, false_imp_iff, implies_true, iff_true]
    rfl
  | cons name names ih =>
    have hforM : (name :: names).forM r.known = (r.known name >>= fun _ => names.forM r.known) :=
      List.forM_cons
    rw [List.forall_mem_cons, ← ih, ← known_eq_ok_iff, hforM]
    cases r.known name with
    | error e => simp [bind, Except.bind]
    | ok => simp [bind, Except.bind]

/-! ## Selection -/

/-- The names selected, if all that are given are known: those given, or the default ones if nothing
is asked for. -/
theorem selected_of_known (h : ¬ r.Unknown s) :
    ∃ names, r.selected s = .ok names ∧ ∀ name, name ∈ names ↔ s.Names name ∨
      s.tools = none ∧ s.allTools = false ∧ name ∈ defaultTools ∧ ∃ a ∈ r, a.name = name := by
  unfold selected
  cases htools : s.tools with
  | none =>
    refine ⟨_, rfl, fun name => ?_⟩
    have hnames : ¬ s.Names name := by
      rintro ⟨-, entry, hentry, -⟩
      rw [htools] at hentry
      exact List.not_mem_nil hentry
    -- the default ones count only if all of them were not asked for either
    cases hall : s.allTools with
    | true => simp [hnames]
    | false => simp [hnames, isSome_get?_iff]
  | some tools =>
    have hgiven : ∀ name, name ∈ givenNames tools ↔ s.Names name := by
      intro name
      rw [mem_givenNames, ToolSelection.Names, htools, Option.getD_some]
    have hok : (givenNames tools).forM r.known = .ok () := by
      rw [forM_known_eq_ok_iff]
      intro name hname
      by_contra hnone
      exact h ⟨name, (hgiven name).1 hname, fun a ha heq => hnone ⟨a, ha, heq⟩⟩
    refine ⟨givenNames tools, ?_, fun name => ?_⟩
    · simp only [hok]
      rfl
    · rw [hgiven]
      simp

/-- A tool that no analyzer is named after makes the selection fail. -/
theorem selected_of_unknown (h : r.Unknown s) : ∃ e, r.selected s = .error e := by
  obtain ⟨name, ⟨hname, entry, hentry, htrim⟩, hnone⟩ := h
  unfold selected
  cases htools : s.tools with
  | none =>
    rw [htools] at hentry
    exact absurd hentry List.not_mem_nil
  | some tools =>
    rw [htools, Option.getD_some] at hentry
    cases hlook : (givenNames tools).forM r.known with
    | ok =>
      obtain ⟨a, ha, heq⟩ :=
        forM_known_eq_ok_iff.1 hlook name (mem_givenNames.2 ⟨hname, entry, hentry, htrim⟩)
      exact absurd heq (hnone a ha)
    | error e =>
      refine ⟨e, ?_⟩
      simp only [hlook]
      rfl

/-- An analyzer is enabled exactly if it is wanted. -/
theorem enabled_of_known (h : ¬ r.Unknown s) :
    ∃ enabled, r.enabled s = .ok enabled ∧ ∀ name, name ∈ enabled ↔ r.Wanted s name := by
  obtain ⟨names, hselected, hnames⟩ := selected_of_known h
  refine ⟨_, by rw [enabled, hselected]; rfl, fun name => ?_⟩
  -- a dictionary has the keys that it was made from: the names selected, and those enabled anyway
  rw [Dict.mem_keys_ofList, List.map_map, List.mem_map]
  simp only [Function.comp_apply, exists_eq_right, List.mem_append, List.mem_map, List.mem_filter,
    hnames]
  constructor
  · rintro ((hnamed | ⟨htools, hall, hdefault, a, ha, rfl⟩) | ⟨a, ⟨ha, hanyway⟩, rfl⟩)
    · exact .named hnamed
    · exact .default ha htools hall hdefault
    · simp only [enabledAnyway, Bool.or_eq_true, Bool.and_eq_true, beq_iff_eq] at hanyway
      rcases hanyway with ⟨hall, hstable⟩ | hauto
      · exact .stable ha hall hstable
      · exact .auto ha hauto
  · rintro (hnamed | ⟨ha, hall, hstable⟩ | ⟨ha, hauto⟩ | ⟨ha, htools, hall, hdefault⟩)
    · exact .inl (.inl hnamed)
    · exact .inr ⟨_, ⟨ha, by simp [enabledAnyway, hall, hstable]⟩, rfl⟩
    · exact .inr ⟨_, ⟨ha, by simp [enabledAnyway, hauto]⟩, rfl⟩
    · exact .inl (.inr ⟨htools, hall, hdefault, _, ha, rfl⟩)

theorem enabled_of_unknown (h : r.Unknown s) : ∃ e, r.enabled s = .error e := by
  obtain ⟨e, he⟩ := selected_of_unknown h
  exact ⟨e, by rw [enabled, he]; rfl⟩

/-- A selection that gives the same names, in whatever order and however often, enables the same
analyzers, and lists them in the same order. -/
theorem enabled_congr (h : ¬ r.Unknown s) (htools : s'.tools.isSome = s.tools.isSome)
    (hall : s'.allTools = s.allTools) (hnames : ∀ name, s'.Names name ↔ s.Names name) :
    r.enabled s' = r.enabled s := by
  have h' : ¬ r.Unknown s' := by
    simpa only [Unknown, hnames] using h
  have hnone : s'.tools = none ↔ s.tools = none := by
    rw [← Option.not_isSome_iff_eq_none, ← Option.not_isSome_iff_eq_none, htools]
  obtain ⟨selected, hselected, hmem⟩ := selected_of_known h
  obtain ⟨selected', hselected', hmem'⟩ := selected_of_known h'
  have hanyway : enabledAnyway s' = enabledAnyway (η := η) (σ := σ) s := by
    funext a
    rw [enabledAnyway, enabledAnyway, hall]
  rw [enabled, enabled, hselected, hselected', hanyway]
  -- the keys of a dictionary come in one order, so it is enough that they are the same
  refine congrArg Except.ok (Dict.keys_eq_of_mem_iff fun name => ?_)
  rw [Dict.mem_keys_ofList, Dict.mem_keys_ofList, List.map_map, List.map_map]
  simp only [Function.comp_def, List.map_id', List.mem_append, hmem, hmem', hnames, hnone, hall]

/-! ## What analyzers declare -/

theorem isSome_get?_map_declared (r : Registry η σ) (name : String) :
    (get? (r.map Analyzer.declared) name).isSome = (r.get? name).isSome := by
  rw [get?, List.find?_map, Option.isSome_map]
  rfl

/-- Analyzers that declare the same are enabled alike. -/
theorem enabled_map_declared (r : Registry η σ) (s : ToolSelection) :
    enabled (r.map Analyzer.declared) s = r.enabled s := by
  have hknown : known (r.map Analyzer.declared) = r.known := by
    funext name
    rw [known_eq, known_eq, isSome_get?_map_declared]
  have hselected : selected (r.map Analyzer.declared) s = r.selected s := by
    simp only [selected, hknown, isSome_get?_map_declared]
  have hanyway : ((r.map Analyzer.declared).filter (enabledAnyway s)).map Analyzer.name =
      (r.filter (enabledAnyway s)).map Analyzer.name := by
    rw [List.filter_map, List.map_map]
    rfl
  rw [enabled, enabled, hselected, hanyway]

theorem Alike.enabled_eq (h : Alike r r') (s : ToolSelection) : r'.enabled s = r.enabled s := by
  rw [← enabled_map_declared r', h, enabled_map_declared]

/-- Analyzers that declare the same can be put in order or not alike. -/
theorem Alike.arrange_eq_error (h : Alike r r') {e : ScanError}
    (harrange : Ranked.arrange ranked r = .error e) : Ranked.arrange ranked r' = .error e := by
  have hranked : r'.map ranked = r.map ranked := by
    have hmap : ∀ r : Registry η σ, (r.map Analyzer.declared).map ranked = r.map ranked :=
      fun r => List.map_map
    rw [← hmap r', h, hmap]
  rw [Ranked.arrange_eq_error_iff] at harrange ⊢
  rw [hranked, harrange]

/-! ## Configuration -/

/-- A selection is refused if a name is not known or the analyzers cannot be put in order. -/
theorem refuses_of_error (hnames : (r.map Analyzer.name).Nodup)
    (h : r.Unknown s ∨ Ranked.Cyclic ranked r) : r.Refuses s := by
  cases henabled : r.enabled s with
  | error e =>
    refine ⟨e, fun r' halike around d => ?_⟩
    rw [configure, halike.enabled_eq, henabled]
    rfl
  | ok enabled =>
    -- all names are known, so it is the order that there is not
    have hcyclic : Ranked.Cyclic ranked r := by
      refine h.resolve_left fun hunknown => ?_
      obtain ⟨e, he⟩ := enabled_of_unknown hunknown
      rw [henabled] at he
      cases he
    obtain ⟨e, he⟩ := (Ranked.arrange_error_iff hnames).2 hcyclic
    refine ⟨e, fun r' halike around d => ?_⟩
    rw [configure, halike.enabled_eq, henabled, halike.arrange_eq_error he]
    rfl

/-- An analyzer is enabled if it is one of the registry and its name was selected. -/
theorem mem_enabledNames {enabled : List String} {analyzers : List (Analyzer η σ)} :
    name ∈ enabledNames enabled analyzers ↔
      name ∈ enabled ∧ ∃ a ∈ analyzers, a.name = name := by
  simp only [enabledNames, List.mem_map, List.mem_filter, List.contains_iff_mem]
  constructor
  · rintro ⟨a, ⟨ha, henabled⟩, rfl⟩
    exact ⟨henabled, a, ha, rfl⟩
  · rintro ⟨henabled, a, ha, rfl⟩
    exact ⟨a, ⟨ha, henabled⟩, rfl⟩

/-- Only analyzers that there are can be wanted. -/
theorem Wanted.exists_analyzer (h : r.Wanted s name) (hknown : ¬ r.Unknown s) :
    ∃ a ∈ r, a.name = name := by
  cases h with
  | named hnamed =>
    by_contra hnone
    exact hknown ⟨name, hnamed, fun a ha heq => hnone ⟨a, ha, heq⟩⟩
  | stable ha => exact ⟨_, ha, rfl⟩
  | auto ha => exact ⟨_, ha, rfl⟩
  | default ha => exact ⟨_, ha, rfl⟩

/-- Once the enabled analyzers are known, those in the answer of configuration are the ones
wanted. -/
theorem mem_enabledNames_iff_wanted (hknown : ¬ r.Unknown s) {enabled : List String}
    (henabled : r.enabled s = .ok enabled) {ordered : List (Analyzer η σ)}
    (hperm : ordered.Perm r) : name ∈ enabledNames enabled ordered ↔ r.Wanted s name := by
  obtain ⟨enabled', henabled', hwanted⟩ := enabled_of_known hknown
  cases henabled.symm.trans henabled'
  rw [mem_enabledNames, hwanted]
  refine ⟨And.left, fun h => ⟨h, ?_⟩⟩
  obtain ⟨a, ha, heq⟩ := h.exists_analyzer hknown
  exact ⟨a, hperm.mem_iff.2 ha, heq⟩

/-- Configuration that succeeds has enabled exactly the analyzers that are wanted. -/
theorem mem_names_of_configure (hnames : (r.map Analyzer.name).Nodup) {names : List String}
    {around : Surroundings σ} {d d' : Draft η σ}
    (h : eval ((r.configure s).run around) d = (.ok names, d')) :
    name ∈ names ↔ r.Wanted s name := by
  obtain ⟨enabled, ordered, henabled, hordered, rfl, -⟩ := visited_of_configure h
  have hknown : ¬ r.Unknown s := by
    intro hunknown
    obtain ⟨e, he⟩ := enabled_of_unknown hunknown
    rw [henabled] at he
    cases he
  exact mem_enabledNames_iff_wanted hknown henabled (Ranked.perm_of_arrange hnames hordered)

/-- Configuration of any registry whose analyzers have different names. A selection with an unknown
name, or analyzers whose constraints go round in a circle, are refused before any analyzer is asked.
Otherwise all analyzers are visited once, in their order and up to the first that fails, the
enabled ones to be configured; the answer is the names of these, in that order. They are those
wanted, whatever the order, the repetitions and the blank entries of the names given. -/
theorem configure_visits (hnames : (r.map Analyzer.name).Nodup) (s : ToolSelection) :
    (r.Unknown s ∨ Ranked.Cyclic ranked r → r.Refuses s) ∧
    (¬ (r.Unknown s ∨ Ranked.Cyclic ranked r) → ∃ ordered enabled,
      Ranked.arrange ranked r = .ok ordered ∧ ordered.Perm r ∧
      r.enabled s = .ok enabled ∧ (∀ name, name ∈ enabled ↔ r.Wanted s name) ∧
      Visits (r.configure s) (ordered.map (visit enabled)) (enabledNames enabled ordered) ∧
      (∀ name, name ∈ enabledNames enabled ordered ↔ r.Wanted s name) ∧
      ∀ s' : ToolSelection, s'.tools.isSome = s.tools.isSome → s'.allTools = s.allTools →
        (∀ name, s'.Names name ↔ s.Names name) → r.enabled s' = .ok enabled) := by
  refine ⟨refuses_of_error hnames, fun hfine => ?_⟩
  obtain ⟨hknown, hacyclic⟩ := not_or.1 hfine
  obtain ⟨enabled, henabled, hwanted⟩ := enabled_of_known hknown
  cases harrange : Ranked.arrange ranked r with
  | error e => exact absurd ((Ranked.arrange_error_iff hnames).1 ⟨e, harrange⟩) hacyclic
  | ok ordered =>
    have hperm : ordered.Perm r := Ranked.perm_of_arrange hnames harrange
    refine ⟨ordered, enabled, rfl, hperm, henabled, hwanted, visits_configure henabled harrange,
      fun name => mem_enabledNames_iff_wanted hknown henabled hperm,
      fun s' htools hall hsame => ?_⟩
    rw [enabled_congr hknown htools hall hsame, henabled]

/-- Two analyzers, the first of which has to wait for the second one. -/
def pair : Registry Unit Unit :=
  [{ name := "a", description := "", configure := Setup.install ["a"] },
    { name := "b", description := "", before := ["a"], configure := Setup.install ["b"] }]

/-- A name that nobody has is refused. One that is given twice, with blanks around it, has its
analyzer visited once, and before the other one. -/
theorem configure_visits_pair :
    pair.Refuses { tools := some ["b", "z"] } ∧
      Visits (pair.configure { tools := some ["b", "", " b "] })
        (pair.reverse.map (visit ["b"])) ["b"] := by
  have hnames : (pair.map Analyzer.name).Nodup := by decide
  have harrange : Ranked.arrange ranked pair = .ok pair.reverse := by rfl
  have henabled : pair.enabled { tools := some ["b", "", " b "] } = .ok ["b"] := by decide +kernel
  refine ⟨(configure_visits hnames _).1 (.inl ⟨"z", ?_, ?_⟩), ?_⟩
  · exact ⟨by decide, "z", by decide, by decide +kernel⟩
  · simp [pair]
  · have hfine : ¬ (pair.Unknown { tools := some ["b", "", " b "] } ∨
        Ranked.Cyclic ranked pair) := by
      rintro (hunknown | hcyclic)
      · obtain ⟨e, he⟩ := enabled_of_unknown hunknown
        rw [henabled] at he
        cases he
      · obtain ⟨e, he⟩ := (Ranked.arrange_error_iff hnames).2 hcyclic
        rw [harrange] at he
        cases he
    obtain ⟨ordered, enabled, hordered, -, hselected, -, hvisits, -⟩ :=
      (configure_visits hnames _).2 hfine
    cases harrange.symm.trans hordered
    cases henabled.symm.trans hselected
    exact hvisits

end Registry
end ChrootScan
