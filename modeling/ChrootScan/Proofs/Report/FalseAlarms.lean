import ChrootScan.Proofs.Members
import ChrootScan.Proofs.Text.Cuts
import ChrootScan.Proofs.Text.Fields
import ChrootScan.Proofs.Text.Parts
import ChrootScan.Report.Infer
import Mathlib.Data.List.TakeWhile

/-!
# Bugs that are left out of a report

A bug is left out exactly if a filter that is switched on reads what it needs of the bug and finds a
false alarm (`isFalseAlarm_iff`). What is written are the bugs that are kept, in their order, each
as it is but for the severity of a dead store (`filterReport_array`).
-/

namespace ChrootScan.Infer

variable {filters more : Filters} {bug : Json} {name s : String}

/-! ## What a text begins with -/

/-- A text begins with a mark and a part behind it. -/
def Begins (lead : String) (Part : List Char → Prop) (s : String) : Prop :=
  ∃ part rest, Part part ∧ s.toList = lead.toList ++ (part ++ rest)

/-- Parts that end on the line they begin on are found on the first line. -/
theorem begins_iff {lead : String} {condition : List Char → Bool} {Part : List Char → Prop}
    (hline : ∀ part, Part part → '\n' ∉ part)
    (hcondition : ∀ line, '\n' ∉ line →
      (condition line = true ↔ ∃ part rest, Part part ∧ line = part ++ rest)) :
    begins lead condition s = true ↔ Begins lead Part s := by
  have hfirst (rest : List Char) : '\n' ∉ firstLine rest := fun hmem => by
    simpa using List.mem_takeWhile_imp hmem
  constructor
  · intro h
    cases hlead : lead.toList.isPrefixOf? s.toList with
    | none =>
      rw [begins, hlead] at h
      cases h
    | some rest =>
      rw [begins, hlead, Option.map_some, Option.getD_some, hcondition _ (hfirst rest)] at h
      obtain ⟨part, behind, hpart, hrest⟩ := h
      -- behind the first line the text goes on, so the part is put before all of that
      have hcut : firstLine rest ++ rest.dropWhile (· ≠ '\n') = rest :=
        List.takeWhile_append_dropWhile
      refine ⟨part, behind ++ rest.dropWhile (· ≠ '\n'), hpart, ?_⟩
      rw [← List.append_assoc part, ← hrest, hcut]
      exact (List.isPrefixOf?_eq_some_iff_append_eq.1 hlead).symm
  · rintro ⟨part, rest, hpart, hs⟩
    rw [begins, hs, Text.isPrefixOf?_append, Option.map_some, Option.getD_some,
      hcondition _ (hfirst _)]
    refine ⟨part, firstLine rest, hpart, ?_⟩
    exact List.takeWhile_append_of_pos fun c hc => by
      simpa using ne_of_mem_of_not_mem hc (hline part hpart)

/-- `The value read from …[_] was never initialized`, and one more character, on one line. -/
def ReadsSubscript : String → Prop :=
  Begins "The value read from " fun part => ∃ array c, '\n' ∉ array ∧ c ≠ '\n' ∧
    part = array ++ ("[_] was never initialized".toList ++ [c])

/-- `Skipping …():` on one line. -/
def SkipsCall : String → Prop :=
  Begins "Skipping " fun part => ∃ call, '\n' ∉ call ∧ part = call ++ "():".toList

/-- `Switch condition is false. Skipping switch case`, with any character for the stop. -/
def SkipsCases : String → Prop :=
  Begins "Switch condition is false" fun part =>
    ∃ c, c ≠ '\n' ∧ part = c :: " Skipping switch case".toList

/-- The pattern for values read from arrays finds what it is meant to find. -/
theorem readsSubscript_iff : readsSubscript s = true ↔ ReadsSubscript s := by
  apply begins_iff
  · rintro part ⟨array, c, harray, hc, rfl⟩
    exact List.not_mem_append harray
      (List.not_mem_append (by decide) (mt List.mem_singleton.1 hc.symm))
  · intro line hline
    rw [Text.isSome_cutWhere?_iff]
    constructor
    · rintro ⟨array, behind, rfl, hbehind⟩
      obtain ⟨rest, hrest⟩ := Option.isSome_iff_exists.1 hbehind
      obtain ⟨hmark, hne⟩ := Option.filter_eq_some_iff.1 hrest
      obtain ⟨c, rest, rfl⟩ := List.exists_cons_of_ne_nil (by simpa using hne)
      rw [← List.isPrefixOf?_eq_some_iff_append_eq.1 hmark] at hline ⊢
      have hc : c ≠ '\n' := by
        rintro rfl
        simp at hline
      exact ⟨_, rest, ⟨array, c, fun hmem => hline (List.mem_append_left _ hmem), hc, rfl⟩, by simp⟩
    · rintro ⟨part, rest, ⟨array, c, -, -, rfl⟩, rfl⟩
      refine ⟨array, "[_] was never initialized".toList ++ c :: rest, by simp, ?_⟩
      rw [Text.isPrefixOf?_append]
      rfl

/-- The pattern for calls that are skipped finds what it is meant to find. -/
theorem skipsCall_iff : skipsCall s = true ↔ SkipsCall s := by
  apply begins_iff
  · rintro part ⟨call, hcall, rfl⟩
    exact List.not_mem_append hcall (by decide)
  · intro line hline
    rw [Text.containsChars_iff]
    constructor
    · rintro ⟨call, rest, rfl⟩
      have hcall : '\n' ∉ call := fun hmem =>
        hline (List.mem_append_left _ (List.mem_append_left _ hmem))
      exact ⟨_, rest, ⟨call, hcall, rfl⟩, rfl⟩
    · rintro ⟨part, rest, ⟨call, -, rfl⟩, rfl⟩
      exact ⟨call, rest, rfl⟩

/-- The pattern for cases that are skipped finds what it is meant to find. -/
theorem skipsCases_iff : skipsCases s = true ↔ SkipsCases s := by
  apply begins_iff
  · rintro part ⟨c, hc, rfl⟩
    exact List.not_mem_cons_of_ne_of_not_mem hc.symm (by decide)
  · intro line hline
    rw [List.isPrefixOf_iff_prefix]
    constructor
    · rintro ⟨rest, hrest⟩
      cases line with
      | nil => cases hrest
      | cons c line =>
        exact ⟨_, rest, ⟨c, (List.ne_of_not_mem_cons hline).symm, rfl⟩, congrArg (c :: ·) hrest.symm⟩
    · rintro ⟨part, rest, ⟨c, -, rfl⟩, rfl⟩
      exact ⟨rest, rfl⟩

/-! ## False alarms -/

/-- A step of a trace has a description, and it skips a call or the cases of a switch. -/
def Skips (step : Json) : Prop :=
  ∃ description, step.get? "description" = some (.string description) ∧
    (SkipsCall description ∨ SkipsCases description)

/-- A filter that is switched on reads all that it needs of a bug, and finds a false alarm. -/
inductive Identified (filters : Filters) (bug : Json) : Prop
  | uninit {qualifier : String} : filters.uninit = true →
      bug.get? "bug_type" = some (.string "UNINITIALIZED_VALUE") →
      bug.get? "qualifier" = some (.string qualifier) → ReadsSubscript qualifier →
      Identified filters bug
  | biabduction {type : String} {before after : List Json} {step : Json} :
      filters.biabduction = true → type ∈ ["NULL_DEREFERENCE", "RESOURCE_LEAK"] →
      bug.get? "bug_type" = some (.string type) →
      bug.get? "bug_trace" = some (.array (before ++ step :: after)) →
      (∀ earlier ∈ before, ∃ description, earlier.get? "description" = some (.string description)) →
      Skips step → Identified filters bug
  | unknown {type : String} : filters.inferbo = true → type ∈ unknownRangeTypes →
      bug.get? "bug_type" = some (.string type) → Identified filters bug
  | unbounded {type qualifier : String} : filters.inferbo = true → type ∈ rangeTypes →
      bug.get? "bug_type" = some (.string type) →
      bug.get? "qualifier" = some (.string qualifier) →
      "+oo".toList <:+: qualifier.toList ∨ "-oo".toList <:+: qualifier.toList →
      Identified filters bug

/-- A text is read from a member that is a string. -/
theorem text?_eq_some_iff {text : String} :
    text? name bug = some text ↔ bug.get? name = some (.string text) := by
  rw [text?, Option.bind_eq_some_iff]
  constructor
  · rintro ⟨value, hvalue, htext⟩
    rwa [Json.string?_eq_some_iff.1 htext] at hvalue
  · intro h
    exact ⟨_, h, rfl⟩

/-- A value that is not initialized is a false alarm if it is read from an array, by its qualifier.
-/
theorem uninitAlarm?_iff : uninitAlarm? bug = some true ↔
    bug.get? "bug_type" = some (.string "UNINITIALIZED_VALUE") ∧
      ∃ qualifier, bug.get? "qualifier" = some (.string qualifier) ∧ ReadsSubscript qualifier := by
  simp only [← text?_eq_some_iff]
  constructor
  · intro h
    obtain ⟨type, htype, h⟩ := Option.bind_eq_some_iff.1 h
    split at h
    · cases h
    · next hsame =>
      obtain ⟨qualifier, hqualifier, h⟩ := Option.bind_eq_some_iff.1 h
      rw [not_not.1 hsame] at htype
      exact ⟨htype, qualifier, hqualifier, readsSubscript_iff.1 (Option.some.inj h)⟩
  · rintro ⟨htype, qualifier, hqualifier, hreads⟩
    rw [uninitAlarm?, htype, hqualifier, ← readsSubscript_iff.2 hreads]
    rfl

/-- A trace skips something if one of its steps does, and all those before it can be read. -/
theorem skipsStep?_iff {steps : List Json} : skipsStep? steps = some true ↔
    ∃ before step after, steps = before ++ step :: after ∧
      (∀ earlier ∈ before, ∃ description,
        earlier.get? "description" = some (.string description)) ∧ Skips step := by
  unfold Skips
  simp only [← text?_eq_some_iff, ← skipsCall_iff, ← skipsCases_iff, ← Bool.or_eq_true]
  induction steps with
  | nil => exact iff_of_false nofun fun ⟨before, step, after, h, _⟩ => by simp at h
  | cons step steps ih =>
    -- the steps are read from the front, and the first that skips something ends the search
    constructor
    · intro h
      obtain ⟨description, hdescription, h⟩ := Option.bind_eq_some_iff.1 h
      split at h
      · next hskips => exact ⟨[], step, steps, rfl, nofun, description, hdescription, hskips⟩
      · obtain ⟨before, later, after, rfl, hbefore, hlater⟩ := ih.1 h
        exact ⟨step :: before, later, after, rfl,
          List.forall_mem_cons.2 ⟨⟨description, hdescription⟩, hbefore⟩, hlater⟩
    · rintro ⟨before, later, after, hsteps, hbefore, hlater⟩
      cases before with
      | nil =>
        obtain ⟨rfl, rfl⟩ := List.cons_eq_cons.1 hsteps
        obtain ⟨description, hdescription, hskips⟩ := hlater
        rw [skipsStep?, hdescription]
        exact if_pos hskips
      | cons first before =>
        obtain ⟨rfl, hcut⟩ := List.cons_eq_cons.1 (hsteps.trans List.cons_append)
        obtain ⟨⟨description, hdescription⟩, hbefore⟩ := List.forall_mem_cons.1 hbefore
        have hrest := ih.2 ⟨before, later, after, hcut, hbefore, hlater⟩
        rw [skipsStep?, hdescription, hrest]
        exact ite_self _

/-- A null pointer or a leak is a false alarm if the trace skips something on its way. -/
theorem biabductionAlarm?_iff : biabductionAlarm? bug = some true ↔
    ∃ type ∈ ["NULL_DEREFERENCE", "RESOURCE_LEAK"], bug.get? "bug_type" = some (.string type) ∧
      ∃ before step after, bug.get? "bug_trace" = some (.array (before ++ step :: after)) ∧
        (∀ earlier ∈ before, ∃ description,
          earlier.get? "description" = some (.string description)) ∧ Skips step := by
  -- the source names the types that are passed over, the statement those that are not
  have hunlisted (type : String) :
      (type ≠ "NULL_DEREFERENCE" && type ≠ "RESOURCE_LEAK") = true ↔
        type ∉ ["NULL_DEREFERENCE", "RESOURCE_LEAK"] := by
    simp
  constructor
  · intro h
    obtain ⟨type, htype, h⟩ := Option.bind_eq_some_iff.1 h
    split at h
    · cases h
    · next hlisted =>
      obtain ⟨trace, htrace, h⟩ := Option.bind_eq_some_iff.1 h
      obtain ⟨steps, hsteps, h⟩ := Option.bind_eq_some_iff.1 h
      rw [Json.array?_eq_some_iff.1 hsteps] at htrace
      obtain ⟨before, step, after, rfl, hbefore, hstep⟩ := skipsStep?_iff.1 h
      exact ⟨type, not_not.1 (mt (hunlisted type).2 hlisted), text?_eq_some_iff.1 htype,
        before, step, after, htrace, hbefore, hstep⟩
  · rintro ⟨type, hlisted, htype, before, step, after, htrace, hbefore, hstep⟩
    rw [biabductionAlarm?, text?_eq_some_iff.2 htype, htrace]
    refine (if_neg fun h => (hunlisted type).1 h hlisted).trans ?_
    exact skipsStep?_iff.2 ⟨before, step, after, rfl, hbefore, hstep⟩

/-- An overrun is a false alarm if its type says that the range is not known, or its qualifier that
a range has no end. -/
theorem inferboAlarm?_iff : inferboAlarm? bug = some true ↔
    ∃ type, bug.get? "bug_type" = some (.string type) ∧
      (type ∈ unknownRangeTypes ∨ type ∈ rangeTypes ∧
        ∃ qualifier, bug.get? "qualifier" = some (.string qualifier) ∧
          ("+oo".toList <:+: qualifier.toList ∨ "-oo".toList <:+: qualifier.toList)) := by
  simp only [← text?_eq_some_iff, ← Text.contains_iff, ← Bool.or_eq_true]
  constructor
  · intro h
    obtain ⟨type, htype, h⟩ := Option.bind_eq_some_iff.1 h
    refine ⟨type, htype, ?_⟩
    split at h
    · next hunknown => exact .inl (List.contains_iff_mem.1 hunknown)
    · split at h
      · cases h
      · next hlisted =>
        obtain ⟨qualifier, hqualifier, h⟩ := Option.bind_eq_some_iff.1 h
        exact .inr ⟨by simpa using hlisted, qualifier, hqualifier, Option.some.inj h⟩
  · rintro ⟨type, htype, h⟩
    rw [inferboAlarm?, htype]
    -- for a type of the first kind the qualifier is not looked at
    by_cases hunknown : type ∈ unknownRangeTypes
    · exact if_pos (List.contains_iff_mem.2 hunknown)
    · obtain ⟨hlisted, qualifier, hqualifier, hfound⟩ := h.resolve_left hunknown
      refine (if_neg (mt List.contains_iff_mem.1 hunknown)).trans ?_
      refine (if_neg (by simpa using hlisted)).trans ?_
      rw [hqualifier]
      exact congrArg some hfound

/-- A bug is left out exactly if a filter that is switched on identifies it. -/
theorem isFalseAlarm_iff : isFalseAlarm filters bug = true ↔ Identified filters bug := by
  simp only [isFalseAlarm, Bool.or_eq_true, Bool.and_eq_true, beq_iff_eq, uninitAlarm?_iff,
    biabductionAlarm?_iff, inferboAlarm?_iff]
  constructor
  · rintro ((⟨hon, htype, qualifier, hqualifier, hreads⟩ |
      ⟨hon, type, hlisted, htype, before, step, after, htrace, hbefore, hstep⟩) |
      ⟨hon, type, htype, hunknown | ⟨hlisted, qualifier, hqualifier, hfound⟩⟩)
    · exact .uninit hon htype hqualifier hreads
    · exact .biabduction hon hlisted htype htrace hbefore hstep
    · exact .unknown hon hunknown htype
    · exact .unbounded hon hlisted htype hqualifier hfound
  · rintro (⟨hon, htype, hqualifier, hreads⟩ | ⟨hon, hlisted, htype, htrace, hbefore, hstep⟩ |
      ⟨hon, hunknown, htype⟩ | ⟨hon, hlisted, htype, hqualifier, hfound⟩)
    · exact .inl (.inl ⟨hon, htype, _, hqualifier, hreads⟩)
    · exact .inl (.inr ⟨hon, _, hlisted, htype, _, _, _, htrace, hbefore, hstep⟩)
    · exact .inr ⟨hon, _, htype, .inl hunknown⟩
    · exact .inr ⟨hon, _, htype, .inr ⟨hlisted, _, hqualifier, hfound⟩⟩

instance : Decidable (Identified filters bug) :=
  decidable_of_iff _ isFalseAlarm_iff

/-- The first filters are among the second ones. -/
structure Filters.Within (filters more : Filters) : Prop where
  biabduction : filters.biabduction = true → more.biabduction = true
  inferbo : filters.inferbo = true → more.inferbo = true
  uninit : filters.uninit = true → more.uninit = true

/-- What some filters identify, more of them identify as well. -/
theorem Identified.of_within (h : Identified filters bug) (hmore : filters.Within more) :
    Identified more bug := by
  cases h with
  | uninit hon htype hqualifier hreads => exact .uninit (hmore.uninit hon) htype hqualifier hreads
  | biabduction hon hlisted htype htrace hbefore hstep =>
    exact .biabduction (hmore.biabduction hon) hlisted htype htrace hbefore hstep
  | unknown hon hunknown htype => exact .unknown (hmore.inferbo hon) hunknown htype
  | unbounded hon hlisted htype hqualifier hfound =>
    exact .unbounded (hmore.inferbo hon) hlisted htype hqualifier hfound

/-! ## Reports -/

def IsDeadStore (bug : Json) : Prop :=
  bug.get? "bug_type" = some (.string "DEAD_STORE")

/-- An object with the severity of a warning, and else with the same members. -/
def Lowered (bug shown : Json) : Prop :=
  ∃ members lowered, bug = .object members ∧ shown = .object lowered ∧
    lowered.lookup "severity" = some (.string "WARNING") ∧
    lowered.filter (·.1 ≠ "severity") = members.filter (·.1 ≠ "severity") ∧
    (Json.Ordered members → Json.Ordered lowered)

/-- A bug is shown as it is, unless it is a dead store that is lowered. -/
structure ShownAs (filters : Filters) (bug shown : Json) : Prop where
  lowered : filters.deadStore = true → IsDeadStore bug → Lowered bug shown
  same : ¬ (filters.deadStore = true ∧ IsDeadStore bug) → shown = bug

/-- The severity of a warning is put in place of any other one, and nothing else changes. -/
theorem lowered_insertMember (members : List (String × Json)) :
    Lowered (.object members)
      (.object (Json.insertMember "severity" (.string "WARNING") members)) :=
  ⟨members, _, rfl, rfl, Json.lookup_insertMember _ _ _, Json.filter_insertMember _ _ _,
    fun h => h.insertMember _ _⟩

/-- A bug is shown as the filters want it: lowered if it is a dead store, and as it is otherwise. -/
theorem shownAs_adjust (filters : Filters) (bug : Json) : ShownAs filters bug (adjust filters bug) := by
  have hlower {members : List (String × Json)} :
      (filters.deadStore && text? "bug_type" (.object members) == some "DEAD_STORE") = true ↔
        filters.deadStore = true ∧ IsDeadStore (.object members) := by
    rw [Bool.and_eq_true, beq_iff_eq, text?_eq_some_iff, IsDeadStore]
  constructor
  · intro hon hdead
    obtain ⟨members, rfl⟩ := Json.exists_members_of_get? hdead
    rw [adjust, if_pos (hlower.2 ⟨hon, hdead⟩)]
    exact lowered_insertMember members
  · intro hsame
    cases bug with
    | object members => exact if_neg (mt hlower.1 hsame)
    | _ => rfl

/-- The bugs of a report that are kept. -/
def kept (filters : Filters) (bugs : List Json) : List Json :=
  bugs.filter fun bug => ¬ Identified filters bug

/-- The bugs that are kept, as they are shown. -/
def shown (filters : Filters) (bugs : List Json) : List Json :=
  (kept filters bugs).map (adjust filters)

/-- With more filters no more bugs are kept, and those in the same order. -/
theorem kept_sublist (hmore : filters.Within more) (bugs : List Json) :
    (kept more bugs).Sublist (kept filters bugs) :=
  List.monotone_filter_right bugs fun bug hbug => by
    simp only [decide_eq_true_eq] at hbug ⊢
    exact fun h => hbug (h.of_within hmore)

/-- How bugs are shown depends on the filter for dead stores alone. -/
theorem adjust_congr (h : more.deadStore = filters.deadStore) : adjust more = adjust filters := by
  funext bug
  unfold adjust
  rw [h]

/-- Bugs are written behind those that are written already. -/
theorem writeBugs_eq (filters : Filters) (bugs before : List Json) :
    writeBugs filters bugs (Text.join "\n" (before.map render), before.length) =
      (Text.join "\n" ((before ++ shown filters bugs).map render),
        (before ++ shown filters bugs).length) := by
  induction bugs generalizing before with
  | nil =>
    rw [writeBugs, shown, kept, List.filter_nil, List.map_nil, List.append_nil]
  | cons bug bugs ih =>
    rw [writeBugs]
    by_cases hdropped : Identified filters bug
    · have hshown : shown filters (bug :: bugs) = shown filters bugs := by
        rw [shown, kept, List.filter_cons_of_neg (by simpa using hdropped)]
        rfl
      rw [if_pos (isFalseAlarm_iff.2 hdropped), ih, hshown]
    · have hshown : shown filters (bug :: bugs) = adjust filters bug :: shown filters bugs := by
        rw [shown, kept, List.filter_cons_of_pos (by simpa using hdropped)]
        rfl
      have hnext := Text.join_concat "\n" (render (adjust filters bug)) (before.map render)
      rw [List.length_map] at hnext
      rw [if_neg (mt isFalseAlarm_iff.1 hdropped), hshown, List.append_cons, ← ih, List.map_append,
        List.map_singleton, hnext, List.length_append, List.length_singleton]

/-- The text of a bug ends with its last line. -/
theorem exists_render_eq (bug : Json) : ∃ lines, render bug = lines ++ "\n" :=
  ⟨_, rfl⟩

/-- What is written of a report are the bugs that no filter identifies, in their order, with an
empty line between neighbours, and their number. Each is shown as it is, but for the severity of a
dead store. More filters leave out more bugs and nothing else. -/
theorem filterReport_array (filters : Filters) (bugs : List Json) :
    filterReport filters (.array bugs) =
        .ok (Text.join "\n" ((shown filters bugs).map render), (shown filters bugs).length) ∧
      (∀ bug, ∃ lines, render bug = lines ++ "\n") ∧
      List.Forall₂ (ShownAs filters) (kept filters bugs) (shown filters bugs) ∧
      ∀ more : Filters, filters.Within more →
        (kept more bugs).Sublist (kept filters bugs) ∧
        (more.deadStore = filters.deadStore →
          (shown more bugs).Sublist (shown filters bugs)) := by
  have hshown : List.Forall₂ (ShownAs filters) (kept filters bugs) (shown filters bugs) := by
    rw [shown, List.forall₂_map_right_iff, List.forall₂_same]
    exact fun bug _ => shownAs_adjust filters bug
  refine ⟨congrArg Except.ok (writeBugs_eq filters bugs []), exists_render_eq, hshown, ?_⟩
  intro more hmore
  have hkept := kept_sublist hmore bugs
  refine ⟨hkept, fun hdead => ?_⟩
  rw [shown, adjust_congr hdead]
  exact hkept.map _

/-- Another filter leaves the overrun out of a report with a dead store and without an object. -/
theorem filterReport_array_overrun :
    let filters : Filters := { inferbo := false }
    let bugs : List Json := [.object [("bug_type", .string "BUFFER_OVERRUN_U5")], .null,
      .object [("bug_type", .string "DEAD_STORE"), ("severity", .string "ERROR")]]
    filters.Within {} ∧
      filterReport {} (.array bugs) = .ok ("Error: INFER_WARNING:\n::: []: \n\n" ++
        "Error: INFER_WARNING:\n::: warning[DEAD_STORE]: \n", 2) ∧
      (shown filters bugs).length = 3 ∧ (shown {} bugs).Sublist (shown filters bugs) := by
  intro filters bugs
  have hmore : filters.Within {} := ⟨fun _ => rfl, fun _ => rfl, fun _ => rfl⟩
  obtain ⟨hwritten, -, -, -⟩ := filterReport_array {} bugs
  obtain ⟨-, -, -, hless⟩ := filterReport_array filters bugs
  refine ⟨hmore, hwritten.trans (congrArg Except.ok ?_), ?_, (hless {} hmore).2 rfl⟩
  · decide +kernel
  · decide +kernel

end ChrootScan.Infer
