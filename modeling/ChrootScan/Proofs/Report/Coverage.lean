import ChrootScan.Analyzer.Snyk
import ChrootScan.Proofs.Members
import ChrootScan.Proofs.Traversal
import Mathlib.Algebra.BigOperators.Group.List.Basic
import Mathlib.Tactic

/-!
# How many files were analyzed

A report lists entries for its first run, each of which counts files of one type. There is a coverage
exactly if all entries can be read, whatever their types, and it is made of the sums of their
numbers (`ofReport?_coverage`). The ratio is a quotient only if there are files at all, and all that
it says of the two sums follows from its bounds (`Sums.bounds`).
-/

namespace ChrootScan.Snyk.Coverage

variable {report entry : Json} {entries : List Json} {counts : List (Nat × String)} {c : Coverage}

/-! ## What a report says -/

/-- A report lists entries for its first run. -/
def Lists (report : Json) (entries : List Json) : Prop :=
  ∃ run runs properties, report.get? "runs" = some (.array (run :: runs)) ∧
    run.get? "properties" = some properties ∧ properties.get? "coverage" = some (.array entries)

/-- An entry counts files of a type. -/
def Counts (entry : Json) (count : Nat × String) : Prop :=
  entry.get? "files" = some (.number (.natural count.1)) ∧
    entry.get? "type" = some (.string count.2)

/-- The entries of a report are those of the coverage of its first run. -/
theorem listed?_eq_some_iff : listed? report = some entries ↔ Lists report entries := by
  simp only [listed?, Option.bind_eq_bind, Option.bind_eq_some_iff, Json.item?_zero_eq_some_iff,
    Json.array?_eq_some_iff]
  constructor
  · rintro ⟨_, hruns, run, ⟨runs, rfl⟩, properties, hproperties, _, hcoverage, rfl⟩
    exact ⟨run, runs, properties, hruns, hproperties, hcoverage⟩
  · rintro ⟨run, runs, properties, hruns, hproperties, hcoverage⟩
    exact ⟨_, hruns, run, ⟨runs, rfl⟩, properties, hproperties, _, hcoverage, rfl⟩

/-- What is kept of a count: the number, and whether the files are supported. -/
def mark (count : Nat × String) : Nat × Bool :=
  (count.1, count.2 == "SUPPORTED")

/-- An entry is read exactly if it counts files of a type, and as what it counts. -/
theorem entry?_eq_some_iff {marked : Nat × Bool} :
    entry? entry = some marked ↔ ∃ count, Counts entry count ∧ mark count = marked := by
  unfold entry?
  simp only [Option.bind_eq_bind, Option.bind_eq_some_iff, Json.natural?_eq_some_iff,
    Json.string?_eq_some_iff]
  constructor
  · rintro ⟨_, hfiles, n, rfl, _, htype, type, rfl, hmarked⟩
    exact ⟨(n, type), ⟨hfiles, htype⟩, Option.some.inj hmarked⟩
  · rintro ⟨⟨n, type⟩, ⟨hfiles, htype⟩, rfl⟩
    exact ⟨_, hfiles, n, rfl, _, htype, type, rfl, rfl⟩

/-- An entry that counts nothing is not read. -/
theorem entry?_eq_none_iff : entry? entry = none ↔ ∀ count, ¬ Counts entry count := by
  rw [Option.eq_none_iff_forall_ne_some]
  constructor
  · exact fun h count hcount => h _ (entry?_eq_some_iff.2 ⟨count, hcount, rfl⟩)
  · intro h marked hmarked
    obtain ⟨count, hcount, -⟩ := entry?_eq_some_iff.1 hmarked
    exact h count hcount

/-! ## All entries -/

/-- Entries that count files are all read. -/
theorem mapM_of_counts (h : List.Forall₂ Counts entries counts) :
    entries.mapM entry? = some (counts.map mark) := by
  rw [mapM_eq_some_iff, List.forall₂_map_right_iff]
  exact h.imp fun _ count hcount => entry?_eq_some_iff.2 ⟨count, hcount, rfl⟩

/-- If no entry lacks a number and a type, there are all counts. -/
theorem exists_counts (h : ∀ entry ∈ entries, ∃ count, Counts entry count) :
    ∃ counts, List.Forall₂ Counts entries counts := by
  induction entries with
  | nil => exact ⟨[], .nil⟩
  | cons entry entries ih =>
    obtain ⟨⟨count, hcount⟩, hentries⟩ := List.forall_mem_cons.1 h
    obtain ⟨counts, hcounts⟩ := ih hentries
    exact ⟨count :: counts, .cons hcount hcounts⟩

/-! ## Sums -/

/-- The number of files is the sum of those of the entries. -/
theorem files_eq_sum (marked : List (Nat × Bool)) : files marked = (marked.map (·.1)).sum := by
  induction marked with
  | nil => rfl
  | cons entry marked ih => rw [List.map_cons, List.sum_cons, ← ih, files, List.foldr_cons, files]

/-- The number of files does not depend on the order of the entries. -/
theorem files_perm {marked marked' : List (Nat × Bool)} (h : marked.Perm marked') :
    files marked = files marked' := by
  rw [files_eq_sum, files_eq_sum]
  exact (h.map _).sum_eq

/-- Some of the entries have no more files than all of them. -/
theorem files_filter_le (p : Nat × Bool → Bool) (marked : List (Nat × Bool)) :
    files (marked.filter p) ≤ files marked := by
  rw [files_eq_sum, files_eq_sum]
  exact (List.filter_sublist.map _).sum_le_sum (by simp)

/-- The coverage of entries does not depend on their order. -/
theorem ofEntries?_perm {marked marked' : List (Nat × Bool)} (h : marked.Perm marked') :
    ofEntries? marked = ofEntries? marked' := by
  rw [ofEntries?, ofEntries?, files_perm h, files_perm (h.filter _)]

/-- The number of files does not depend on their types. -/
theorem files_mark (counts : List (Nat × String)) :
    files (counts.map mark) = (counts.map (·.1)).sum := by
  rw [files_eq_sum, List.map_map]
  rfl

/-- The files that are supported are those of the entries with this type. -/
theorem files_filter_mark (counts : List (Nat × String)) :
    files ((counts.map mark).filter (·.2)) =
      ((counts.filter fun count => count.2 = "SUPPORTED").map (·.1)).sum := by
  rw [List.filter_map, files_mark]
  rfl

/-! ## The ratio -/

/-- A quotient is rounded down, and its divisor is not zero. -/
theorem quotient?_eq_some_iff {a b q : Nat} :
    quotient? a b = some q ↔ q * b ≤ a ∧ a < (q + 1) * b := by
  unfold quotient?
  split
  · next hzero => simp [hzero]
  · next hzero =>
    have hpos : 0 < b := Nat.pos_of_ne_zero hzero
    rw [Option.some_inj, Nat.div_eq_iff hpos, Nat.succ_mul]
    omega

/-- A coverage is the one of files counted by type. Its ratio is a quotient by a number that is not
zero, or there are no files. -/
structure Sums (counts : List (Nat × String)) (c : Coverage) : Prop where
  total : c.total = (counts.map (·.1)).sum
  supported : c.supported =
    ((counts.filter fun count => count.2 = "SUPPORTED").map (·.1)).sum
  le : c.supported ≤ c.total
  quotient : 0 < c.total → quotient? (c.supported * 100) c.total = some c.ratio
  ratio_zero : c.total = 0 → c.ratio = 0

namespace Sums

/-- The ratio is the number of files in percent, rounded down. -/
theorem bounds (h : Sums counts c) (htotal : 0 < c.total) :
    c.ratio * c.total ≤ 100 * c.supported ∧ 100 * c.supported < (c.ratio + 1) * c.total := by
  rw [Nat.mul_comm 100]
  exact quotient?_eq_some_iff.1 (h.quotient htotal)

/-- No more than all files are supported. -/
theorem ratio_le (h : Sums counts c) : c.ratio ≤ 100 := by
  obtain hzero | htotal := Nat.eq_zero_or_pos c.total
  · rw [h.ratio_zero hzero]
    exact Nat.zero_le 100
  · have hle : c.ratio * c.total ≤ 100 * c.total :=
      (h.bounds htotal).1.trans (Nat.mul_le_mul_left 100 h.le)
    exact Nat.le_of_mul_le_mul_right hle htotal

/-- Only if all files are supported, and there are some, the ratio is full. -/
theorem ratio_eq_hundred_iff (h : Sums counts c) :
    c.ratio = 100 ↔ c.supported = c.total ∧ 0 < c.total := by
  constructor
  · intro hfull
    have htotal : 0 < c.total := by
      refine Nat.pos_of_ne_zero fun hzero => ?_
      simp [h.ratio_zero hzero] at hfull
    have hbound := (h.bounds htotal).1
    rw [hfull] at hbound
    exact ⟨Nat.le_antisymm h.le (Nat.le_of_mul_le_mul_left hbound (by decide)), htotal⟩
  · rintro ⟨hall, htotal⟩
    have hbound := (h.bounds htotal).2
    rw [hall] at hbound
    have hlt : 100 < c.ratio + 1 := Nat.lt_of_mul_lt_mul_right hbound
    exact Nat.le_antisymm h.ratio_le (Nat.le_of_lt_succ hlt)

end Sums

/-- Counted files have a coverage. -/
theorem ofEntries?_mark (counts : List (Nat × String)) :
    ∃ c, ofEntries? (counts.map mark) = some c ∧ Sums counts c := by
  have hle := files_filter_le (·.2) (counts.map mark)
  have htotal := files_mark counts
  have hsupported := files_filter_mark counts
  unfold ofEntries?
  -- all that matters of the two sums is that one is at most the other one
  generalize files (counts.map mark) = total at hle htotal ⊢
  generalize files ((counts.map mark).filter (·.2)) = supported at hle hsupported ⊢
  by_cases hpos : 0 < total
  · have hquotient : quotient? (supported * 100) total = some (supported * 100 / total) :=
      if_neg (Nat.ne_of_gt hpos)
    refine ⟨⟨supported * 100 / total, supported, total⟩, ?_, htotal, hsupported, hle,
      fun _ => hquotient, fun hzero => absurd hzero (Nat.ne_of_gt hpos)⟩
    simp [hpos, hquotient]
  · refine ⟨⟨0, supported, total⟩, ?_, htotal, hsupported, hle, fun h => absurd h hpos,
      fun _ => rfl⟩
    simp [hpos]

/-! ## Reports -/

/-- What a report lists decides its coverage. -/
theorem ofReport?_of_lists (h : Lists report entries) :
    ofReport? report = (entries.mapM entry?).bind ofEntries? := by
  rw [ofReport?, listed?_eq_some_iff.2 h]
  rfl

/-- A report in which every entry counts files has a coverage, which is that of the counts. -/
theorem ofReport?_of_counts (h : Lists report entries)
    (hcounts : List.Forall₂ Counts entries counts) :
    ∃ c, ofReport? report = some c ∧ Sums counts c := by
  rw [ofReport?_of_lists h, mapM_of_counts hcounts]
  exact ofEntries?_mark counts

/-- All that can be missing is the list, or the number or the type of one of its entries. -/
theorem ofReport?_eq_none_iff :
    ofReport? report = none ↔
      (¬ ∃ entries, Lists report entries) ∨
        ∃ entries, Lists report entries ∧ ∃ entry ∈ entries, ∀ count, ¬ Counts entry count := by
  constructor
  · intro hnone
    by_cases hlists : ∃ entries, Lists report entries
    · obtain ⟨entries, hentries⟩ := hlists
      refine .inr ⟨entries, hentries, ?_⟩
      by_contra hall
      push Not at hall
      -- with a count for each entry there would be a coverage
      obtain ⟨counts, hcounts⟩ := exists_counts hall
      obtain ⟨c, hc, -⟩ := ofReport?_of_counts hentries hcounts
      cases hnone.symm.trans hc
    · exact .inl hlists
  · rintro (hnot | ⟨entries, hentries, entry, hmem, hlacks⟩)
    · have hlisted : listed? report = none :=
        Option.eq_none_iff_forall_ne_some.2 fun entries h =>
          hnot ⟨entries, listed?_eq_some_iff.1 h⟩
      rw [ofReport?, hlisted]
      rfl
    · have hread : entries.mapM entry? = none :=
        mapM_eq_none_iff.2 ⟨entry, hmem, entry?_eq_none_iff.2 hlacks⟩
      rw [ofReport?_of_lists hentries, hread]
      rfl

/-- Reports that list the same entries in another order have the same coverage, or both have none.
-/
theorem ofReport?_perm {report' : Json} {entries' : List Json} (h : Lists report entries)
    (h' : Lists report' entries') (hperm : entries.Perm entries') :
    ofReport? report = ofReport? report' := by
  rw [ofReport?_of_lists h, ofReport?_of_lists h']
  cases hmarked : entries.mapM entry? with
  | none =>
    obtain ⟨entry, hmem, hlacks⟩ := mapM_eq_none_iff.1 hmarked
    have hnone : entries'.mapM entry? = none :=
      mapM_eq_none_iff.2 ⟨entry, hperm.mem_iff.1 hmem, hlacks⟩
    rw [hnone]
  | some marked =>
    obtain ⟨marked', hmarked', hperm'⟩ := mapM_perm hperm hmarked
    rw [hmarked']
    exact ofEntries?_perm hperm'.symm

/-- A report has a coverage exactly if it lists entries for its first run and each of them, supported
or not, has a number of files and a type. The coverage is then made of the sums of the numbers, and
its ratio is the share of the supported files in percent, rounded down: no quotient by zero is
taken, it is full only if there are files and all of them are supported, and the order of the entries
does not matter. -/
theorem ofReport?_coverage (report : Json) :
    (ofReport? report = none ↔
      (¬ ∃ entries, Lists report entries) ∨
        ∃ entries, Lists report entries ∧ ∃ entry ∈ entries, ∀ count, ¬ Counts entry count) ∧
    (∀ c, ofReport? report = some c → ∃ entries counts, Lists report entries ∧
      List.Forall₂ Counts entries counts ∧ Sums counts c ∧ c.ratio ≤ 100 ∧
      (0 < c.total →
        c.ratio * c.total ≤ 100 * c.supported ∧ 100 * c.supported < (c.ratio + 1) * c.total) ∧
      (c.ratio = 100 ↔ c.supported = c.total ∧ 0 < c.total)) ∧
    ∀ report' entries entries', Lists report entries → Lists report' entries' →
      entries.Perm entries' → ofReport? report = ofReport? report' := by
  refine ⟨ofReport?_eq_none_iff, fun c hc => ?_, fun _ _ _ h h' hperm => ofReport?_perm h h' hperm⟩
  have hsome : ofReport? report ≠ none := by simp [hc]
  rw [ne_eq, ofReport?_eq_none_iff] at hsome
  push Not at hsome
  obtain ⟨⟨entries, hentries⟩, hall⟩ := hsome
  obtain ⟨counts, hcounts⟩ := exists_counts (hall entries hentries)
  obtain ⟨c', hc', hsums⟩ := ofReport?_of_counts hentries hcounts
  obtain rfl := Option.some.inj (hc'.symm.trans hc)
  exact ⟨entries, counts, hentries, hcounts, hsums, hsums.ratio_le, hsums.bounds,
    hsums.ratio_eq_hundred_iff⟩

/-- A run with ten files, three of which could not be parsed, in front of one without properties. -/
theorem ofReport?_coverage_failed_parsing :
    let entry (n : Nat) (type : String) : Json :=
      .object [("files", .number (.natural n)), ("lang", .string "C++"), ("type", .string type)]
    let report : Json := .object [("runs", .array [.object [("properties", .object [("coverage",
      .array [entry 6 "SUPPORTED", entry 3 "FAILED_PARSING", entry 1 "SUPPORTED"])])], .null])]
    ofReport? report = some ⟨70, 7, 10⟩ ∧ ∃ entries counts, Lists report entries ∧
      List.Forall₂ Counts entries counts ∧ Sums counts ⟨70, 7, 10⟩ := by
  intro entry report
  have hcoverage : ofReport? report = some ⟨70, 7, 10⟩ := by decide +kernel
  obtain ⟨entries, counts, hentries, hcounts, hsums, -⟩ := (ofReport?_coverage report).2.1 _ hcoverage
  exact ⟨hcoverage, entries, counts, hentries, hcounts, hsums⟩

end ChrootScan.Snyk.Coverage
