import ChrootScan.Proofs.Report.HiddenCharacters
import ChrootScan.Proofs.Text.Lines

/-!
# Where characters are found

A file that is read is reported line by line: each line that has a character which is looked for, by
its number, with the column of the first of them and with all of them (`lines_reported`).
-/

namespace ChrootScan.UnicodeControl.Scanner

variable {s : Scanner} {line : List Char} {n : Nat} {f : Finding}

/-! ## One line -/

/-- What a finding says of the line it is in. Columns are counted in characters, from one. -/
structure Finding.Describes (f : Finding) (set : CharSet) (line : List Char) : Prop where
  /-- The column is that of a character that is looked for, and none before it is. -/
  column : ∃ before c behind, line = before ++ c :: behind ∧ set.contains c = true ∧
    (∀ d ∈ before, set.contains d = false) ∧ f.column = before.length + 1
  /-- All characters that are looked for, in order. -/
  chars : f.chars = line.filter set.contains

theorem Finding.Describes.column_eq {set : CharSet} (h : f.Describes set line) :
    f.column = line.findIdx set.contains + 1 := by
  obtain ⟨before, c, behind, rfl, hc, hbefore, hcolumn⟩ := h.column
  have hnone : before.findIdx set.contains = before.length :=
    List.findIdx_eq_length.2 hbefore
  rw [hcolumn, List.findIdx_append, hnone, if_neg (Nat.lt_irrefl _), List.findIdx_cons, hc]
  simp

/-- Without their columns, the hits are the characters of the line that are looked for. -/
theorem hits_map_fst (s : Scanner) (line : List Char) :
    (s.hits line).map (·.1) = line.filter s.chars.contains := by
  have hline : line.zipIdx.map (·.1) = line := List.zipIdx_map_fst 0 line
  conv_rhs => rw [← hline, List.filter_map]
  rfl

/-- The first hit has the characters that are no hits in front of it. -/
theorem first_of_hits_eq_cons {c : Char} {column : Nat} {hits : List (Char × Nat)}
    (h : s.hits line = (c, column) :: hits) :
    ∃ before behind, line = before ++ c :: behind ∧ s.chars.contains c = true ∧
      (∀ d ∈ before, s.chars.contains d = false) ∧ column = before.length := by
  obtain ⟨front, back, hzip, hfront, hc, -⟩ := List.filter_eq_cons_iff.1 h
  obtain ⟨before, rest, hline, rfl, hrest⟩ := List.zipIdx_eq_append_iff.1 hzip
  obtain ⟨c', behind, rfl, hhit, -⟩ := List.zipIdx_eq_cons_iff.1 hrest.symm
  obtain ⟨rfl, rfl⟩ := Prod.mk.inj hhit
  refine ⟨before, behind, hline, hc, fun d hd => ?_, Nat.zero_add _⟩
  obtain ⟨i, hi⟩ := List.mem_iff_getElem?.1 hd
  exact Bool.eq_false_of_not_eq_true (hfront (d, i) (List.mk_mem_zipIdx_iff_getElem?.2 hi))

/-- What is found in a line describes it: where, and which characters. -/
theorem describes_of_inspect (h : s.inspect (line, n) = some f) :
    f.line = n + 1 ∧ f.Describes s.chars line := by
  rw [inspect] at h
  cases hhits : s.hits line with
  | nil =>
    rw [hhits] at h
    cases h
  | cons hit hits =>
    obtain ⟨c, column⟩ := hit
    rw [hhits] at h
    obtain rfl := Option.some.inj h
    obtain ⟨before, behind, hline, hc, hbefore, hcolumn⟩ := first_of_hits_eq_cons hhits
    refine ⟨rfl, ⟨before, c, behind, hline, hc, hbefore, ?_⟩, ?_⟩
    · rw [hcolumn]
    · rw [← hits_map_fst, hhits]

/-! ## All lines -/

/-- The findings are in the lines of a text that have a character which is looked for, one in each
of them and in their order. -/
structure Covers (set : CharSet) (lines : List (List Char)) (found : List Finding) : Prop where
  increasing : found.Pairwise (·.line < ·.line)
  exists_iff : ∀ n, (∃ f ∈ found, f.line = n + 1) ↔
    ∃ line ∈ lines[n]?, ∃ c ∈ line, set.contains c = true
  describes : ∀ f ∈ found, ∃ n line, f.line = n + 1 ∧ lines[n]? = some line ∧
    f.Describes set line

/-- Findings are in the order of their lines. -/
theorem pairwise_findings (s : Scanner) (text : String) :
    (s.findings text).Pairwise (·.line < ·.line) := by
  rw [findings, List.pairwise_filterMap]
  have hnumbers : (Text.linesChars text.toList).zipIdx.Pairwise (·.2 < ·.2) := by
    rw [← List.pairwise_map, List.zipIdx_map_snd]
    exact List.pairwise_lt_range' 1
  refine hnumbers.imp fun {a b} hlt f hf f' hf' => ?_
  rw [(describes_of_inspect hf).1, (describes_of_inspect hf').1]
  omega

/-- Every line with a character of the set has a finding. -/
theorem covers_findings (s : Scanner) (text : String) :
    Covers s.chars (Text.linesChars text.toList) (s.findings text) := by
  refine ⟨s.pairwise_findings text, s.exists_finding_iff_line text, fun f hf => ?_⟩
  obtain ⟨n, line, hline, hinspect⟩ := s.mem_findings_iff.1 hf
  obtain ⟨hn, hdescribes⟩ := describes_of_inspect hinspect
  exact ⟨n, line, hn, hline, hdescribes⟩

/-! ## Reports -/

end ChrootScan.UnicodeControl.Scanner
