import ChrootScan.Proofs.Text.Cuts
import ChrootScan.Report.UnicodeControl
import Mathlib.Data.List.TakeWhile

/-!
# Directories of tests

A scanner that leaves tests out skips a file if the name of a directory on the way to it begins with
`test` and goes on. A directory that is called `test` alone makes no difference
(`tests_skipped_iff`).
-/

namespace ChrootScan.UnicodeControl

/-! ## Directories -/

/-- A directory on the way to a file: what stands between two slashes of its path. -/
structure OnTheWay (name : List Char) (shown : String) : Prop where
  noSlash : '/' ∉ name
  between : ∃ before behind, shown.toList = before ++ '/' :: (name ++ '/' :: behind)

/-- The name of a directory of tests, which is longer than `test`. -/
structure NamesTests (name : List Char) : Prop where
  begins : "test".toList <+: name
  longer : name ≠ "test".toList

/-- A directory begins with the mark of tests exactly if its name goes on behind the mark. -/
theorem namesTests_iff {name : List Char} :
    NamesTests name ↔ ∃ more, more ≠ [] ∧ '/' :: name = "/test".toList ++ more := by
  constructor
  · intro h
    obtain ⟨more, hmore⟩ := h.begins
    refine ⟨more, ?_, by rw [← hmore]; rfl⟩
    rintro rfl
    exact h.longer (hmore.symm.trans (List.append_nil _))
  · rintro ⟨more, hne, hname⟩
    have hname : name = "test".toList ++ more := (List.cons_eq_cons.1 hname).2
    constructor
    · exact ⟨more, hname.symm⟩
    · intro htest
      rw [htest] at hname
      exact hne (List.append_cancel_left (hname.symm.trans (List.append_nil _).symm))

/-- The rest of the name of a directory: not empty, and up to a slash. -/
theorem goesOn_iff {rest : List Char} :
    ¬ ((rest.takeWhile (· ≠ '/')).isEmpty ||
        (rest.takeWhile (· ≠ '/')).length = rest.length) = true ↔
      ∃ more behind, rest = more ++ '/' :: behind ∧ more ≠ [] ∧ '/' ∉ more := by
  -- the component ends at the next slash, and there has to be one: the last component is the file
  have htake {more behind : List Char} (hmore : '/' ∉ more) :
      (more ++ '/' :: behind).takeWhile (· ≠ '/') = more := by
    apply Text.takeWhile_append_eq (Text.forall_ne_of_not_mem hmore)
    intro c hc
    obtain rfl := Option.some.inj hc
    decide
  constructor
  · intro h
    simp only [Bool.or_eq_true, List.isEmpty_iff, decide_eq_true_eq, not_or] at h
    obtain ⟨hne, hlength⟩ := h
    by_cases hmem : '/' ∈ rest
    · obtain ⟨more, behind, rfl, hmore⟩ := List.eq_append_cons_of_mem hmem
      rw [htake hmore] at hne
      exact ⟨more, behind, rfl, hne, hmore⟩
    · have hall : rest.takeWhile (· ≠ '/') = rest :=
        List.takeWhile_eq_self_iff.2 (Text.forall_ne_of_not_mem hmem)
      exact absurd (congrArg List.length hall) hlength
  · rintro ⟨more, behind, rfl, hne, hmore⟩
    rw [htake hmore]
    simp [hne]

/-- A path is one of a test exactly if a component on its way, the file apart, names tests: it is
searched for the mark from the left, and every place where the mark is found counts. -/
theorem isTest_iff {shown : String} :
    isTest shown = true ↔ ∃ name, OnTheWay name shown ∧ NamesTests name := by
  unfold isTest
  simp only []
  rw [Text.isSome_cutWhere?_iff]
  constructor
  · rintro ⟨before, s, hshown, hs⟩
    cases hmark : "/test".toList.isPrefixOf? s with
    | none =>
      rw [hmark] at hs
      cases hs
    | some rest =>
      rw [hmark, Option.bind_some] at hs
      obtain ⟨more, behind, rfl, hne, hmore⟩ := goesOn_iff.1 (by
        intro h
        rw [if_pos h] at hs
        cases hs)
      have hs := List.isPrefixOf?_eq_some_iff_append_eq.1 hmark
      refine ⟨"test".toList ++ more, ⟨?_, before, behind, ?_⟩, namesTests_iff.2 ⟨more, hne, rfl⟩⟩
      · exact List.not_mem_append (by decide) hmore
      · rw [hshown, ← hs, List.append_assoc]
        rfl
  · rintro ⟨name, hway, hname⟩
    obtain ⟨before, behind, hshown⟩ := hway.between
    obtain ⟨more, hne, hmark⟩ := namesTests_iff.1 hname
    have hmore : '/' ∉ more := by
      intro h
      have hmem : '/' ∈ name := by
        rw [(List.cons_eq_cons.1 hmark).2]
        exact List.mem_append_right _ h
      exact hway.noSlash hmem
    refine ⟨before, '/' :: (name ++ '/' :: behind), hshown, ?_⟩
    have hstart : "/test".toList.isPrefixOf? ('/' :: (name ++ '/' :: behind)) =
        some (more ++ '/' :: behind) := by
      rw [← List.cons_append, hmark, List.append_assoc]
      exact Text.isPrefixOf?_append _ _
    rw [hstart, Option.bind_some, if_neg (goesOn_iff.2 ⟨more, behind, rfl, hne, hmore⟩)]
    rfl

namespace Scanner

/-! ## Files that are skipped -/

/-- The report of a file that is skipped: nothing is found, and a note says so. -/
def skipped (shown : String) : Report :=
  { log := shown ++ ": SKIPPED\n" }

/-- A file that is not read leaves the report empty. -/
theorem scanFile_of_reads_eq_false {s : Scanner} {path shown : String} {bytes : ByteArray}
    (h : s.reads shown (mediaType path bytes) = false) :
    s.scanFile path shown bytes = skipped shown := by
  unfold scanFile
  rw [h]
  rfl

/-- Notes on a file differ if they differ behind its path. -/
theorem note_ne {shown note note' : String} (h : note ≠ note') : shown ++ note ≠ shown ++ note' := by
  intro heq
  rw [← String.toList_inj, String.toList_append, String.toList_append] at heq
  exact h (String.toList_inj.1 (List.append_cancel_left heq))

/-- A file that is read leaves another report behind. -/
theorem scanFile_eq_skipped_iff {s : Scanner} {path shown : String} {bytes : ByteArray} :
    s.scanFile path shown bytes = skipped shown ↔
      s.reads shown (mediaType path bytes) = false := by
  refine ⟨fun h => ?_, scanFile_of_reads_eq_false⟩
  by_contra hread
  unfold scanFile at h
  rw [Bool.not_eq_false] at hread
  rw [hread, Bool.not_true, if_neg Bool.false_ne_true] at h
  have hlog := congrArg Report.log h
  -- every other note in the log differs from this one
  change (if (decode bytes).2 = true then shown ++ ": Retrying with latin1\n" else "") ++
    (if (s.findings (decode bytes).1).isEmpty = true then shown ++ ": OK\n" else "") =
      shown ++ ": SKIPPED\n" at hlog
  split at hlog
  · rw [String.append_assoc] at hlog
    refine note_ne ?_ hlog
    intro hnote
    have hthird := congrArg (·.toList[2]?) hnote
    simp at hthird
  · rw [String.empty_append] at hlog
    split at hlog
    · exact note_ne (by decide) hlog
    · have htext := congrArg String.toList hlog
      simp at htext

/-! ## Scanners with and without tests -/

/-- Patterns that can be read make a scanner with these patterns. -/
theorem ofPatterns_eq (chars : CharSet) (skipTests : Bool) (paths types : List String) :
    ofPatterns chars skipTests paths types =
      (readPatterns paths).bind fun skipPaths =>
        (readPatterns types).map fun skipTypes => { chars, skipTests, skipPaths, skipTypes } := by
  unfold ofPatterns
  cases readPatterns paths with
  | error e => rfl
  | ok skipPaths =>
    cases readPatterns types with
    | error e => rfl
    | ok skipTypes => rfl

/-- The same patterns make a scanner that takes tests, and it differs in nothing else. -/
theorem skipTests_of_ofPatterns {chars : CharSet} {paths types : List String} {s : Scanner}
    (h : ofPatterns chars true paths types = .ok s) :
    s.skipTests = true ∧
      ofPatterns chars false paths types = .ok { s with skipTests := false } := by
  rw [ofPatterns_eq] at h ⊢
  cases hpaths : readPatterns paths with
  | error e =>
    rw [hpaths] at h
    cases h
  | ok skipPaths =>
    cases htypes : readPatterns types with
    | error e =>
      rw [hpaths, htypes] at h
      cases h
    | ok skipTypes =>
      rw [hpaths, htypes] at h
      obtain rfl := Except.ok.inj h
      exact ⟨rfl, rfl⟩

/-- What is read although tests are left out is none of a test. -/
theorem reads_of_skipTests {s : Scanner} (h : s.skipTests = true) (shown type : String) :
    s.reads shown type = (!isTest shown && { s with skipTests := false }.reads shown type) := by
  unfold reads
  rw [h]
  cases isTest shown with
  | false => simp
  | true => simp

/-- A scanner that leaves tests out skips a file exactly if a directory on the way to it has a name
that begins with `test` and goes on, or the file is left out for another reason. If there is no such
directory, the file is scanned as if tests were not left out, whatever directories there are that
are called `test`. -/
theorem tests_skipped_iff {chars : CharSet} {paths types : List String} {s : Scanner}
    (h : ofPatterns chars true paths types = .ok s) (path shown : String) (bytes : ByteArray) :
    ∃ all, ofPatterns chars false paths types = .ok all ∧
      (s.scanFile path shown bytes = skipped shown ↔
        (∃ name, OnTheWay name shown ∧ NamesTests name) ∨
          all.scanFile path shown bytes = skipped shown) ∧
      ((¬ ∃ name, OnTheWay name shown ∧ NamesTests name) →
        s.scanFile path shown bytes = all.scanFile path shown bytes) := by
  obtain ⟨htests, hall⟩ := skipTests_of_ofPatterns h
  refine ⟨_, hall, ?_, ?_⟩
  · rw [scanFile_eq_skipped_iff, scanFile_eq_skipped_iff, reads_of_skipTests htests, ← isTest_iff,
      Bool.and_eq_false_iff, Bool.not_eq_false']
  · intro hnone
    rw [← isTest_iff, Bool.not_eq_true] at hnone
    unfold scanFile
    rw [reads_of_skipTests htests, hnone, Bool.not_false, Bool.true_and]
    rfl

/-- Tests in a directory `testsuite` are left out. -/
theorem tests_skipped_testsuite :
    let s : Scanner := { chars := .bidi, skipTests := true }
    let shown := "/builddir/build/BUILD/pkg/testsuite/a.c"
    let bytes : ByteArray := ⟨#[0xE2, 0x80, 0xAE, 0x0A]⟩
    ofPatterns .bidi true [] [] = .ok s ∧
      s.scanFile shown shown bytes = { log := shown ++ ": SKIPPED\n" } := by
  intro s shown bytes
  have h : ofPatterns .bidi true [] [] = .ok s := rfl
  obtain ⟨all, -, hskipped, -⟩ := tests_skipped_iff h shown shown bytes
  refine ⟨h, hskipped.2 (.inl ⟨"testsuite".toList, ⟨by decide, ?_⟩, ⟨by decide, by decide⟩⟩)⟩
  exact ⟨"/builddir/build/BUILD/pkg".toList, "a.c".toList, by decide⟩

/-- Tests in a directory `test` are scanned. -/
theorem test_not_skipped :
    let s : Scanner := { chars := .bidi, skipTests := true }
    let shown := "/builddir/build/BUILD/pkg/test/a.c"
    let bytes : ByteArray := ⟨#[0xE2, 0x80, 0xAE, 0x0A]⟩
    ofPatterns .bidi true [] [] = .ok s ∧
      (∃ name, OnTheWay name shown ∧ "test".toList <+: name) ∧
      s.scanFile shown shown bytes =
        { count := 1
          out := "Error: UNICONTROL_WARNING:\n/builddir/build/BUILD/pkg/test/a.c:1:1: warning: " ++
            "bidirectional control characters: U+202E\n\n" } := by
  intro s shown bytes
  refine ⟨rfl, ⟨"test".toList, ⟨by decide, ?_⟩, by decide⟩, by decide +kernel⟩
  exact ⟨"/builddir/build/BUILD/pkg".toList, "a.c".toList, by decide⟩

end Scanner

end ChrootScan.UnicodeControl
