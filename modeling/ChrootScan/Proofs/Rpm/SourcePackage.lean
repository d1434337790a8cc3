import ChrootScan.Proofs.Path
import ChrootScan.Proofs.Text.Parts
import ChrootScan.Rpm

/-!
# Files of source packages

The file of a source package is named `NAME-VERSION-RELEASE.src.rpm`. Neither the version nor the
release has a dash, so the name is what stands before the last two dashes, however many it has
itself (`names_read_back`).
-/

namespace ChrootScan.Rpm

/-! ## Source packages -/

/-- A source package. Only its name may have dashes. -/
structure SourcePackage where
  name : String
  version : String
  release : String
  name_ne_empty : name ≠ ""
  version_dashless : '-' ∉ version.toList
  release_dashless : '-' ∉ release.toList
  slashless : '/' ∉ name.toList ∧ '/' ∉ version.toList ∧ '/' ∉ release.toList

namespace SourcePackage

/-- `NAME-VERSION-RELEASE`. -/
def nvr (p : SourcePackage) : String :=
  p.name ++ "-" ++ p.version ++ "-" ++ p.release

/-- The file that a source package comes in. -/
def file (p : SourcePackage) : String :=
  p.nvr ++ ".src.rpm"

variable (p : SourcePackage)

theorem toList_nvr : p.nvr.toList =
    p.name.toList ++ '-' :: (p.version.toList ++ '-' :: p.release.toList) := by
  simp [nvr]

theorem slash_not_mem_nvr : '/' ∉ p.nvr.toList := by
  rw [toList_nvr]
  simp [p.slashless]

theorem isName_file : Path.IsName p.file :=
  Path.isName_append p.slash_not_mem_nvr (by decide) (by decide)

/-- A text with a dash in it is no dots alone. -/
theorem isName_nvr : Path.IsName p.nvr := by
  have hdash : '-' ∈ p.nvr.toList := by
    rw [toList_nvr]
    simp
  have hne {s : String} (hs : '-' ∉ s.toList) : p.nvr ≠ s := fun h => hs (h ▸ hdash)
  exact ⟨hne (by decide), p.slash_not_mem_nvr, hne (by decide), hne (by decide)⟩

end SourcePackage

/-! ## The last two dashes -/

/-- A name is what stands before the last two dashes, whatever dashes it has itself. -/
theorem beforeTwoDashes?_append (name : List Char) {version release : List Char}
    (hversion : '-' ∉ version) (hrelease : '-' ∉ release) :
    beforeTwoDashes? (name ++ '-' :: (version ++ '-' :: release)) = some name := by
  have hfields : (Text.fields '-' (name ++ '-' :: (version ++ '-' :: release))).reverse =
      release :: version :: (Text.fields '-' name).reverse := by
    rw [Text.fields_append_cons, Text.fields_append_cons, Text.fields_of_not_mem hversion,
      Text.fields_of_not_mem hrelease]
    simp
  have hempty : (Text.fields '-' name).reverse.isEmpty = false := by
    simpa using Text.fields_ne_nil '-' name
  rw [beforeTwoDashes?, hfields]
  dsimp only
  rw [hempty, if_neg Bool.false_ne_true, List.reverse_reverse, Text.joinChars_fields]

/-- What stands before two dashes is followed by two parts without any. -/
theorem eq_append_of_beforeTwoDashes? {s name : List Char} (h : beforeTwoDashes? s = some name) :
    ∃ version release, '-' ∉ version ∧ '-' ∉ release ∧
      s = name ++ '-' :: (version ++ '-' :: release) := by
  rw [beforeTwoDashes?] at h
  split at h
  · next release version before hfields =>
    split at h
    · cases h
    · next hbefore =>
      obtain rfl := Option.some.inj h
      have hfields : Text.fields '-' s = before.reverse ++ [version] ++ [release] := by
        rw [← List.reverse_inj, hfields]
        simp
      have hdashless {piece : List Char} (hpiece : piece ∈ Text.fields '-' s) : '-' ∉ piece :=
        Text.not_mem_of_mem_fields hpiece
      refine ⟨version, release, hdashless (by simp [hfields]), hdashless (by simp [hfields]), ?_⟩
      have hne : before.reverse ≠ [] := by simpa using hbefore
      rw [← Text.joinChars_fields '-' s, hfields, Text.joinChars_concat (by simp),
        Text.joinChars_concat hne]
      simp
  · cases h

theorem nvr?_eq_some_iff {path nvr : String} :
    nvr? path = some nvr ↔ Path.fileName? path = some (nvr ++ ".src.rpm") := by
  rw [nvr?, Option.bind_eq_some_iff]
  simp only [Text.beforeTail?_eq_some_iff, exists_eq_right]

/-- The name is what stands before the last two dashes of the file name without its ending. -/
theorem name?_eq_some_iff {path name : String} : name? path = some name ↔
    name ≠ "" ∧ ∃ nvr version release, nvr? path = some nvr ∧ '-' ∉ version ∧ '-' ∉ release ∧
      nvr.toList = name.toList ++ '-' :: (version ++ '-' :: release) := by
  rw [name?, Option.bind_eq_some_iff]
  simp only [Option.map_eq_some_iff, Option.filter_eq_some_iff, Bool.not_eq_true',
    List.isEmpty_eq_false_iff]
  constructor
  · rintro ⟨nvr, hnvr, chars, ⟨hbefore, hne⟩, rfl⟩
    obtain ⟨version, release, hversion, hrelease, hchars⟩ := eq_append_of_beforeTwoDashes? hbefore
    refine ⟨by simpa using hne, nvr, version, release, hnvr, hversion, hrelease, ?_⟩
    rwa [String.toList_ofList]
  · rintro ⟨hne, nvr, version, release, hnvr, hversion, hrelease, hchars⟩
    have hname : name.toList ≠ [] := mt String.toList_eq_nil_iff.1 hne
    refine ⟨nvr, hnvr, name.toList, ⟨?_, hname⟩, String.ofList_toList⟩
    rw [hchars]
    exact beforeTwoDashes?_append _ hversion hrelease

namespace SourcePackage

variable {path name : String}

/-- Whatever its directory, a file of a source package is read as this package. -/
theorem read_of_fileName? {p : SourcePackage} (h : Path.fileName? path = some p.file) :
    nvr? path = some p.nvr ∧ name? path = some p.name := by
  have hnvr : nvr? path = some p.nvr := nvr?_eq_some_iff.2 h
  exact ⟨hnvr, name?_eq_some_iff.2 ⟨p.name_ne_empty, p.nvr, p.version.toList, p.release.toList,
    hnvr, p.version_dashless, p.release_dashless, p.toList_nvr⟩⟩

/-- Only files of source packages have a name. -/
theorem exists_of_name? (h : name? path = some name) :
    ∃ p : SourcePackage, p.name = name ∧ Path.fileName? path = some p.file := by
  obtain ⟨hne, nvr, version, release, hnvr, hversion, hrelease, hchars⟩ := name?_eq_some_iff.1 h
  have hfile : Path.fileName? path = some (nvr ++ ".src.rpm") := nvr?_eq_some_iff.1 hnvr
  have hslash := (Path.isName_of_fileName? hfile).slash
  rw [String.toList_append, hchars] at hslash
  let p : SourcePackage :=
    { name
      version := String.ofList version
      release := String.ofList release
      name_ne_empty := hne
      version_dashless := by rwa [String.toList_ofList]
      release_dashless := by rwa [String.toList_ofList]
      slashless := by
        simp only [String.toList_ofList]
        simp only [List.mem_append, List.mem_cons, not_or] at hslash
        tauto }
  have hp : p.nvr = nvr := by
    rw [← String.toList_inj, toList_nvr, hchars, String.toList_ofList, String.toList_ofList]
  exact ⟨p, rfl, by rw [hfile, file, hp]⟩

/-- The file of a source package tells its name, version and release, whatever directory it is in,
and only such a file tells a name. -/
theorem names_read_back (p : SourcePackage) (dir : String) :
    (nvr? p.file = some p.nvr ∧ name? p.file = some p.name) ∧
    (nvr? (dir ++ "/" ++ p.file) = some p.nvr ∧ name? (dir ++ "/" ++ p.file) = some p.name) ∧
    ∀ path name, name? path = some name ↔
      ∃ q : SourcePackage, q.name = name ∧ Path.fileName? path = some q.file ∧
        nvr? path = some q.nvr := by
  refine ⟨read_of_fileName? p.isName_file.fileName?,
    read_of_fileName? (Path.fileName?_append_slash dir p.isName_file), fun path name => ?_⟩
  constructor
  · intro h
    obtain ⟨q, hname, hfile⟩ := exists_of_name? h
    exact ⟨q, hname, hfile, (read_of_fileName? hfile).1⟩
  · rintro ⟨q, rfl, hfile, -⟩
    exact (read_of_fileName? hfile).2

/-- Dashes in a name stay in it. -/
example : name? "/tmp/gcc-c++-13.2.1-1.fc39.src.rpm" = some "gcc-c++" := by decide +kernel

end SourcePackage

end ChrootScan.Rpm
