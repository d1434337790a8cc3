import ChrootScan.Archive.Kind
import ChrootScan.Proofs.Path
import ChrootScan.Proofs.Text.Parts

/-!
# Names of tarballs

The name of a tarball is a stem with one of the endings, and since no ending is part of another one
there is only one way to read it (`classify_eq_iff`). The stem names the top-level directory, unless
it consists of dots that a path gives a meaning to (`isName_of_classify_iff`).
-/

namespace ChrootScan.OutputKind

variable {kind : OutputKind} {name stem output : String}

/-- A tarball of this kind is named so: a stem, and an ending that is no shorter than the others that
the name has. -/
def Names (kind : OutputKind) (stem name : String) : Prop :=
  stem ≠ "" ∧ ∃ ending, (ending, kind) ∈ endings ∧ name = stem ++ ending ∧
    ∀ other ∈ endings, ∀ front, name = front ++ other.1 → other.1.length ≤ ending.length

/-- No ending ends with another one. -/
theorem eq_of_suffix : ∀ ending ∈ endings, ∀ other ∈ endings,
    other.1.toList <:+ ending.1.toList → other = ending := by
  decide

/-- No name has two of the endings. -/
theorem eq_of_append_eq {ending other : String × OutputKind} {front : String}
    (hending : ending ∈ endings) (hother : other ∈ endings)
    (h : stem ++ ending.1 = front ++ other.1) : other = ending := by
  have hsuffix : ending.1.toList <:+ (stem ++ ending.1).toList := by
    rw [String.toList_append]
    exact List.suffix_append _ _
  have hsuffix' : other.1.toList <:+ (stem ++ ending.1).toList := by
    rw [h, String.toList_append]
    exact List.suffix_append _ _
  obtain hshorter | hshorter := List.suffix_or_suffix_of_suffix hsuffix hsuffix'
  · exact (eq_of_suffix other hother ending hending hshorter).symm
  · exact eq_of_suffix ending hending other hother hshorter

/-- A name has an ending if something stands in front of it. -/
theorem withEnding?_eq_some_iff {ending : String × OutputKind} :
    withEnding? name ending = some (kind, stem) ↔
      kind = ending.2 ∧ stem ≠ "" ∧ name = stem ++ ending.1 := by
  rw [withEnding?, Option.map_eq_some_iff]
  simp only [Option.filter_eq_some_iff, Text.beforeTail?_eq_some_iff, decide_eq_true_eq,
    Prod.mk.injEq]
  constructor
  · rintro ⟨stem, ⟨hname, hne⟩, rfl, rfl⟩
    exact ⟨rfl, hne, hname⟩
  · rintro ⟨rfl, hne, hname⟩
    exact ⟨stem, ⟨hname, hne⟩, rfl, rfl⟩

/-- The first ending that fits is the only one, so the order of the endings does not matter. -/
theorem findSome?_withEnding?_eq_some_iff :
    endings.findSome? (withEnding? name) = some (kind, stem) ↔ Names kind stem name := by
  constructor
  · intro h
    obtain ⟨ending, hending, hfits⟩ := List.exists_of_findSome?_eq_some h
    obtain ⟨rfl, hne, rfl⟩ := withEnding?_eq_some_iff.1 hfits
    refine ⟨hne, ending.1, hending, rfl, fun other hother front hfront => ?_⟩
    rw [eq_of_append_eq hending hother hfront]
  · rintro ⟨hne, ending, hending, rfl, -⟩
    have hfits : withEnding? (stem ++ ending) (ending, kind) = some (kind, stem) :=
      withEnding?_eq_some_iff.2 ⟨rfl, hne, rfl⟩
    cases hfound : endings.findSome? (withEnding? (stem ++ ending)) with
    | none =>
      have hnone := List.findSome?_eq_none_iff.1 hfound (ending, kind) hending
      rw [hfits] at hnone
      cases hnone
    | some found =>
      obtain ⟨other, hother, hother'⟩ := List.exists_of_findSome?_eq_some hfound
      obtain ⟨-, -, hname⟩ := withEnding?_eq_some_iff.1 hother'
      obtain rfl := eq_of_append_eq hending hother hname
      rw [← hother', hfits]

/-- The output is a tarball exactly if its file name is that of one. -/
theorem classify_eq_iff (hkind : kind.isArchive = true) : classify output = (kind, stem) ↔
    ∃ name, Path.fileName? output = some name ∧ Names kind stem name := by
  have hdirectory : kind ≠ directory := by
    rintro rfl
    cases hkind
  have hclassify (name : String) :
      (endings.findSome? (withEnding? name)).getD (directory, name) = (kind, stem) ↔
        Names kind stem name := by
    rw [← findSome?_withEnding?_eq_some_iff]
    cases endings.findSome? (withEnding? name) with
    | none => simp [hdirectory.symm]
    | some found => simp
  rw [classify]
  cases Path.fileName? output with
  | none =>
    refine (hclassify "").trans (iff_of_false ?_ nofun)
    rintro ⟨hne, ending, -, hname, -⟩
    exact hne (String.append_eq_empty_iff.1 hname.symm).1
  | some name => simp [hclassify]

theorem isPiece_of_classify (hkind : kind.isArchive = true)
    (h : classify output = (kind, stem)) : Path.IsPiece stem := by
  obtain ⟨name, hfile, hne, ending, -, rfl, -⟩ := (classify_eq_iff hkind).1 h
  have hslash := (Path.isName_of_fileName? hfile).slash
  rw [String.toList_append] at hslash
  exact ⟨hne, fun hmem => hslash (List.mem_append_left _ hmem)⟩

/-- The stem of a tarball names a directory, but for one dot or two. -/
theorem isName_of_classify_iff (hkind : kind.isArchive = true)
    (h : classify output = (kind, stem)) : Path.IsName stem ↔ stem ≠ "." ∧ stem ≠ ".." := by
  have hpiece := isPiece_of_classify hkind h
  constructor
  · exact fun hname => ⟨hname.ne_here, hname.ne_above⟩
  · rintro ⟨hhere, habove⟩
    exact ⟨hpiece.ne_empty, hpiece.slash, hhere, habove⟩

/-- A name with an ending behind it is a tarball of this name. -/
theorem classify_append {ending : String} (hkind : kind.isArchive = true)
    (hending : (ending, kind) ∈ endings) (hname : Path.IsName name) :
    classify (name ++ ending) = (kind, name) := by
  have hshape : ∀ other ∈ endings, '/' ∉ other.1.toList ∧ 2 < other.1.length := by decide
  obtain ⟨hslash, hlong⟩ := hshape _ hending
  refine (classify_eq_iff hkind).2
    ⟨name ++ ending, (Path.isName_append hname.slash hslash hlong).fileName?, hname.ne_empty,
      ending, hending, rfl, fun other hother front hfront => ?_⟩
  obtain rfl : other = (ending, kind) := eq_of_append_eq hending hother hfront
  exact le_rfl

end ChrootScan.OutputKind
