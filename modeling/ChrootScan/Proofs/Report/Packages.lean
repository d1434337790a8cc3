import ChrootScan.Proofs.Text.Cuts
import ChrootScan.Report.Clippy
import Mathlib.Data.List.TakeWhile
import Mathlib.Tactic

/-!
# Packages and their directories

A package is identified by its path, with its name and version behind or in front of it
(`Identifies`). Each identifier leads back to the directory right below that of the sources which
the package is in (`packageDir?_of_identifies`).
-/

namespace ChrootScan.Clippy

/-! ## Identifiers -/

/-- A part of an identifier that has none of the characters which end a part. -/
def Unmarked (part : List Char) : Prop :=
  ∀ c ∈ ['(', ')', '#', '\n'], c ∉ part

instance (part : List Char) : Decidable (Unmarked part) :=
  List.decidableBAll _ _

/-- The path of a package in `dir` right below the directory of the sources, or further below. -/
structure LocalPath (dir path : List Char) : Prop where
  unmarked : Unmarked path
  slash : '/' ∉ dir
  below : ∃ further, path = buildRoot.toList ++ (dir ++ further) ∧ ∀ c ∈ further.head?, c = '/'

/-- The identifiers of a package in `dir` or below. Behind a path the version is not empty, and in
front of one neither name nor version has the mark of a local path in it. -/
inductive Identifies (dir : List Char) : List Char → Prop
  | path {path : List Char} : LocalPath dir path → Identifies dir (localMark ++ path)
  | versioned {path name version : List Char} : LocalPath dir path → Unmarked name →
      Unmarked version → version ≠ [] →
      Identifies dir (localMark ++ (path ++ '#' :: (name ++ '@' :: version)))
  | parenthesized {path name version : List Char} : LocalPath dir path →
      ¬ localMark <:+: name → ¬ localMark <:+: version →
      Identifies dir (name ++ ' ' :: (version ++ ' ' :: '(' :: (localMark ++ (path ++ [')']))))

variable {c : Char} {s path name version dir : List Char}

/-! ## Name and version in front of the path -/

/-- What comes before the last of a character has it no more behind. -/
theorem beforeLast?_append {before after : List Char} (h : c ∉ after) :
    beforeLast? c (before ++ c :: after) = some before := by
  have hdrop : (before ++ c :: after).reverse.dropWhile (· ≠ c) = c :: before.reverse := by
    rw [List.reverse_append, List.reverse_cons, List.append_assoc, List.singleton_append]
    apply Text.dropWhile_append_eq
    · exact Text.forall_ne_of_not_mem (mt List.mem_reverse.1 h)
    · exact Text.forall_mem_some (by simp)
  rw [beforeLast?, hdrop]
  show some before.reverse.reverse = some before
  rw [List.reverse_reverse]

theorem beforeLast?_eq_none (h : c ∉ s) : beforeLast? c s = none := by
  have hnil : s.reverse.dropWhile (· ≠ c) = [] :=
    List.dropWhile_eq_nil_iff.2 (Text.forall_ne_of_not_mem (mt List.mem_reverse.1 h))
  rw [beforeLast?, hnil]

/-- Without a closing parenthesis the older form is not read. -/
theorem parenthesized?_eq_none (h : ')' ∉ s) : parenthesized? s = none := by
  rw [parenthesized?, Option.map_eq_none_iff, ← Option.not_isSome_iff_eq_none,
    Text.isSome_cutWhere?_iff]
  rintro ⟨before, behind, rfl, hfound⟩
  cases hmark : localMark.isPrefixOf? behind with
  | none =>
    rw [hmark] at hfound
    cases hfound
  | some rest =>
    have hrest : ')' ∉ rest.takeWhile (· ≠ '\n') := by
      intro hmem
      have hbehind : ')' ∈ behind := by
        rw [← List.isPrefixOf?_eq_some_iff_append_eq.1 hmark]
        exact List.mem_append_right _ ((List.takeWhile_sublist _).subset hmem)
      exact h (List.mem_append_right _ hbehind)
    rw [hmark, Option.bind_some, beforeLast?_eq_none hrest] at hfound
    cases hfound

/-- The path up to the closing parenthesis is read, if the mark is not in front of it before. -/
theorem parenthesized?_append (hpath : '\n' ∉ path) (hname : ¬ localMark <:+: name)
    (hversion : ¬ localMark <:+: version) :
    parenthesized? (name ++ ' ' :: (version ++ ' ' :: '(' :: (localMark ++ (path ++ [')'])))) =
      some path := by
  have hnewline : '\n' ∉ path ++ [')'] := by
    rw [List.mem_append]
    exact not_or.2 ⟨hpath, by decide⟩
  have hline : (path ++ [')']).takeWhile (· ≠ '\n') = path ++ [')'] :=
    List.takeWhile_eq_self_iff.2 (Text.forall_ne_of_not_mem hnewline)
  have hbefore : ¬ localMark <:+: name ++ ' ' :: (version ++ ' ' :: []) := by
    intro hmark
    obtain hmark | hmark := Text.infix_of_infix_append_cons (by decide) hmark
    · exact hname hmark
    · obtain hmark | hmark := Text.infix_of_infix_append_cons (by decide) hmark
      · exact hversion hmark
      · exact absurd hmark (by decide)
  have hcut : name ++ ' ' :: (version ++ ' ' :: '(' :: (localMark ++ (path ++ [')']))) =
      (name ++ ' ' :: (version ++ ' ' :: [])) ++ ['('] ++ (localMark ++ (path ++ [')'])) := by
    simp
  rw [parenthesized?, hcut, Text.cutWhere?_append]
  · rfl
  · intro s hs hsuffix
    -- what is left of the text ends with the parenthesis, and the mark does not reach across it
    obtain rfl | ⟨front, rfl, hfront⟩ := List.suffix_concat_iff.1 hsuffix
    · exact absurd rfl hs
    · rw [List.append_assoc, List.singleton_append, Text.isPrefixOf?_eq_none
        (Text.not_prefix_append_cons (by decide) hbefore hfront)]
      rfl
  · rw [Text.isPrefixOf?_append, Option.bind_some, hline, beforeLast?_append List.not_mem_nil]

/-! ## Name and version behind the path -/

theorem LocalPath.ne_nil (h : LocalPath dir path) : path ≠ [] := by
  obtain ⟨further, rfl, -⟩ := h.below
  exact List.cons_ne_nil _ _

/-- The path up to the mark `#` is read, if what stands behind it is a version. -/
theorem marked?_append (hpath : '#' ∉ path) (hne : path ≠ []) {tail : List Char}
    (htail : ∀ c ∈ tail.head?, c = '#')
    (hversion : ∀ c version, tail.dropWhile (· ≠ '@') = c :: version → isVersion version = true) :
    marked? (localMark ++ (path ++ tail)) = some path := by
  have htake : (path ++ tail).takeWhile (· ≠ '#') = path := by
    apply Text.takeWhile_append_eq (Text.forall_ne_of_not_mem hpath)
    intro c hc
    rw [htail c hc]
    rfl
  have hfilter : (some path).filter (!·.isEmpty) = some path := by
    rw [Option.filter_some, List.isEmpty_eq_false_iff.2 hne]
    rfl
  rw [marked?, Text.isPrefixOf?_append, Option.bind_some]
  simp only [htake, List.drop_left]
  cases hmark : tail.dropWhile (· ≠ '@') with
  | nil => exact hfilter
  | cons c version =>
    show (if isVersion version = true then some path else _).filter _ = _
    rw [if_pos (hversion c version hmark)]
    exact hfilter

/-- A text in which the first mark `@` is not at the end has a version behind that mark. -/
theorem isVersion_of_dropWhile {tail : List Char} (hline : '\n' ∉ tail)
    (hversion : ∀ name, '@' ∉ name → tail ≠ name ++ ['@'])
    (h : tail.dropWhile (· ≠ '@') = c :: version) : isVersion version = true := by
  have hhead := List.head?_dropWhile_not (· ≠ '@') tail
  have hcut := List.takeWhile_append_dropWhile (p := (· ≠ '@')) (l := tail)
  rw [h] at hhead hcut
  obtain rfl : c = '@' := by simpa using hhead
  have hname : '@' ∉ tail.takeWhile (· ≠ '@') := by
    intro hmem
    simpa using List.mem_takeWhile_imp hmem
  have hne : version ≠ [] := by
    rintro rfl
    exact hversion _ hname hcut.symm
  have hnewline : '\n' ∉ version := by
    intro hmem
    rw [← hcut] at hline
    exact hline (List.mem_append_right _ (List.mem_cons_of_mem _ hmem))
  rw [isVersion, List.isEmpty_eq_false_iff.2 hne]
  simpa using hnewline

/-- In front of a version that is not empty there is a mark `@` which is not at the end. -/
theorem append_ne_concat {lead name : List Char} (hne : version ≠ []) (hname : '@' ∉ name) :
    lead ++ '@' :: version ≠ name ++ ['@'] := by
  obtain ⟨front, last, rfl⟩ := (List.eq_nil_or_concat' version).resolve_left hne
  intro h
  rw [← List.cons_append, ← List.append_assoc] at h
  obtain ⟨rfl, -⟩ := List.append_inj' h rfl
  exact hname (List.mem_append_right _ List.mem_cons_self)

/-! ## The directory -/

/-- Bytes are dropped up to the end of a character. -/
theorem dropBytes?_append (s rest : List Char) :
    dropBytes? (s.map Char.utf8Size).sum (s ++ rest) = some rest := by
  induction s with
  | nil =>
    cases rest with
    | nil => rfl
    | cons c rest => rfl
  | cons c s ih =>
    have hpos : 0 < c.utf8Size := c.utf8Size_pos
    rw [List.map_cons, List.sum_cons, List.cons_append, dropBytes?, if_neg (by omega),
      if_pos (by omega), Nat.add_sub_cancel_left, ih]

/-- The directory right below that of the sources is what the path goes through first. -/
theorem LocalPath.takeWhile_dropBytes? (h : LocalPath dir path) :
    ((dropBytes? buildRoot.utf8ByteSize path).getD []).takeWhile (· ≠ '/') = dir := by
  obtain ⟨further, rfl, hfurther⟩ := h.below
  have hsize : buildRoot.utf8ByteSize = (buildRoot.toList.map Char.utf8Size).sum := by decide +kernel
  rw [hsize, dropBytes?_append, Option.getD_some]
  apply Text.takeWhile_append_eq (Text.forall_ne_of_not_mem h.slash)
  intro c hc
  rw [hfurther c hc]
  rfl

/-- An identifier leads to the directory of its package. -/
theorem packageDir?_of_identifies {identifier : List Char} (h : Identifies dir identifier) :
    packageDir? (String.ofList identifier) = some (buildRoot ++ String.ofList dir) := by
  have hread {path : List Char} (hpath : LocalPath dir path)
      (hfound : (parenthesized? identifier).or (marked? identifier) = some path) :
      packageDir? (String.ofList identifier) = some (buildRoot ++ String.ofList dir) := by
    unfold packageDir?
    simp only [String.toList_ofList]
    rw [hfound, Option.map_some, hpath.takeWhile_dropBytes?]
  have hmark : ')' ∉ localMark := by decide
  cases h with
  | @path path hpath =>
    -- without a closing parenthesis the first of the two forms does not match
    have hclosed : ')' ∉ localMark ++ path := by
      rw [List.mem_append]
      exact not_or.2 ⟨hmark, hpath.unmarked ')' (by decide)⟩
    have hmarked : marked? (localMark ++ (path ++ [])) = some path :=
      marked?_append (hpath.unmarked '#' (by decide)) hpath.ne_nil nofun nofun
    apply hread hpath
    rw [parenthesized?_eq_none hclosed, Option.none_or, ← hmarked, List.append_nil]
  | @versioned path name version hpath hname hversion hne =>
    have hclosed : ')' ∉ localMark ++ (path ++ '#' :: (name ++ '@' :: version)) := by
      simp only [List.mem_append, List.mem_cons, not_or]
      exact ⟨hmark, hpath.unmarked ')' (by decide), by decide, hname ')' (by decide), by decide,
        hversion ')' (by decide)⟩
    -- name and version are on one line, so the version is cut off at its `@`
    have hline : '\n' ∉ ('#' :: name) ++ '@' :: version := by
      simp only [List.mem_append, List.mem_cons, not_or]
      exact ⟨⟨by decide, hname '\n' (by decide)⟩, by decide, hversion '\n' (by decide)⟩
    apply hread hpath
    rw [parenthesized?_eq_none hclosed, Option.none_or]
    apply marked?_append (hpath.unmarked '#' (by decide)) hpath.ne_nil
    · exact Text.forall_mem_some rfl
    · intro c rest hrest
      exact isVersion_of_dropWhile hline (fun _ hname => append_ne_concat hne hname) hrest
  | @parenthesized path name version hpath hname hversion =>
    apply hread hpath
    rw [parenthesized?_append (hpath.unmarked '\n' (by decide)) hname hversion, Option.some_or]

/-- A directory that is identified is named in one line. -/
theorem Identifies.newline_not_mem {identifier : List Char} (h : Identifies dir identifier) :
    '\n' ∉ dir := by
  have hbelow {path : List Char} (hpath : LocalPath dir path) : '\n' ∉ dir := by
    obtain ⟨further, hcut, -⟩ := hpath.below
    intro hmem
    apply hpath.unmarked '\n' (by decide)
    rw [hcut]
    exact List.mem_append_right _ (List.mem_append_left _ hmem)
  cases h with
  | path hpath => exact hbelow hpath
  | versioned hpath => exact hbelow hpath
  | parenthesized hpath => exact hbelow hpath

end ChrootScan.Clippy
