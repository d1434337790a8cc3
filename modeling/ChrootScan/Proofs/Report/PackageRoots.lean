import ChrootScan.Proofs.Report.Blocks

/-!
# Packages inside and outside the sources

Every block is placed below the directory of the sources, under the name that stands where the path
of its package would go on behind that directory. The place is right exactly if the package is inside
the sources (`inside_iff`).
-/

namespace ChrootScan.Clippy

variable {name path identifier : List Char} {dir : String}

/-! ## Directories -/

/-- The directory of the sources, without the slash at its end. -/
def sourceRoot : List Char := "/builddir/build/BUILD".toList

/-- The directory of a name right below that of the sources; no name means the latter. -/
def sourceDir (name : List Char) : List Char :=
  if name = [] then sourceRoot else sourceRoot ++ '/' :: name

/-- A path is that of a directory, or lies below it. -/
def Inside (dir path : List Char) : Prop :=
  path = dir ∨ dir ++ ['/'] <+: path

/-- The name that a package is placed under. -/
def topName (path : List Char) : List Char :=
  ((dropBytes? buildRoot.utf8ByteSize path).getD []).takeWhile (· ≠ '/')

/-- What is inside a package of the sources is inside the sources. -/
theorem inside_sourceRoot (h : Inside (sourceDir name) path) : Inside sourceRoot path := by
  unfold sourceDir at h
  split at h
  · exact h
  · right
    obtain rfl | ⟨rest, rfl⟩ := h
    · exact ⟨name, by simp⟩
    · exact ⟨name ++ '/' :: rest, by simp⟩

/-- The directory of the sources itself has no name behind it. -/
theorem topName_sourceRoot : topName sourceRoot = [] := by
  decide +kernel

/-- The name behind the directory of the sources ends at the next slash. -/
theorem topName_append (rest : List Char) :
    topName (sourceRoot ++ '/' :: rest) = rest.takeWhile (· ≠ '/') := by
  have hroot : sourceRoot ++ '/' :: rest = buildRoot.toList ++ rest := by
    exact List.append_cons sourceRoot '/' rest
  have hsize : buildRoot.utf8ByteSize = (buildRoot.toList.map Char.utf8Size).sum := by decide +kernel
  rw [topName, hroot, hsize, dropBytes?_append, Option.getD_some]

/-- The place of a package is right exactly if the package is inside the sources. -/
theorem inside_sourceDir_topName_iff :
    Inside (sourceDir (topName path)) path ↔ Inside sourceRoot path := by
  refine ⟨inside_sourceRoot, ?_⟩
  rintro (rfl | ⟨rest, rfl⟩)
  · rw [topName_sourceRoot]
    exact .inl rfl
  · rw [List.append_assoc, List.singleton_append, topName_append]
    unfold sourceDir
    split
    · exact .inr ⟨rest, by simp⟩
    · -- what follows the name is nothing, or begins with a slash
      have hcut := List.takeWhile_append_dropWhile (p := (· ≠ '/')) (l := rest)
      cases hrest : rest.dropWhile (· ≠ '/') with
      | nil =>
        rw [hrest, List.append_nil] at hcut
        left
        rw [hcut]
      | cons c behind =>
        have hc : ¬ decide (c ≠ '/') = true := by
          have hhead := List.head?_dropWhile_not (· ≠ '/') rest
          rw [hrest] at hhead
          simpa using hhead
        rw [hrest] at hcut
        obtain rfl : c = '/' := by simpa using hc
        right
        refine ⟨behind, ?_⟩
        conv_rhs => rw [← hcut]
        simp

/-! ## Paths that are read -/

/-- The path that is read from an identifier. -/
def readPath? (identifier : List Char) : Option (List Char) :=
  (parenthesized? identifier).or (marked? identifier)

/-- The local path of a package in its identifier: behind the mark, up to name and version, which may
be missing, or between the mark and the parenthesis at the end, behind name and version. -/
inductive LocatedAt (path : List Char) : List Char → Prop
  | marked {tail : List Char} : '#' ∉ path → path ≠ [] → '\n' ∉ path ++ tail →
      (∀ c ∈ tail.head?, c = '#') → (∀ name, '@' ∉ name → tail ≠ name ++ ['@']) →
      LocatedAt path (localMark ++ (path ++ tail))
  | parenthesized {name version : List Char} : '\n' ∉ path →
      ¬ localMark <:+: name → ¬ localMark <:+: version →
      LocatedAt path (name ++ ' ' :: (version ++ ' ' :: '(' :: (localMark ++ (path ++ [')']))))

/-- What comes before a last character is followed by it. -/
theorem eq_append_of_beforeLast? {c : Char} {s before : List Char}
    (h : beforeLast? c s = some before) : ∃ after, s = before ++ c :: after := by
  unfold beforeLast? at h
  have hhead := List.head?_dropWhile_not (· ≠ c) s.reverse
  have hcut := List.takeWhile_append_dropWhile (p := (· ≠ c)) (l := s.reverse)
  cases hdrop : s.reverse.dropWhile (· ≠ c) with
  | nil =>
    rw [hdrop] at h
    cases h
  | cons d front =>
    rw [hdrop] at h hhead hcut
    obtain rfl := Option.some.inj h
    obtain rfl : d = c := by simpa using hhead
    have hs := congrArg List.reverse hcut
    rw [List.reverse_reverse, List.reverse_append, List.reverse_cons, List.append_assoc] at hs
    exact ⟨_, hs.symm⟩

/-- A path in parentheses stands behind the mark for local ones. -/
theorem eq_append_of_parenthesized? (h : parenthesized? identifier = some path) :
    ∃ lead rest, identifier = lead ++ (localMark ++ (path ++ rest)) := by
  obtain ⟨⟨lead, found⟩, hcut, rfl⟩ := Option.map_eq_some_iff.1 h
  obtain ⟨behind, rfl, hfound⟩ := Text.eq_append_of_cutWhere? hcut
  obtain ⟨rest, hmark, hfound⟩ := Option.bind_eq_some_iff.1 hfound
  obtain ⟨after, hline⟩ := eq_append_of_beforeLast? hfound
  have hrest := List.takeWhile_append_dropWhile (p := (· ≠ '\n')) (l := rest)
  rw [← List.isPrefixOf?_eq_some_iff_append_eq.1 hmark, ← hrest, hline, List.append_assoc]
  exact ⟨lead, _, rfl⟩

/-- What comes before a version is what its text begins with. -/
theorem prefix_of_beforeVersion? {tail s before : List Char}
    (h : beforeVersion? tail s = some before) : before <+: s := by
  induction s generalizing before with
  | nil => cases h
  | cons c s ih =>
    rw [beforeVersion?] at h
    cases hrest : beforeVersion? tail s with
    | some front =>
      rw [hrest] at h
      obtain rfl := Option.some.inj h
      exact List.cons_prefix_cons.2 ⟨rfl, ih hrest⟩
    | none =>
      rw [hrest] at h
      dsimp only at h
      split at h
      · obtain rfl := Option.some.inj h
        exact List.nil_prefix
      · cases h

/-- A path that is marked follows the mark at the beginning. -/
theorem eq_append_of_marked? (h : marked? identifier = some path) :
    ∃ rest, identifier = localMark ++ (path ++ rest) := by
  obtain ⟨behind, hmark, h⟩ := Option.bind_eq_some_iff.1 h
  obtain ⟨hfound, -⟩ := Option.filter_eq_some_iff.1 h
  have hprefix : path <+: behind.takeWhile (· ≠ '#') := by
    split at hfound
    · exact (Option.some.inj hfound) ▸ List.prefix_rfl
    · split at hfound
      · exact (Option.some.inj hfound) ▸ List.prefix_rfl
      · exact prefix_of_beforeVersion? hfound
  obtain ⟨rest, hrest⟩ := hprefix.trans (List.takeWhile_prefix _)
  rw [← List.isPrefixOf?_eq_some_iff_append_eq.1 hmark, ← hrest]
  exact ⟨rest, rfl⟩

/-- A path that is read stands behind the mark, in either form. -/
theorem eq_append_of_readPath? (h : readPath? identifier = some path) :
    ∃ lead rest, identifier = lead ++ (localMark ++ (path ++ rest)) := by
  obtain h | ⟨-, h⟩ := Option.or_eq_some_iff.1 h
  · exact eq_append_of_parenthesized? h
  · obtain ⟨rest, hrest⟩ := eq_append_of_marked? h
    exact ⟨[], rest, hrest⟩

/-- Behind the mark, up to the last closing parenthesis. -/
theorem parenthesized?_localMark {rest before after : List Char} (hline : '\n' ∉ rest)
    (hrest : rest = before ++ ')' :: after) (hafter : ')' ∉ after) :
    parenthesized? (localMark ++ rest) = some before := by
  have htake : rest.takeWhile (· ≠ '\n') = rest :=
    List.takeWhile_eq_self_iff.2 (Text.forall_ne_of_not_mem hline)
  have hfound : (localMark.isPrefixOf? (localMark ++ rest)).bind (fun path =>
      beforeLast? ')' (path.takeWhile (· ≠ '\n'))) = some before := by
    rw [Text.isPrefixOf?_append, Option.bind_some, htake, hrest, beforeLast?_append hafter]
  rw [parenthesized?, ← List.nil_append (localMark ++ rest), Text.cutWhere?_append]
  · rfl
  · intro s hs hsuffix
    exact absurd (List.suffix_nil.1 hsuffix) hs
  · exact hfound

/-- The local path is read, unless a closing parenthesis stands behind the mark; then what stands
before the last one is. -/
theorem readPath?_of_locatedAt (h : LocatedAt path identifier) :
    readPath? identifier = some path ∨
      ∃ tail before after, identifier = localMark ++ (path ++ tail) ∧
        path ++ tail = before ++ ')' :: after ∧ ')' ∉ after ∧ readPath? identifier = some before := by
  cases h with
  | parenthesized hline hname hversion =>
    left
    rw [readPath?, parenthesized?_append hline hname hversion, Option.some_or]
  | @marked tail hmark hne hline htail hversion =>
    by_cases hclosed : ')' ∈ path ++ tail
    · right
      obtain ⟨after, before, hcut, hafter⟩ :=
        List.eq_append_cons_of_mem (List.mem_reverse.2 hclosed)
      have hcut : path ++ tail = before.reverse ++ ')' :: after.reverse := by
        rw [← List.reverse_inj, hcut]
        simp
      have hafter : ')' ∉ after.reverse := mt List.mem_reverse.1 hafter
      refine ⟨tail, before.reverse, after.reverse, rfl, hcut, hafter, ?_⟩
      rw [readPath?, parenthesized?_localMark hline hcut hafter, Option.some_or]
    · left
      have hnone : ')' ∉ localMark ++ (path ++ tail) := List.not_mem_append (by decide) hclosed
      have hline' : '\n' ∉ tail := fun hmem => hline (List.mem_append_right path hmem)
      rw [readPath?, parenthesized?_eq_none hnone, Option.none_or]
      exact marked?_append hmark hne htail fun _ _ => isVersion_of_dropWhile hline' hversion

/-! ## Places of packages -/

/-- A directory is that of the sources and a name below it, which is that of the path. -/
theorem packageDir?_eq_some (h : packageDir? (String.ofList identifier) = some dir) :
    ∃ path, readPath? identifier = some path ∧ dir = buildRoot ++ String.ofList (topName path) := by
  unfold packageDir? at h
  simp only [String.toList_ofList] at h
  obtain ⟨path, hpath, rfl⟩ := Option.map_eq_some_iff.1 h
  exact ⟨path, hpath, rfl⟩

/-- A block is placed under one name right below the directory of the sources. The path that is read
from the identifier stands behind the mark of a local path, and the place is that of this path
exactly if the path is inside the sources. It is the local path of the package, unless a closing
parenthesis stands behind that; then it ends before the last one. -/
theorem inside_iff {document : Json} {block : String} (h : block? document = some block) :
    ∃ identifier rendered d path name,
      CompilerMessage document identifier rendered ∧
      Diagnostic.ofRendered? (Text.trimChars rendered) = some d ∧
      block = d.block ("/builddir/build/BUILD/" ++ String.ofList name) ∧ '/' ∉ name ∧
      (∃ lead rest, identifier = lead ++ (localMark ++ (path ++ rest))) ∧
      (Inside (sourceDir name) path ↔ Inside sourceRoot path) ∧
      ∀ located, LocatedAt located identifier → path = located ∨
        ∃ tail after, identifier = localMark ++ (located ++ tail) ∧
          located ++ tail = path ++ ')' :: after ∧ ')' ∉ after := by
  obtain ⟨dir, d, ⟨identifier, rendered, hdocument, hdir, hd⟩, rfl⟩ := block?_eq_some_iff.1 h
  obtain ⟨path, hread, rfl⟩ := packageDir?_eq_some hdir
  have hslash : '/' ∉ topName path := by
    intro hmem
    simpa using List.mem_takeWhile_imp hmem
  refine ⟨identifier, rendered, d, path, topName path, hdocument, hd, rfl, hslash,
    eq_append_of_readPath? hread, inside_sourceDir_topName_iff, ?_⟩
  intro located hlocated
  -- an identifier of the first form may be read as one of the second if a parenthesis closes it
  obtain hpath | ⟨tail, before, after, hidentifier, hcut, hafter, hbefore⟩ :=
    readPath?_of_locatedAt hlocated
  · exact .inl (Option.some.inj (hread.symm.trans hpath))
  · obtain rfl := Option.some.inj (hread.symm.trans hbefore)
    exact .inr ⟨tail, after, hidentifier, hcut, hafter⟩

/-- A message of the compiler has one identifier. -/
theorem eq_of_compilerMessage {id text : String} {rendered : List Char}
    (h : CompilerMessage (compilerMessage id text) identifier rendered) : identifier = id.toList := by
  have hid := Json.string.inj (Option.some.inj h.package)
  rw [hid, String.toList_ofList]

/-- A crate further below in the sources. -/
theorem inside_iff_nested :
    let identifier := "path+file:///builddir/build/BUILD/a-1/b#c@2"
    let path := "/builddir/build/BUILD/a-1/b".toList
    LocatedAt path identifier.toList ∧ Inside sourceRoot path ∧
      ∃ block d name,
        block? (compilerMessage identifier "warning: m\n --> s.rs:1:2") = some block ∧
        block = Diagnostic.block ("/builddir/build/BUILD/" ++ String.ofList name) d ∧
        Inside (sourceDir name) path := by
  intro identifier path
  have hroot : Inside sourceRoot path := .inr ⟨"a-1/b".toList, by decide⟩
  have hversion : ∀ name, '@' ∉ name → "#c@2".toList ≠ name ++ ['@'] := fun _ =>
    @append_ne_concat "2".toList "#c".toList _ (by decide)
  have htext : identifier.toList = localMark ++ (path ++ "#c@2".toList) := by decide
  have hlocated : LocatedAt path identifier.toList :=
    htext ▸ .marked (by decide) (by decide) (by decide) (Text.forall_mem_some rfl) hversion
  have hblock : block? (compilerMessage identifier "warning: m\n --> s.rs:1:2") =
      some "Error: CLIPPY_WARNING:\n/builddir/build/BUILD/a-1/s.rs:1:2: warning: m\n\n" := by
    decide +kernel
  obtain ⟨identifier', rendered, d, read, name, hdocument, -, hplaced, -, -, hinside, hread⟩ :=
    inside_iff hblock
  obtain rfl : identifier' = identifier.toList := eq_of_compilerMessage hdocument
  obtain rfl : read = path := by
    refine (hread path hlocated).resolve_right ?_
    rintro ⟨tail, after, hidentifier, hcut, -⟩
    have hclosed : ')' ∈ identifier.toList := by
      rw [hidentifier, hcut]
      simp
    exact absurd hclosed (by decide)
  exact ⟨hlocated, hroot, _, d, name, hblock, hplaced, hinside.2 hroot⟩

/-- A crate of the system is placed inside the sources, since only the length of their directory is
cut off its path. -/
theorem not_inside_registry :
    let identifier := "path+file:///usr/share/cargo/registry/libc-0.2.1#libc@0.2.1"
    let path := "/usr/share/cargo/registry/libc-0.2.1".toList
    LocatedAt path identifier.toList ∧
      block? (compilerMessage identifier "warning: m\n --> s.rs:1:2") =
        some "Error: CLIPPY_WARNING:\n/builddir/build/BUILD/try/s.rs:1:2: warning: m\n\n" ∧
      ¬ Inside sourceRoot path ∧ ¬ Inside (sourceDir "try".toList) path := by
  intro identifier path
  have hversion : ∀ name, '@' ∉ name → "#libc@0.2.1".toList ≠ name ++ ['@'] := fun _ =>
    @append_ne_concat "0.2.1".toList "#libc".toList _ (by decide)
  have htext : identifier.toList = localMark ++ (path ++ "#libc@0.2.1".toList) := by decide
  have hlocated : LocatedAt path identifier.toList :=
    htext ▸ .marked (by decide) (by decide) (by decide) (Text.forall_mem_some rfl) hversion
  have hroot : ¬ Inside sourceRoot path := by
    unfold Inside
    decide
  exact ⟨hlocated, by decide +kernel, hroot, mt inside_sourceRoot hroot⟩

end ChrootScan.Clippy
