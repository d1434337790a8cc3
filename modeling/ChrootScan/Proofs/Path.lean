import ChrootScan.FileTree
import ChrootScan.Proofs.Text.Fields
import Mathlib.Data.List.TakeWhile

/-!
# Pieces of paths

A slash adds nothing to the pieces of a path but what stands behind it, so a piece that is joined to
a path comes behind its pieces (`route_join`), and a path loses nothing with the slashes at its end
(`route_dropTrailing`). A name behind the last slash is the file name (`fileName?_append_slash`).
-/

namespace ChrootScan.Path

/-- A name that a directory can have for what is in it. -/
structure IsName (name : String) : Prop where
  ne_empty : name ≠ ""
  slash : '/' ∉ name.toList
  ne_here : name ≠ "."
  ne_above : name ≠ ".."

instance (name : String) : Decidable (IsName name) :=
  decidable_of_iff (name ≠ "" ∧ '/' ∉ name.toList ∧ name ≠ "." ∧ name ≠ "..")
    ⟨fun ⟨hempty, hslash, hhere, habove⟩ => ⟨hempty, hslash, hhere, habove⟩,
      fun h => ⟨h.ne_empty, h.slash, h.ne_here, h.ne_above⟩⟩

/-- A text that can stand between the slashes of a path. -/
structure IsPiece (piece : String) : Prop where
  ne_empty : piece ≠ ""
  slash : '/' ∉ piece.toList

theorem IsName.isPiece {name : String} (h : IsName name) : IsPiece name :=
  ⟨h.ne_empty, h.slash⟩

variable {base name piece path : String}

/-- A slash cuts a path into the pieces in front of it and those behind it. -/
theorem pieces_append_slash {s : String} {before behind : List Char}
    (h : s.toList = before ++ '/' :: behind) :
    pieces s = pieces (String.ofList before) ++ pieces (String.ofList behind) := by
  rw [pieces, Text.splitAt, h, Text.fields_append_cons, List.map_append, List.filter_append,
    pieces, pieces, Text.splitAt, Text.splitAt, String.toList_ofList, String.toList_ofList]

theorem pieces_ofList_nil : pieces (String.ofList []) = [] := by
  decide

/-- A path is absolute if it begins with a slash. -/
theorem isAbsolute_iff : isAbsolute path = true ↔ path.toList.head? = some '/' := by
  rw [isAbsolute, Text.startsWith, List.isPrefixOf_iff_prefix]
  exact List.singleton_prefix_iff_head?_eq_some

theorem endsWith_slash_iff : Text.endsWith "/" path = true ↔ path.toList.getLast? = some '/' := by
  rw [Text.endsWith, List.isSuffixOf_iff_suffix]
  exact List.singleton_suffix_iff_getLast?_eq_some

/-- A piece is the only one of itself. -/
theorem IsPiece.pieces (h : IsPiece piece) : pieces piece = [piece] := by
  rw [Path.pieces, Text.splitAt, Text.fields_of_not_mem h.slash, List.map_singleton,
    String.ofList_toList]
  exact List.filter_cons_of_pos (by simp [h.ne_empty])

/-- No piece begins with a slash. -/
theorem IsPiece.isAbsolute (h : IsPiece piece) : isAbsolute piece = false := by
  refine Bool.eq_false_iff.2 fun habsolute => h.slash ?_
  exact List.mem_of_head? (isAbsolute_iff.1 habsolute)

/-- Slashes at the end add no pieces. -/
theorem pieces_append_slashes (before : List Char) {slashes : List Char}
    (h : ∀ c ∈ slashes, c = '/') :
    pieces (String.ofList (before ++ slashes)) = pieces (String.ofList before) := by
  induction slashes generalizing before with
  | nil => rw [List.append_nil]
  | cons c slashes ih =>
    obtain ⟨rfl, hslashes⟩ := List.forall_mem_cons.1 h
    have hrest : pieces (String.ofList slashes) = [] :=
      (ih [] hslashes).trans pieces_ofList_nil
    rw [pieces_append_slash String.toList_ofList, hrest, List.append_nil]

/-- A path is its part without the slashes at its end, and these. -/
theorem exists_dropTrailing (path : String) : ∃ slashes : List Char,
    path.toList = (Text.dropTrailing '/' path).toList ++ slashes ∧ ∀ c ∈ slashes, c = '/' := by
  refine ⟨(path.toList.reverse.takeWhile (· == '/')).reverse, ?_, fun c hc => ?_⟩
  · rw [Text.dropTrailing, String.toList_ofList, ← List.reverse_append,
      List.takeWhile_append_dropWhile, List.reverse_reverse]
  · have hslash := List.mem_takeWhile_imp (List.mem_reverse.1 hc)
    exact eq_of_beq hslash

/-- Slashes at the end of a path add no pieces. -/
theorem pieces_dropTrailing (path : String) :
    pieces (Text.dropTrailing '/' path) = pieces path := by
  obtain ⟨slashes, hpath, hslashes⟩ := exists_dropTrailing path
  have hpieces := pieces_append_slashes (Text.dropTrailing '/' path).toList hslashes
  rw [← hpath, String.ofList_toList, String.ofList_toList] at hpieces
  exact hpieces.symm

/-- Once they are dropped, no slash is left at the end. -/
theorem endsWith_dropTrailing (path : String) :
    Text.endsWith "/" (Text.dropTrailing '/' path) = false := by
  refine Bool.eq_false_iff.2 fun hslash => ?_
  have hlast := endsWith_slash_iff.1 hslash
  have hnot := List.head?_dropWhile_not (· == '/') path.toList.reverse
  rw [Text.dropTrailing, String.toList_ofList, List.getLast?_reverse] at hlast
  rw [hlast] at hnot
  exact absurd hnot (by decide)

/-- A path that is not made of slashes alone stays absolute without those at its end. -/
theorem isAbsolute_dropTrailing (h : Text.dropTrailing '/' path ≠ "") :
    isAbsolute (Text.dropTrailing '/' path) = isAbsolute path := by
  obtain ⟨slashes, hpath, -⟩ := exists_dropTrailing path
  have hne : (Text.dropTrailing '/' path).toList ≠ [] := mt String.toList_eq_nil_iff.1 h
  rw [Bool.eq_iff_iff, isAbsolute_iff, isAbsolute_iff, hpath, List.head?_append_of_ne_nil _ hne]

/-- A path without a slash at its end has none to drop. -/
theorem dropTrailing_eq_self (h : Text.endsWith "/" path = false) :
    Text.dropTrailing '/' path = path := by
  obtain ⟨slashes, hpath, hslashes⟩ := exists_dropTrailing path
  cases slashes using List.reverseRecOn with
  | nil => rw [← String.toList_inj, hpath, List.append_nil]
  | append_singleton slashes c =>
    have hlast : path.toList.getLast? = some c := by
      rw [hpath, ← List.append_assoc, List.getLast?_concat]
    rw [hslashes c (by simp)] at hlast
    rw [endsWith_slash_iff.2 hlast] at h
    cases h

/-! ## Pieces behind paths -/

/-- The pieces of a path with one more behind it. -/
theorem pieces_join (base : String) (hpiece : IsPiece piece) :
    pieces (join base piece) = pieces base ++ [piece] := by
  rw [join, hpiece.isAbsolute, Bool.false_or]
  split_ifs with hempty hslash
  · rw [String.isEmpty_iff.1 hempty, hpiece.pieces]
    rfl
  · obtain ⟨before, hbase⟩ := List.getLast?_eq_some_iff.1 (endsWith_slash_iff.1 hslash)
    have hjoin : (base ++ piece).toList = before ++ '/' :: piece.toList := by
      rw [String.toList_append, hbase, List.append_assoc]
      rfl
    rw [pieces_append_slash hjoin, pieces_append_slash hbase, pieces_ofList_nil, List.append_nil,
      String.ofList_toList, hpiece.pieces]
  · have hjoin : (base ++ "/" ++ piece).toList = base.toList ++ '/' :: piece.toList := by
      rw [String.toList_append, String.toList_append, List.append_assoc]
      rfl
    rw [pieces_append_slash hjoin, String.ofList_toList, String.ofList_toList, hpiece.pieces]

/-- A path that is joined to another one stands behind it, and a slash between the two. -/
theorem toList_join (base : String) (h : isAbsolute name = false) :
    (join base name).toList = base.toList ++ name.toList ∨
      (join base name).toList = base.toList ++ '/' :: name.toList := by
  rw [join, h, Bool.false_or]
  split_ifs with hempty
  · rw [String.isEmpty_iff.1 hempty]
    exact .inl rfl
  · exact .inl (String.toList_append ..)
  · refine .inr ?_
    rw [String.toList_append, String.toList_append, List.append_assoc]
    rfl

/-- A path with a piece behind it is not empty. -/
theorem join_ne_empty (base : String) (hpiece : IsPiece piece) : join base piece ≠ "" := by
  have hne : piece.toList ≠ [] := mt String.toList_eq_nil_iff.1 hpiece.ne_empty
  intro hempty
  obtain hjoin | hjoin := toList_join base hpiece.isAbsolute
  · rw [hempty] at hjoin
    exact hne (List.append_eq_nil_iff.1 hjoin.symm).2
  · rw [hempty] at hjoin
    exact List.cons_ne_nil _ _ (List.append_eq_nil_iff.1 hjoin.symm).2

/-- A piece behind a path leaves it as absolute as it is. -/
theorem isAbsolute_join (hbase : base ≠ "") (hpiece : IsPiece piece) :
    isAbsolute (join base piece) = isAbsolute base := by
  have hne : base.toList ≠ [] := mt String.toList_eq_nil_iff.1 hbase
  rw [Bool.eq_iff_iff, isAbsolute_iff, isAbsolute_iff]
  obtain hjoin | hjoin := toList_join base hpiece.isAbsolute
  · rw [hjoin, List.head?_append_of_ne_nil _ hne]
  · rw [hjoin, List.head?_append_of_ne_nil _ hne]

/-- A path with a piece behind it does not end in a slash. -/
theorem endsWith_join (base : String) (hpiece : IsPiece piece) :
    Text.endsWith "/" (join base piece) = false := by
  refine Bool.eq_false_iff.2 fun hslash => hpiece.slash ?_
  have hlast := endsWith_slash_iff.1 hslash
  have hne : piece.toList ≠ [] := mt String.toList_eq_nil_iff.1 hpiece.ne_empty
  obtain hjoin | hjoin := toList_join base hpiece.isAbsolute
  · rw [hjoin, List.getLast?_append_of_ne_nil _ hne] at hlast
    exact List.mem_of_getLast? hlast
  · rw [hjoin, List.append_cons, List.getLast?_append_of_ne_nil _ hne] at hlast
    exact List.mem_of_getLast? hlast

/-! ## File names -/

/-- A text without slashes that is longer than a pair of dots is a name. -/
theorem isName_append {stem ending : String} (hstem : '/' ∉ stem.toList)
    (hending : '/' ∉ ending.toList) (hlong : 2 < ending.length) : IsName (stem ++ ending) := by
  have hne {s : String} (hs : s.length ≤ 2) : stem ++ ending ≠ s := by
    rintro rfl
    rw [String.length_append] at hs
    omega
  refine ⟨hne (by decide), ?_, hne (by decide), hne (by decide)⟩
  rw [String.toList_append]
  exact List.not_mem_append hstem hending

/-- A name behind the last slash of a path is the last of its components. -/
theorem getLast?_components {before : List String}
    (hsplit : Text.splitAt '/' path = before ++ [name]) (hname : IsName name) :
    (components path).getLast? = some name := by
  have hkept (p : String → Bool) (hp : p name = true) (front pieces : List String) :
      (front ++ (pieces ++ [name]).filter p).getLast? = some name := by
    rw [List.filter_append, List.filter_cons_of_pos hp, List.filter_nil, ← List.append_assoc,
      List.getLast?_concat]
  rw [components]
  split
  · rw [pieces, hsplit, List.filter_filter]
    exact hkept _ (by simp [hname.ne_empty, hname.ne_here]) ["/"] before
  · rw [hsplit]
    split
    · next rest hrest =>
      -- the leading dot is not the name
      cases before with
      | nil => exact absurd (List.cons_eq_cons.1 hrest).1 hname.ne_here
      | cons first before =>
        rw [← (List.cons_eq_cons.1 hrest).2]
        exact hkept _ (by simp [hname.ne_empty, hname.ne_here]) ["."] before
    · exact hkept _ (by simp [hname.ne_empty, hname.ne_here]) [] before

/-- The last part between slashes is the name of a file, if it is a name. -/
theorem fileName?_of_splitAt {before : List String}
    (hsplit : Text.splitAt '/' path = before ++ [name]) (hname : IsName name) :
    fileName? path = some name := by
  have hslash : name ≠ "/" := by
    rintro rfl
    exact hname.slash (by decide)
  rw [fileName?, getLast?_components hsplit hname]
  split
  · next h => cases h
  · next h => exact absurd (Option.some.inj h) hslash
  · next h => exact absurd (Option.some.inj h) hname.ne_above
  · next h => exact absurd (Option.some.inj h) hname.ne_here
  · next h => exact h.symm

/-- A name is the name of the file that it stands for. -/
theorem IsName.fileName? (h : IsName name) : fileName? name = some name :=
  have hsplit : Text.splitAt '/' name = [] ++ [name] := Text.splitAt_of_not_mem h.slash
  fileName?_of_splitAt hsplit h

/-- Behind a slash, a name is that of the file. -/
theorem fileName?_append_slash (base : String) (h : IsName name) :
    fileName? (base ++ "/" ++ name) = some name := by
  have hpath : (base ++ "/" ++ name).toList = base.toList ++ '/' :: name.toList := by simp
  have hsplit : Text.splitAt '/' (base ++ "/" ++ name) = Text.splitAt '/' base ++ [name] := by
    rw [Text.splitAt, hpath, Text.fields_append_cons, List.map_append, Text.splitAt,
      Text.fields_of_not_mem h.slash, List.map_singleton, String.ofList_toList]
  exact fileName?_of_splitAt hsplit h

/-- All components of a path but a slash are among its pieces. -/
theorem mem_splitAt_of_mem_components (h : name ∈ components path) (hname : name ≠ "/")
    (hhere : name ≠ ".") : name ∈ Text.splitAt '/' path ∧ name ≠ "" := by
  rw [components] at h
  split at h
  · obtain h | h := List.mem_cons.1 h
    · exact absurd h hname
    · simpa [pieces] using List.mem_of_mem_filter h
  · split at h
    · next rest hrest =>
      obtain h | h := List.mem_cons.1 h
      · exact absurd h hhere
      · obtain ⟨hmem, hkept⟩ := List.mem_filter.1 h
        rw [hrest]
        exact ⟨List.mem_cons_of_mem _ hmem, (of_decide_eq_true hkept).1⟩
    · obtain ⟨hmem, hkept⟩ := List.mem_filter.1 h
      exact ⟨hmem, (of_decide_eq_true hkept).1⟩

/-- What is found as the name of a file is a name: neither empty nor one of the two dots. -/
theorem isName_of_fileName? (h : fileName? path = some name) : IsName name := by
  rw [fileName?] at h
  split at h
  · cases h
  · cases h
  · cases h
  · cases h
  · next last hroot habove hhere hlast =>
    obtain rfl := Option.some.inj h
    obtain ⟨hmem, hempty⟩ :=
      mem_splitAt_of_mem_components (List.mem_of_getLast? hlast) hroot hhere
    exact ⟨hempty, Text.not_mem_of_mem_splitAt hmem, hhere, habove⟩

/-! ## Routes -/

/-- A path leads along its pieces, whatever slashes are at its end. -/
theorem route_dropTrailing (path : String) :
    FileTree.route (Text.dropTrailing '/' path) = pieces path := by
  rw [FileTree.route, endsWith_dropTrailing, pieces_dropTrailing]
  exact List.append_nil _

/-- A path with a piece behind it leads along its own pieces and then this one. -/
theorem route_join (base : String) (hpiece : IsPiece piece) :
    FileTree.route (join base piece) = pieces base ++ [piece] := by
  rw [FileTree.route, endsWith_join base hpiece, pieces_join base hpiece]
  exact List.append_nil _

end ChrootScan.Path
