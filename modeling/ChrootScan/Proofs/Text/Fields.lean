import ChrootScan.Text.Fields
import Mathlib.Tactic

/-!
# Fields and lines of texts that are put together

A separator between two texts ends a field, so the fields of the whole are those of the two
(`fields_append_cons`), and a newline ends a line in the same way (`linesChars_append_cons`).
-/

namespace ChrootScan.Text

variable {α : Type} [DecidableEq α] {sep : α}

/-- A separator between two texts ends a field of the first one. -/
theorem fields_append_cons (s t : List α) :
    fields sep (s ++ sep :: t) = fields sep s ++ fields sep t := by
  induction s with
  | nil => simp [fields]
  | cons c s ih =>
    rw [List.cons_append, fields, fields, ih]
    split
    · rfl
    · cases hs : fields sep s with
      | nil => exact absurd hs (fields_ne_nil sep s)
      | cons piece pieces => rfl

/-- A text without separators is one field. -/
theorem fields_of_not_mem {s : List α} (h : sep ∉ s) : fields sep s = [s] := by
  induction s with
  | nil => rfl
  | cons c s ih =>
    obtain ⟨hc, hs⟩ := not_or.1 (mt List.mem_cons.2 h)
    rw [fields, if_neg (Ne.symm hc), ih hs]

/-- No field has a separator in it. -/
theorem not_mem_of_mem_fields {s piece : List α} (h : piece ∈ fields sep s) : sep ∉ piece := by
  induction s generalizing piece with
  | nil =>
    rw [List.mem_singleton.1 h]
    exact List.not_mem_nil
  | cons c s ih =>
    rw [fields] at h
    split at h
    · obtain rfl | h := List.mem_cons.1 h
      · exact List.not_mem_nil
      · exact ih h
    · next hc =>
      cases hs : fields sep s with
      | nil => exact absurd hs (fields_ne_nil sep s)
      | cons first pieces =>
        rw [hs] at h ih
        obtain rfl | h := List.mem_cons.1 h
        · exact mt List.mem_cons.1 (not_or.2 ⟨Ne.symm hc, ih (List.mem_cons_self ..)⟩)
        · exact ih (List.mem_cons_of_mem _ h)

/-- The fields of a joined text are those of its pieces. -/
theorem fields_joinChars {sep : Char} {pieces : List (List Char)} (h : pieces ≠ []) :
    fields sep (joinChars [sep] pieces) = pieces.flatMap (fields sep) := by
  induction pieces with
  | nil => exact absurd rfl h
  | cons piece pieces ih =>
    cases pieces with
    | nil => simp [joinChars]
    | cons next pieces =>
      have hjoin : joinChars [sep] (piece :: next :: pieces) =
          piece ++ sep :: joinChars [sep] (next :: pieces) := by
        simp [joinChars]
      rw [hjoin, fields_append_cons, ih (List.cons_ne_nil _ _)]
      rfl

/-- A joined text is cut into what its pieces are cut into. -/
theorem splitAt_join (c : Char) (sep : String) (hsep : sep.toList = [c]) {pieces : List String}
    (h : pieces ≠ []) : splitAt c (join sep pieces) = pieces.flatMap (splitAt c) := by
  have hpieces : pieces.map String.toList ≠ [] := by simpa using h
  rw [splitAt, join, String.toList_ofList, hsep, fields_joinChars hpieces, List.flatMap_map,
    List.map_flatMap]
  rfl

/-- A last piece is joined behind the separator. -/
theorem joinChars_concat {sep piece : List Char} {pieces : List (List Char)} (h : pieces ≠ []) :
    joinChars sep (pieces ++ [piece]) = joinChars sep pieces ++ sep ++ piece := by
  induction pieces with
  | nil => exact absurd rfl h
  | cons first pieces ih =>
    cases pieces with
    | nil => rfl
    | cons second pieces =>
      have hrest := ih (List.cons_ne_nil _ _)
      simp only [List.cons_append] at hrest ⊢
      simp only [joinChars, hrest, List.append_assoc]

theorem join_cons (sep piece : String) {pieces : List String} (h : pieces ≠ []) :
    join sep (piece :: pieces) = piece ++ sep ++ join sep pieces := by
  obtain ⟨next, rest, rfl⟩ := List.exists_cons_of_ne_nil h
  simp [join, joinChars, String.ofList_append, String.append_assoc]

/-- A piece is joined to others with a separator in front of it, and to none without. -/
theorem join_concat (sep piece : String) (pieces : List String) :
    join sep (pieces ++ [piece]) =
      join sep pieces ++ (if pieces.length = 0 then "" else sep) ++ piece := by
  cases pieces with
  | nil => simp [join, joinChars]
  | cons first rest =>
    have hlength : ¬ (first :: rest).length = 0 := Nat.succ_ne_zero _
    have hpieces : (first :: rest).map String.toList ≠ [] := List.cons_ne_nil _ _
    rw [if_neg hlength, join, List.map_append, List.map_singleton,
      joinChars_concat hpieces, String.ofList_append, String.ofList_append, String.ofList_toList,
      String.ofList_toList, join]

/-- Pieces that come behind others have a separator in front of each of them. -/
theorem join_append (sep : String) {pieces : List String} (h : pieces ≠ []) (more : List String) :
    join sep (pieces ++ more) = join sep pieces ++ String.join (more.map (sep ++ ·)) := by
  induction more generalizing pieces with
  | nil => rw [List.append_nil, List.map_nil, String.join_nil, String.append_empty]
  | cons piece more ih =>
    have hlength : ¬ pieces.length = 0 := mt List.length_eq_zero_iff.1 h
    rw [List.append_cons, ih (by simp), join_concat, if_neg hlength, List.map_cons,
      String.join_cons, String.append_assoc, String.append_assoc, String.append_assoc]

theorem splitAt_of_not_mem {c : Char} {s : String} (h : c ∉ s.toList) : splitAt c s = [s] := by
  rw [splitAt, fields_of_not_mem h, List.map_singleton, String.ofList_toList]

/-- Pieces without the separator are what their join is cut into. -/
theorem splitAt_join_of_not_mem (c : Char) (sep : String) (hsep : sep.toList = [c])
    {pieces : List String} (hne : pieces ≠ []) (h : ∀ piece ∈ pieces, c ∉ piece.toList) :
    splitAt c (join sep pieces) = pieces := by
  rw [splitAt_join c sep hsep hne, List.flatMap_congr fun piece hp => splitAt_of_not_mem (h piece hp)]
  exact List.flatMap_singleton' pieces

theorem not_mem_of_mem_splitAt {c : Char} {s piece : String} (h : piece ∈ splitAt c s) :
    c ∉ piece.toList := by
  obtain ⟨field, hfield, rfl⟩ := List.mem_map.1 h
  rw [String.toList_ofList]
  exact not_mem_of_mem_fields hfield

theorem splitAt_append_newline {line : String} (h : '\n' ∉ line.toList) (rest : String) :
    splitAt '\n' (line ++ "\n" ++ rest) = line :: splitAt '\n' rest := by
  have hchars : (line ++ "\n" ++ rest).toList = line.toList ++ '\n' :: rest.toList := by simp
  rw [splitAt, hchars, fields_append_cons, fields_of_not_mem h, List.map_append, List.map_singleton,
    String.ofList_toList, List.singleton_append, splitAt]

/-- Lines that are ended are what a text that starts with them is cut into. -/
theorem splitAt_join_newline {lines : List String} (h : ∀ line ∈ lines, '\n' ∉ line.toList)
    (rest : String) :
    splitAt '\n' (String.join (lines.map (· ++ "\n")) ++ rest) = lines ++ splitAt '\n' rest := by
  induction lines with
  | nil => rw [List.map_nil, String.join_nil, String.empty_append, List.nil_append]
  | cons line lines ih =>
    obtain ⟨hline, hlines⟩ := List.forall_mem_cons.1 h
    rw [List.map_cons, String.join_cons, String.append_assoc, splitAt_append_newline hline,
      ih hlines, List.cons_append]

/-- A text has one field more than separators. -/
theorem length_fields (s : List α) : (fields sep s).length = s.count sep + 1 := by
  induction s with
  | nil => rfl
  | cons c s ih =>
    rw [fields, List.count_cons]
    by_cases hc : c = sep
    · rw [if_pos hc, List.length_cons, ih, hc, beq_self_eq_true, if_pos rfl]
    · rw [if_neg hc, beq_eq_false_iff_ne.2 hc]
      cases hs : fields sep s with
      | nil => exact absurd hs (fields_ne_nil sep s)
      | cons first pieces => simpa [hs] using ih

/-- What holds no separator stands in front of the first field. -/
theorem fields_append_of_not_mem {s : List α} (h : sep ∉ s) (t : List α) :
    ∃ piece pieces, fields sep t = piece :: pieces ∧
      fields sep (s ++ t) = (s ++ piece) :: pieces := by
  induction s with
  | nil =>
    obtain ⟨piece, pieces, ht⟩ := List.exists_cons_of_ne_nil (fields_ne_nil sep t)
    exact ⟨piece, pieces, ht, ht⟩
  | cons c s ih =>
    obtain ⟨hc, hs⟩ := not_or.1 (mt List.mem_cons.2 h)
    obtain ⟨piece, pieces, ht, hst⟩ := ih hs
    refine ⟨piece, pieces, ht, ?_⟩
    rw [List.cons_append, fields, if_neg (Ne.symm hc), hst]
    rfl

/-- Characters that are told apart are cut at the same places. -/
theorem fields_map {β : Type} [DecidableEq β] {f : α → β} (hf : Function.Injective f)
    (s : List α) : fields (f sep) (s.map f) = (fields sep s).map (List.map f) := by
  induction s with
  | nil => rfl
  | cons c s ih =>
    rw [List.map_cons, fields, fields, ih]
    by_cases hc : c = sep
    · rw [if_pos hc, if_pos (congrArg f hc)]
      rfl
    · rw [if_neg hc, if_neg (hf.ne hc)]
      cases fields sep s with
      | nil => rfl
      | cons piece pieces => rfl

/-! ## Lines -/

/-- All fields but the last one are lines. -/
theorem linesOfFields_append {α : Type} (drop : List α → List α) (pieces : List (List α))
    {more : List (List α)} (h : more ≠ []) :
    linesOfFields drop (pieces ++ more) = pieces.map drop ++ linesOfFields drop more := by
  induction pieces with
  | nil => rfl
  | cons piece pieces ih =>
    have hrest : pieces ++ more ≠ [] := List.append_ne_nil_of_right_ne_nil _ h
    obtain ⟨next, rest, hnext⟩ := List.exists_cons_of_ne_nil hrest
    rw [List.cons_append, List.map_cons, List.cons_append, ← ih, hnext, linesOfFields]
    exact List.cons_ne_nil _ _

/-- A newline ends the lines before it. -/
theorem linesChars_append_cons (s t : List Char) :
    linesChars (s ++ '\n' :: t) = (fields '\n' s).map dropReturn ++ linesChars t := by
  rw [linesChars, fields_append_cons, linesOfFields_append _ _ (fields_ne_nil _ _), linesChars]

/-- What holds of a character in a line, and not of a carriage return, holds of one in the field
with the same number, and the other way round. -/
theorem exists_mem_linesChars_iff {P : Char → Prop} (hreturn : ¬ P '\r') (s : List Char) (n : Nat) :
    (∃ line ∈ (linesChars s)[n]?, ∃ c ∈ line, P c) ↔
      ∃ piece ∈ (fields '\n' s)[n]?, ∃ c ∈ piece, P c := by
  have hdrop (line : List Char) : (∃ c ∈ dropReturn line, P c) ↔ ∃ c ∈ line, P c := by
    unfold dropReturn dropEnd
    split
    · next hlast =>
      obtain ⟨before, rfl⟩ := List.getLast?_eq_some_iff.1 hlast
      simp [hreturn]
    · rfl
  unfold linesChars
  generalize fields '\n' s = pieces
  induction pieces generalizing n with
  | nil => rfl
  | cons piece pieces ih =>
    cases pieces with
    | nil =>
      -- the last field is no line if it is empty, and then there is no character in it either
      cases piece with
      | nil => cases n <;> simp [linesOfFields]
      | cons c piece => cases n <;> simp [linesOfFields]
    | cons next pieces =>
      have hlines : linesOfFields dropReturn (piece :: next :: pieces) =
          dropReturn piece :: linesOfFields dropReturn (next :: pieces) := rfl
      rw [hlines]
      cases n with
      | zero => simpa using hdrop piece
      | succ n => simpa using ih n

/-- A text that does not end with a carriage return has none to lose. -/
theorem dropReturn_eq_self {line : List Char} (h : line.getLast? ≠ some '\r') :
    dropReturn line = line :=
  if_neg h

end ChrootScan.Text
