import ChrootScan.Proofs.Text.Fields

/-!
# Texts made of paragraphs

A paragraph is a text whose lines end with newlines, the last line being empty. A text that is put
together from paragraphs can be cut into as many paragraphs in one way only, if none of these has an
empty line inside (`eq_of_join_paragraphs`).
-/

namespace ChrootScan.Text

/-! ## Ends of fields -/

section
variable {α : Type} [DecidableEq α] {sep : α}

/-- A list that ends with a separator can be cut apart from what follows it. -/
theorem fields_append_of_ended {s : List α} {front : List (List α)}
    (h : fields sep s = front ++ [[]]) (t : List α) :
    fields sep (s ++ t) = front ++ fields sep t := by
  induction s generalizing front with
  | nil =>
    obtain rfl : front = [] := List.append_left_eq_self.1 h.symm
    rfl
  | cons c s ih =>
    -- the first character begins a field of its own or belongs to the first one of the rest
    obtain ⟨piece, pieces, hs⟩ := List.exists_cons_of_ne_nil (fields_ne_nil sep s)
    rw [List.cons_append, fields]
    by_cases hc : c = sep
    · rw [fields, if_pos hc] at h
      rw [if_pos hc]
      obtain ⟨rfl, -⟩ | ⟨front, rfl, hfront⟩ := List.cons_eq_append_iff.1 h
      · rw [hs] at h
        cases h
      · rw [ih hfront, List.cons_append]
    · rw [fields, if_neg hc, hs] at h
      rw [if_neg hc]
      obtain ⟨rfl, hpiece⟩ | ⟨front, rfl, hfront⟩ := List.cons_eq_append_iff.1 h
      · cases hpiece
      · have hs : fields sep s = (piece :: front) ++ [[]] := by rw [hs, hfront, List.cons_append]
        rw [ih hs]
        rfl

/-- Pieces that are ended are cut where their own separators are and where they end. -/
theorem fields_flatMap_concat (pieces : List (List α)) :
    fields sep (pieces.flatMap (· ++ [sep])) = pieces.flatMap (fields sep) ++ [[]] := by
  induction pieces with
  | nil => rfl
  | cons piece pieces ih =>
    rw [List.flatMap_cons, List.flatMap_cons, List.append_assoc, List.append_assoc,
      List.singleton_append, fields_append_cons, ih]

/-- Pieces that are as many as all their fields are these fields. -/
theorem eq_of_flatMap_fields_eq {pieces all : List (List α)} (hlength : pieces.length = all.length)
    (h : pieces.flatMap (fields sep) = all) : pieces = all := by
  have hsum : (pieces.map fun piece => piece.count sep + 1).sum = pieces.length := by
    rw [hlength, ← h, List.length_flatMap]
    congr 2
    funext piece
    exact (length_fields piece).symm
  have hnone : ∀ piece ∈ pieces, sep ∉ piece := by
    intro piece hpiece
    rw [List.sum_map_add] at hsum
    simp only [List.map_const', List.sum_replicate, smul_eq_mul, mul_one, Nat.add_eq_right] at hsum
    exact List.count_eq_zero.1 (List.sum_eq_zero_iff.1 hsum _ (List.mem_map_of_mem hpiece))
  rw [← h, List.flatMap_congr fun piece hpiece => fields_of_not_mem (hnone piece hpiece)]
  exact (List.flatMap_singleton' pieces).symm

/-- Pieces that are ended make the same list as pieces without separators, as many of them, only if
they are these pieces. -/
theorem eq_of_flatMap_concat_eq {pieces all : List (List α)} (hlength : pieces.length = all.length)
    (hall : ∀ piece ∈ all, sep ∉ piece)
    (h : pieces.flatMap (· ++ [sep]) = all.flatMap (· ++ [sep])) : pieces = all := by
  have hfields := congrArg (fields sep) h
  rw [fields_flatMap_concat, fields_flatMap_concat, List.append_left_inj,
    List.flatMap_congr (l := all) fun piece hpiece => fields_of_not_mem (hall piece hpiece),
    List.flatMap_singleton' all] at hfields
  exact eq_of_flatMap_fields_eq hlength hfields

end

theorem splitAt_ne_nil (c : Char) (s : String) : splitAt c s ≠ [] :=
  mt List.map_eq_nil_iff.1 (fields_ne_nil c s.toList)

theorem splitAt_injective (c : Char) : Function.Injective (splitAt c) := by
  intro s t h
  have hfields : fields c s.toList = fields c t.toList :=
    List.map_injective_iff.2 (fun _ _ => String.ofList_injective) h
  rw [← String.toList_inj, ← joinChars_fields c s.toList, hfields, joinChars_fields]

/-- A text that ends with a newline is cut at its end. -/
theorem splitAt_append_of_ended {c : Char} {s : String} {front : List String}
    (h : splitAt c s = front ++ [""]) (t : String) :
    splitAt c (s ++ t) = front ++ splitAt c t := by
  obtain ⟨pieces, last, hs, rfl, hlast⟩ := List.map_eq_append_iff.1 h
  obtain ⟨piece, rfl, hpiece⟩ := List.map_eq_singleton_iff.1 hlast
  obtain rfl : piece = [] := by simpa using hpiece
  rw [splitAt, String.toList_append, fields_append_of_ended hs, List.map_append]
  rfl

/-! ## Paragraphs -/

/-- A text is a paragraph of these lines: a newline ends each of them, and an empty line the whole. -/
def IsParagraph (s : String) (lines : List String) : Prop :=
  splitAt '\n' s = lines ++ ["", ""]

/-- The lines of a paragraph. -/
def paragraphLines (s : String) : List String :=
  (splitAt '\n' s).dropLast.dropLast

theorem IsParagraph.paragraphLines_eq {s : String} {lines : List String} (h : IsParagraph s lines) :
    paragraphLines s = lines := by
  rw [paragraphLines, h, List.append_cons lines "" [""], List.dropLast_concat, List.dropLast_concat]

theorem isParagraph_paragraphLines {s : String} (h : ∃ lines, IsParagraph s lines) :
    IsParagraph s (paragraphLines s) := by
  obtain ⟨lines, hlines⟩ := h
  rwa [hlines.paragraphLines_eq]

/-- Paragraphs one behind the other are cut into their lines, with an empty line behind each. -/
theorem splitAt_join_paragraphs {texts : List String} (h : ∀ s ∈ texts, ∃ lines, IsParagraph s lines) :
    splitAt '\n' (String.join texts) = (texts.map paragraphLines).flatMap (· ++ [""]) ++ [""] := by
  induction texts with
  | nil => rfl
  | cons s texts ih =>
    obtain ⟨hs, htexts⟩ := List.forall_mem_cons.1 h
    have hended : splitAt '\n' s = (paragraphLines s ++ [""]) ++ [""] := by
      rw [isParagraph_paragraphLines hs]
      exact (List.append_assoc _ [""] [""]).symm
    rw [String.join_cons, splitAt_append_of_ended hended, ih htexts, List.map_cons,
      List.flatMap_cons]
    exact (List.append_assoc _ _ _).symm

/-- Paragraphs that make the same text as others without empty lines, as many of them, are these. -/
theorem eq_of_join_paragraphs {texts all : List String} (hlength : texts.length = all.length)
    (htexts : ∀ s ∈ texts, ∃ lines, IsParagraph s lines)
    (hall : ∀ s ∈ all, ∃ lines, IsParagraph s lines ∧ "" ∉ lines)
    (h : String.join texts = String.join all) : texts = all := by
  have hparagraphs : ∀ s ∈ all, ∃ lines, IsParagraph s lines := fun s hs =>
    (hall s hs).imp fun _ hlines => hlines.1
  have hfull : ∀ lines ∈ all.map paragraphLines, "" ∉ lines := by
    rintro _ hlines
    obtain ⟨s, hs, rfl⟩ := List.mem_map.1 hlines
    obtain ⟨lines, hparagraph, hnone⟩ := hall s hs
    rwa [hparagraph.paragraphLines_eq]
  -- the lines of both are the same, and those of full paragraphs have no empty one to confuse
  have hlines : texts.map paragraphLines = all.map paragraphLines := by
    have hcut := congrArg (splitAt '\n') h
    rw [splitAt_join_paragraphs htexts, splitAt_join_paragraphs hparagraphs,
      List.append_left_inj] at hcut
    exact eq_of_flatMap_concat_eq (by rw [List.length_map, List.length_map, hlength]) hfull hcut
  have hsplit {list : List String} (hlist : ∀ s ∈ list, ∃ lines, IsParagraph s lines) :
      list.map (splitAt '\n') = (list.map paragraphLines).map (· ++ ["", ""]) := by
    rw [List.map_map]
    exact List.map_congr_left fun s hs => isParagraph_paragraphLines (hlist s hs)
  apply List.map_injective_iff.2 (splitAt_injective '\n')
  rw [hsplit htexts, hsplit hparagraphs, hlines]

end ChrootScan.Text
