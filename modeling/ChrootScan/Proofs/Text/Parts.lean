import ChrootScan.Shell.Quote
import Mathlib.Data.List.Infix

/-!
# Texts inside texts

A text that is put together holds its parts, and quoting leaves a part as it is that has no
character to escape.
-/

namespace ChrootScan

namespace Text

/-- `containsChars` decides whether one list of characters stands in another. -/
theorem containsChars_iff {part s : List Char} : containsChars part s = true ↔ part <:+: s := by
  induction s with
  | nil => rw [containsChars, List.isEmpty_iff, List.infix_nil]
  | cons c rest ih =>
    rw [containsChars, Bool.or_eq_true, ih, List.isPrefixOf_iff_prefix, List.infix_cons_iff]

theorem contains_iff {part s : String} : contains part s = true ↔ part.toList <:+: s.toList :=
  containsChars_iff

/-- A part of a part is a part. -/
theorem contains_trans {s t u : String} (h : contains s t = true) (h' : contains t u = true) :
    contains s u = true :=
  contains_iff.2 ((contains_iff.1 h).trans (contains_iff.1 h'))

theorem contains_append_left (s t : String) : contains s (s ++ t) = true := by
  rw [contains_iff, String.toList_append]
  exact (List.prefix_append _ _).isInfix

theorem contains_append_right (s t : String) : contains t (s ++ t) = true := by
  rw [contains_iff, String.toList_append]
  exact (List.suffix_append _ _).isInfix

/-- Every piece is a part of what the pieces are joined to. -/
theorem infix_joinChars {sep piece : List Char} {pieces : List (List Char)}
    (h : piece ∈ pieces) : piece <:+: joinChars sep pieces := by
  induction pieces with
  | nil => cases h
  | cons first rest ih =>
    rcases rest with _ | ⟨second, rest⟩
    · rw [List.mem_singleton.1 h]
      exact List.infix_rfl
    · rw [joinChars, List.append_assoc]
      · obtain rfl | hrest := List.mem_cons.1 h
        · exact (List.prefix_append _ _).isInfix
        · have hsuffix := (List.suffix_append sep (joinChars sep (second :: rest))).trans
            (List.suffix_append first _)
          exact (ih hrest).trans hsuffix.isInfix
      · exact List.cons_ne_nil _ _

/-- A joined text holds its pieces. -/
theorem contains_join (sep : String) {piece : String} {pieces : List String}
    (h : piece ∈ pieces) : contains piece (join sep pieces) = true := by
  rw [contains_iff, join, String.toList_ofList]
  exact infix_joinChars (List.mem_map_of_mem h)

/-- What follows a lead is the rest of the text behind it. -/
theorem afterLead?_eq_some_iff {lead s rest : String} :
    afterLead? lead s = some rest ↔ s = lead ++ rest := by
  rw [afterLead?, Option.map_eq_some_iff]
  constructor
  · rintro ⟨cs, hcs, rfl⟩
    rw [List.isPrefixOf?_eq_some_iff_append_eq] at hcs
    rw [← String.toList_inj, String.toList_append, String.toList_ofList, hcs]
  · rintro rfl
    refine ⟨rest.toList, ?_, String.ofList_toList⟩
    rw [List.isPrefixOf?_eq_some_iff_append_eq, String.toList_append]

/-- What comes before a tail is the text without it. -/
theorem beforeTail?_eq_some_iff {tail s stem : String} :
    beforeTail? tail s = some stem ↔ s = stem ++ tail := by
  rw [beforeTail?, Option.map_eq_some_iff]
  constructor
  · rintro ⟨cs, hcs, rfl⟩
    rw [List.isSuffixOf?_eq_some_iff_append_eq] at hcs
    rw [← String.toList_inj, String.toList_append, String.toList_ofList, hcs]
  · rintro rfl
    refine ⟨stem.toList, ?_, String.ofList_toList⟩
    rw [List.isSuffixOf?_eq_some_iff_append_eq, String.toList_append]

end Text

namespace Shell

/-- Quoting leaves a part alone that has nothing to escape. -/
theorem contains_quote {part s : String} (hplain : part.toList.any needsEscape = false)
    (h : Text.contains part s = true) : Text.contains part (quote s) = true := by
  rw [Text.contains_iff] at h ⊢
  have hpart : part.toList.flatMap escapeChar = part.toList := by
    have hbare : ∀ c ∈ part.toList, escapeChar c = [c] := by
      intro c hc
      rw [escapeChar, if_neg (List.any_eq_false.1 hplain c hc)]
    rw [List.flatMap_congr hbare, List.flatMap_singleton']
  have hescaped : part.toList <:+: s.toList.flatMap escapeChar := by
    have := h.flatMap escapeChar
    rwa [hpart] at this
  rw [quote, String.toList_ofList, quoteChars]
  exact hescaped.trans ⟨['"'], ['"'], rfl⟩

end Shell
end ChrootScan
