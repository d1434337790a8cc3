import ChrootScan.Proofs.Text.Cuts
import ChrootScan.Text.Blank
import ChrootScan.Text.Digit

/-!
# Blanks, and what they are not

No digit is a blank (`isBlank_eq_false_of_isDigit`), and a text is its own trimmed form when neither
of its ends is one (`trimChars_eq_self`).
-/

namespace ChrootScan.Text

/-! ## Digits -/

/-- The white space of Unicode, as ranges. -/
def blankRanges : List (Nat × Nat) :=
  [(0x09, 0x0D), (0x20, 0x20), (0x85, 0x85), (0xA0, 0xA0), (0x1680, 0x1680), (0x2000, 0x200A),
    (0x2028, 0x2029), (0x202F, 0x202F), (0x205F, 0x205F), (0x3000, 0x3000)]

theorem isBlank_eq_inRanges (c : Char) : isBlank c = inRanges blankRanges c.toNat := by
  rw [Bool.eq_iff_iff]
  simp only [isBlank, inRanges, blankRanges, List.any_cons, List.any_nil, Bool.or_eq_true,
    Bool.and_eq_true, decide_eq_true_eq, beq_iff_eq, Bool.false_eq_true, or_false]
  omega

theorem isBlank_eq_false_of_isDigit {c : Char} (h : isDigit c = true) : isBlank c = false := by
  have hapart : ∀ d ∈ digitRanges, ∀ b ∈ blankRanges, d.2 < b.1 ∨ b.2 < d.1 := by decide
  rw [isDigit, inRanges, List.any_eq_true] at h
  rw [isBlank_eq_inRanges, inRanges, List.any_eq_false]
  obtain ⟨d, hd, hdigit⟩ := h
  intro b hb hblank
  have := hapart d hd b hb
  simp only [Bool.and_eq_true, decide_eq_true_eq] at hdigit hblank
  omega

/-- The digits of ASCII are digits. -/
theorem isDigit_of_toNat {c : Char} (hlow : 0x30 ≤ c.toNat) (hhigh : c.toNat ≤ 0x39) :
    isDigit c = true := by
  rw [isDigit, inRanges, List.any_eq_true]
  refine ⟨(0x30, 0x39), by decide, ?_⟩
  rw [Bool.and_eq_true, decide_eq_true_eq, decide_eq_true_eq]
  exact ⟨hlow, hhigh⟩

/-! ## Trimmed texts -/

/-- A text without blanks at its ends has none to cut off. -/
theorem trimChars_eq_self {s : List Char} (hhead : ∀ c ∈ s.head?, isBlank c = false)
    (hlast : ∀ c ∈ s.getLast?, isBlank c = false) : trimChars s = s := by
  rw [← List.head?_reverse] at hlast
  rw [trimChars, trimStartChars, dropWhile_eq_self hhead, trimEndChars, dropWhile_eq_self hlast,
    List.reverse_reverse]

theorem trim_eq_self {s : String} (h : ∀ c ∈ s.toList, isBlank c = false) : trim s = s := by
  have hhead : ∀ c ∈ s.toList.head?, isBlank c = false := fun c hc =>
    h c (List.mem_of_mem_head? hc)
  have hlast : ∀ c ∈ s.toList.getLast?, isBlank c = false := fun c hc =>
    h c (List.mem_of_getLast? hc)
  rw [trim, trimChars_eq_self hhead hlast, String.ofList_toList]

/-- A trimmed text does not end with a blank. -/
theorem getLast?_trim_ne {c : Char} (hc : isBlank c = true) (s : String) :
    (trim s).toList.getLast? ≠ some c := by
  have hlast := List.head?_dropWhile_not isBlank (trimStartChars s.toList).reverse
  rw [trim, String.toList_ofList, trimChars, trimEndChars, List.getLast?_reverse]
  intro hend
  rw [hend] at hlast
  exact absurd hc (Bool.eq_false_iff.1 hlast)

end ChrootScan.Text
