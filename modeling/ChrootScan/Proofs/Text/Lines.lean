import ChrootScan.Proofs.Text.Fields

/-!
# The lines of a text

A line ends with a newline or with a carriage return and a newline, neither of which is part of it,
and the last line may end with the text. This says for every text what its lines are (`lined_iff`).
-/

namespace ChrootScan.Text

/-- A text and its lines. -/
inductive Lined : List Char → List (List Char) → Prop
  | nil : Lined [] []
  /-- What follows the last newline is a line, with all of its carriage returns, if it is not
  empty. -/
  | last {line : List Char} : line ≠ [] → '\n' ∉ line → Lined line [line]
  | newline {line rest : List Char} {lines : List (List Char)} : '\n' ∉ line →
      line.getLast? ≠ some '\r' → Lined rest lines → Lined (line ++ '\n' :: rest) (line :: lines)
  | returnNewline {line rest : List Char} {lines : List (List Char)} : '\n' ∉ line →
      Lined rest lines → Lined (line ++ '\r' :: '\n' :: rest) (line :: lines)

/-- A last line without a newline is a line. -/
theorem linesChars_of_not_mem {line : List Char} (hne : line ≠ []) (h : '\n' ∉ line) :
    linesChars line = [line] := by
  rw [linesChars, fields_of_not_mem h, linesOfFields, List.isEmpty_eq_false_iff.2 hne,
    if_neg Bool.false_ne_true]

/-- A newline ends a line, and a return in front of it belongs to the newline. -/
theorem linesChars_newline {line : List Char} (h : '\n' ∉ line) (rest : List Char) :
    linesChars (line ++ '\n' :: rest) = dropReturn line :: linesChars rest := by
  rw [linesChars_append_cons, fields_of_not_mem h]
  rfl

theorem dropReturn_append (line : List Char) : dropReturn (line ++ ['\r']) = line := by
  simp [dropReturn, dropEnd]

/-- What is made of lines is cut into them. -/
theorem Lined.linesChars_eq {s : List Char} {lines : List (List Char)} (h : Lined s lines) :
    linesChars s = lines := by
  induction h with
  | nil => rfl
  | last hne hline => exact linesChars_of_not_mem hne hline
  | newline hline hlast _ ih => rw [linesChars_newline hline, dropReturn_eq_self hlast, ih]
  | @returnNewline line rest _ hline _ ih =>
    have hreturn : '\n' ∉ line ++ ['\r'] := List.not_mem_append hline (by decide)
    have hcut : line ++ '\r' :: '\n' :: rest = line ++ ['\r'] ++ '\n' :: rest := by simp
    rw [hcut, linesChars_newline hreturn, dropReturn_append, ih]

/-- Every text is made of the lines that it is cut into. -/
theorem lined_linesChars (s : List Char) : Lined s (linesChars s) := by
  by_cases hmem : '\n' ∈ s
  · obtain ⟨line, rest, hs, hline⟩ := List.eq_append_cons_of_mem hmem
    have hshorter : rest.length < s.length := by
      rw [hs, List.length_append, List.length_cons]
      omega
    have ih := lined_linesChars rest
    rw [hs, linesChars_newline hline]
    by_cases hlast : line.getLast? = some '\r'
    · obtain ⟨before, rfl⟩ := List.getLast?_eq_some_iff.1 hlast
      rw [dropReturn_append, List.append_assoc]
      exact .returnNewline (fun h => hline (List.mem_append_left _ h)) ih
    · rw [dropReturn_eq_self hlast]
      exact .newline hline hlast ih
  · by_cases hne : s = []
    · rw [hne]
      exact .nil
    · rw [linesChars_of_not_mem hne hmem]
      exact .last hne hmem
termination_by s.length

/-- Every text has lines, and no others. -/
theorem lined_iff {s : List Char} {lines : List (List Char)} : Lined s lines ↔ lines = linesChars s := by
  constructor
  · intro h
    exact h.linesChars_eq.symm
  · rintro rfl
    exact lined_linesChars s

/-- Behind a text that ends with a newline, the lines of another one follow. -/
theorem linesChars_append_of_newline {s : List Char} (h : s.getLast? = some '\n') (t : List Char) :
    linesChars (s ++ t) = linesChars s ++ linesChars t := by
  obtain ⟨front, rfl⟩ := List.getLast?_eq_some_iff.1 h
  rw [List.append_assoc, List.singleton_append, linesChars_append_cons, linesChars_append_cons]
  exact congrArg (· ++ linesChars t) (List.append_nil _).symm

end ChrootScan.Text
