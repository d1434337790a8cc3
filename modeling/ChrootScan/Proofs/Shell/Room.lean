import ChrootScan.Proofs.Shell.Pieces

/-!
# The room that words take up

A line is at least as long as its words: each character of a word stands on it, and each word but the
last has a blank behind it. Apostrophes are left out of the count. They are not part of a word unless
something else quotes them, a backslash or a double quote, and that takes up room on the line and none
in the word; so the words of a line that has just the room for them hold no apostrophe
(`weigh_of_splitChars`).
-/

namespace ChrootScan.Shell

/-- How many characters other than apostrophes there are. -/
def bulk (s : List Char) : Nat :=
  s.countP (· ≠ '\'')

/-- The room that words take up, each with a blank. -/
def weigh (words : List (List Char)) : Nat :=
  (words.map fun word => bulk word + 1).sum

@[simp] theorem bulk_nil : bulk [] = 0 := rfl

@[simp] theorem bulk_append (s t : List Char) : bulk (s ++ t) = bulk s + bulk t :=
  List.countP_append

@[simp] theorem bulk_apostrophe : bulk ['\''] = 0 := rfl

theorem bulk_singleton {c : Char} (hc : c ≠ '\'') : bulk [c] = 1 := by
  simp [bulk, hc]

theorem bulk_cons (c : Char) (s : List Char) : bulk (c :: s) = bulk [c] + bulk s :=
  bulk_append [c] s

@[simp] theorem weigh_append (words more : List (List Char)) :
    weigh (words ++ more) = weigh words + weigh more := by
  rw [weigh, List.map_append, List.sum_append, weigh, weigh]

@[simp] theorem weigh_singleton (word : List Char) : weigh [word] = bulk word + 1 := rfl

/-- How many characters opened the double quotes and the escape that are being read. They are part of
no word. -/
def Mode.opening : Mode → Nat
  | .bare | .single => 0
  | .escaped | .double => 1
  | .doubleEscaped => 2

namespace Reader

variable {r : Reader} {n : Nat}

/-- The room that is taken up by what was read. -/
def weight (r : Reader) : Nat :=
  weigh r.done + bulk (r.word.getD [])

/-- An apostrophe is part of a word. -/
def HasApostrophe (r : Reader) : Prop :=
  '\'' ∈ r.word.getD [] ∨ ∃ word ∈ r.done, '\'' ∈ word

/-- There are `n` characters for the words, and for what quotes an apostrophe in one of them. -/
structure Fits (r : Reader) (n : Nat) : Prop where
  opening : r.weight + r.mode.opening ≤ n
  apostrophe : r.HasApostrophe → r.weight + 1 ≤ n

/-- What is added to a word takes up its own room. -/
theorem weight_push (cs : List Char) (mode : Mode) :
    (r.push cs mode).weight = r.weight + bulk cs := by
  simp [weight, push, Nat.add_assoc]

/-- What is added to the word fits if it takes up no more room than was read. If it has an
apostrophe, there is something besides that opened the quotes. -/
theorem Fits.push (h : r.Fits n) {before : Mode} (hr : r.mode = before) {cs : List Char}
    {mode : Mode} {k : Nat} (hmode : bulk cs + mode.opening ≤ before.opening + k)
    (hapos : bulk cs + 1 ≤ before.opening + k ∨ '\'' ∉ cs ∧ bulk cs ≤ k) :
    (r.push cs mode).Fits (n + k) := by
  have hopening := h.opening
  rw [hr] at hopening
  refine ⟨?_, fun hhas => ?_⟩
  · rw [weight_push, mode_push]
    omega
  · rw [weight_push]
    rcases hapos with hroom | ⟨hnone, hroom⟩
    · omega
    · have hbefore : r.HasApostrophe := by
        simpa [HasApostrophe, Reader.push, hnone] using hhas
      have hroom' := h.apostrophe hbefore
      omega

/-- The blank behind a word has room of its own. -/
theorem Fits.endWord (h : r.Fits n) : r.endWord.Fits (n + 1) := by
  obtain ⟨mode, word, done⟩ := r
  have hopening : weight ⟨mode, word, done⟩ + mode.opening ≤ n := h.opening
  cases word with
  | none =>
    refine ⟨Nat.le_succ_of_le hopening, fun hhas => ?_⟩
    exact Nat.le_succ_of_le (h.apostrophe hhas)
  | some word =>
    have hweight : (endWord ⟨mode, some word, done⟩).weight =
        weight ⟨mode, some word, done⟩ + 1 := by
      simp [endWord, weight, Nat.add_assoc]
    have hmode : (endWord ⟨mode, some word, done⟩).mode = mode := rfl
    refine ⟨?_, fun hhas => ?_⟩
    · rw [hweight, hmode]
      omega
    · have hbefore : HasApostrophe ⟨mode, some word, done⟩ := by
        simpa [HasApostrophe, Reader.endWord, or_comm, or_and_right, exists_or] using hhas
      have hroom := h.apostrophe hbefore
      omega

/-- Every character but an apostrophe makes room for one. -/
theorem Fits.step (h : r.Fits n) (c : Char) : (r.step c).Fits (n + bulk [c]) := by
  -- a character that opens quotes or an escape takes up room itself, but is part of no word; one
  -- that is part of a word takes up its own
  unfold Reader.step
  cases hr : r.mode with
  | bare =>
    dsimp only
    split_ifs with happos hquote hbackslash hblank
    · subst happos
      exact h.push hr (by simp [Mode.opening]) (.inr (by simp))
    · subst hquote
      exact h.push hr (by decide) (.inr (by simp))
    · subst hbackslash
      exact h.push hr (by decide) (.inr (by simp))
    · rw [bulk_singleton happos]
      exact h.endWord
    · exact h.push hr (by simp [Mode.opening]) (.inr (by simpa using Ne.symm happos))
  | escaped =>
    dsimp only
    split_ifs with hc
    · exact h.push hr (by simp [Mode.opening]) (.inr (by simp))
    · exact h.push hr (by simp [Mode.opening]) (.inl (by simp [Mode.opening, Nat.add_comm]))
  | single =>
    dsimp only
    split_ifs with happos
    · subst happos
      exact h.push hr (by simp [Mode.opening]) (.inr (by simp))
    · exact h.push hr (by simp [Mode.opening]) (.inr (by simpa using Ne.symm happos))
  | double =>
    dsimp only
    split_ifs with hquote hbackslash
    · exact h.push hr (by simp [Mode.opening]) (.inr (by simp))
    · subst hbackslash
      exact h.push hr (by decide) (.inr (by simp))
    · exact h.push hr (by simp [Mode.opening, Nat.add_comm])
        (.inl (by simp [Mode.opening, Nat.add_comm]))
  | doubleEscaped =>
    dsimp only
    have hkept : bulk ['\\', c] = 1 + bulk [c] := bulk_cons '\\' [c]
    split_ifs with hescapable hc
    · exact h.push hr (by simp only [Mode.opening]; omega)
        (.inl (by simp only [Mode.opening]; omega))
    · exact h.push hr (by simp only [Mode.opening, bulk_nil]; omega) (.inr (by simp))
    · exact h.push hr (by simp only [Mode.opening]; omega)
        (.inl (by simp only [Mode.opening]; omega))

/-- What is read fits into the room of the characters that it is read from. -/
theorem Fits.foldl (h : r.Fits n) (s : List Char) : (s.foldl Reader.step r).Fits (n + bulk s) := by
  induction s generalizing r n with
  | nil => exact h
  | cons c s ih =>
    rw [List.foldl_cons, bulk_cons, ← Nat.add_assoc]
    exact ih (h.step c)

end Reader

/-- A line has room for its words and for the blanks between them, and if an apostrophe is part of a
word, for something that quotes it. -/
theorem weigh_of_splitChars {s : List Char} {words : List (List Char)}
    (h : splitChars s = .ok words) :
    weigh words ≤ bulk s + 1 ∧ ((∃ word ∈ words, '\'' ∈ word) → weigh words ≤ bulk s) := by
  obtain ⟨-, hwords⟩ := Reader.of_finish_eq_ok h
  have hstart : Reader.Fits {} 0 := ⟨le_rfl, fun hhas => by simp [Reader.HasApostrophe] at hhas⟩
  have hfits := hstart.foldl s
  rw [Nat.zero_add] at hfits
  -- the end of the line ends the last word, as a blank would
  have hend := hfits.endWord
  have hweight : (s.foldl Reader.step {}).endWord.weight = weigh words := by
    rw [Reader.weight, Reader.word_endWord, hwords]
    rfl
  constructor
  · have hopening := hend.opening
    omega
  · intro hmem
    have happos := hend.apostrophe (.inr (by rwa [hwords]))
    omega

end ChrootScan.Shell
