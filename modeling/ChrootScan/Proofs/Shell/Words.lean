import ChrootScan.Shell.Command
import ChrootScan.Shell.Words
import Mathlib

/-!
# Splitting undoes quoting

A command line of quoted words is split into these words again. What stands for a word, wherever it
begins outside quotes, appends the word to what was read so far and leaves the reader outside quotes
(`Spells`); the blank behind it then ends the word. Both quotings spell their words, so it makes no
difference which of them wrote a command line.
-/

namespace ChrootScan.Shell

namespace Reader

/-! ## Steps of the reader -/

variable {r : Reader}

@[simp] theorem mode_push (r : Reader) (cs : List Char) (mode : Mode) :
    (r.push cs mode).mode = mode := rfl

@[simp] theorem push_push (r : Reader) (cs cs' : List Char) (mode mode' : Mode) :
    (r.push cs mode).push cs' mode' = r.push (cs ++ cs') mode' := by
  simp only [push, Option.getD_some, List.append_assoc]

/-- Outside quotes, a character without a meaning of its own belongs to the word. -/
theorem step_bare (hr : r.mode = .bare) {c : Char} (happos : c ≠ '\'') (hquote : c ≠ '"')
    (hbackslash : c ≠ '\\') (hblank : Text.isBlank c = false) : r.step c = r.push [c] .bare := by
  rw [step, hr]
  dsimp only
  rw [if_neg happos, if_neg hquote, if_neg hbackslash, hblank]
  exact if_neg Bool.false_ne_true

theorem step_double (hr : r.mode = .double) {c : Char} (hquote : c ≠ '"') (hbackslash : c ≠ '\\') :
    r.step c = r.push [c] .double := by
  rw [step, hr]
  dsimp only
  rw [if_neg hquote, if_neg hbackslash]

theorem step_single (hr : r.mode = .single) {c : Char} (happos : c ≠ '\'') :
    r.step c = r.push [c] .single := by
  rw [step, hr]
  exact if_neg happos

theorem step_doubleEscaped (hr : r.mode = .doubleEscaped) {c : Char} (hc : isEscapable c = true) :
    r.step c = r.push [c] .double := by
  rw [step, hr]
  exact if_pos hc

/-- A quotation mark outside quotes opens quotes, and begins a word even if nothing follows. -/
theorem step_open_double (hr : r.mode = .bare) : r.step '"' = r.push [] .double := by
  rw [step, hr]
  rfl

theorem step_open_single (hr : r.mode = .bare) : r.step '\'' = r.push [] .single := by
  rw [step, hr]
  rfl

theorem step_close_double (hr : r.mode = .double) : r.step '"' = r.push [] .bare := by
  rw [step, hr]
  rfl

theorem step_close_single (hr : r.mode = .single) : r.step '\'' = r.push [] .bare := by
  rw [step, hr]
  rfl

theorem step_backslash (hr : r.mode = .double) : r.step '\\' = r.push [] .doubleEscaped := by
  rw [step, hr]
  rfl

/-- A space outside quotes ends the word. -/
theorem step_space (hr : r.mode = .bare) : r.step ' ' = r.endWord := by
  rw [step, hr]
  rfl

/-! ## Words -/

/-- If each character of a word is written so that it is read back, so is the word. -/
theorem foldl_flatMap {write : Char → List Char} {mode : Mode} {s : List Char}
    (hwrite : ∀ c ∈ s, ∀ r : Reader, r.mode = mode → (write c).foldl step r = r.push [c] mode)
    (r : Reader) (cs : List Char) :
    (s.flatMap write).foldl step (r.push cs mode) = r.push (cs ++ s) mode := by
  induction s generalizing cs with
  | nil => rw [List.append_nil]; rfl
  | cons c s ih =>
    obtain ⟨hc, hs⟩ := List.forall_mem_cons.1 hwrite
    rw [List.flatMap_cons, List.foldl_append, hc _ (mode_push r cs mode), push_push, ih hs,
      List.append_assoc, List.singleton_append]

/-- An escape between double quotes is read as the character that it stands for. -/
theorem foldl_escapeChar (c : Char) (hr : r.mode = .double) :
    (escapeChar c).foldl step r = r.push [c] .double := by
  rw [escapeChar]
  by_cases hc : needsEscape c = true
  · have hescapable : isEscapable c = true := by
      simp only [needsEscape, isEscapable, Bool.or_eq_true] at hc ⊢
      tauto
    rw [if_pos hc, List.foldl_cons, List.foldl_cons, List.foldl_nil, step_backslash hr,
      step_doubleEscaped (mode_push _ _ _) hescapable, push_push, List.nil_append]
  · rw [if_neg hc, List.foldl_cons, List.foldl_nil]
    simp only [needsEscape, Bool.or_eq_true, beq_iff_eq, not_or] at hc
    exact step_double hr hc.1.2 hc.1.1

/-- An apostrophe leaves the quotes, is read between double quotes, and enters the quotes again. -/
theorem foldl_spliceChar (c : Char) (hr : r.mode = .single) :
    (spliceChar c).foldl step r = r.push [c] .single := by
  rw [spliceChar]
  by_cases hc : c = '\''
  · rw [if_pos hc]
    simp only [List.foldl_cons, List.foldl_nil]
    rw [step_close_single hr, step_open_double (mode_push _ _ _),
      step_double (mode_push _ _ _) (by decide) (by decide), step_close_double (mode_push _ _ _),
      step_open_single (mode_push _ _ _)]
    simp only [push_push, hc]
    rfl
  · rw [if_neg hc, List.foldl_cons, List.foldl_nil]
    exact step_single hr hc

/-- Plain characters lie above the space and below what Unicode adds to the blanks. -/
theorem toNat_of_isPlain {c : Char} (hc : isPlain c = true) : 0x20 < c.toNat ∧ c.toNat < 0x85 := by
  rw [isPlain, Bool.or_eq_true] at hc
  rcases hc with hc | hc
  · simp only [Char.isAlphanum, Char.isAlpha, Char.isUpper, Char.isLower, Char.isDigit,
      Bool.or_eq_true, Bool.and_eq_true, decide_eq_true_eq, ge_iff_le, UInt32.le_iff_toNat_le] at hc
    simp only [Char.toNat_val, Char.reduceVal, UInt32.reduceToNat] at hc
    omega
  · have hall : "@%+=:,./-_".toList.all (fun d => 0x20 < d.toNat && d.toNat < 0x85) = true := by
      decide
    have hbounds := List.all_eq_true.1 hall c (List.contains_iff_mem.1 hc)
    rw [Bool.and_eq_true, decide_eq_true_eq, decide_eq_true_eq] at hbounds
    exact hbounds

/-- A plain character means nothing to the reader. -/
theorem step_plain {c : Char} (hc : isPlain c = true) (hr : r.mode = .bare) :
    r.step c = r.push [c] .bare := by
  have hne {d : Char} (hd : isPlain d = false) : c ≠ d := by
    rintro rfl
    rw [hc] at hd
    cases hd
  have hblank : Text.isBlank c = false := by
    obtain ⟨hlow, hhigh⟩ := toNat_of_isPlain hc
    simp only [Text.isBlank, Bool.or_eq_false_iff, Bool.and_eq_false_iff, decide_eq_false_iff_not,
      beq_eq_false_iff_ne]
    omega
  exact step_bare hr (hne (by decide)) (hne (by decide)) (hne (by decide)) hblank

end Reader

/-- Characters that a reader outside quotes takes for one word, or for more of the word begun. -/
def Spells (cs word : List Char) : Prop :=
  ∀ r : Reader, r.mode = .bare → cs.foldl Reader.step r = r.push word .bare

/-- A word between double quotes spells itself. -/
theorem spells_quoteChars (word : List Char) : Spells (quoteChars word) word := by
  intro r hr
  have hinside := Reader.foldl_flatMap (s := word) (fun c _ _ => Reader.foldl_escapeChar c) r []
  rw [quoteChars, List.cons_append, List.foldl_cons, List.foldl_append, Reader.step_open_double hr,
    hinside, List.foldl_cons, List.foldl_nil, Reader.step_close_double (Reader.mode_push _ _ _),
    Reader.push_push, List.nil_append, List.append_nil]

/-- Characters that mean nothing to the reader spell themselves. The first of them begins the word,
so there has to be one. -/
theorem spells_bare {word : List Char} (hne : word ≠ [])
    (hbare : ∀ c ∈ word, ∀ r : Reader, r.mode = .bare → r.step c = r.push [c] .bare) :
    Spells word word := by
  intro r hr
  obtain ⟨c, rest, rfl⟩ := List.exists_cons_of_ne_nil hne
  obtain ⟨hc, hrest⟩ := List.forall_mem_cons.1 hbare
  have hone : ∀ d ∈ rest, ∀ r : Reader, r.mode = .bare →
      [d].foldl Reader.step r = r.push [d] .bare :=
    hrest
  have hread := Reader.foldl_flatMap hone r [c]
  rw [List.flatMap_singleton'] at hread
  rw [List.foldl_cons, hc r hr, hread, List.singleton_append]

/-- A word between apostrophes spells itself, with those in it spliced. -/
theorem spells_singleQuoteChars (word : List Char) : Spells (singleQuoteChars word) word := by
  rw [singleQuoteChars]
  split
  · next hplain =>
    rw [Bool.and_eq_true, Bool.not_eq_true', List.all_eq_true] at hplain
    obtain ⟨hne, hplain⟩ := hplain
    exact spells_bare (by simpa using hne) fun c hc _ => Reader.step_plain (hplain c hc)
  · intro r hr
    have hinside := Reader.foldl_flatMap (s := word) (fun c _ _ => Reader.foldl_spliceChar c) r []
    rw [List.cons_append, List.foldl_cons, List.foldl_append, Reader.step_open_single hr, hinside,
      List.foldl_cons, List.foldl_nil, Reader.step_close_single (Reader.mode_push _ _ _),
      Reader.push_push, List.nil_append, List.append_nil]

/-! ## Command lines -/

/-- From between two words on, the pieces of a line add the words that they spell. -/
theorem finish_foldl_joinChars {pieces words : List (List Char)}
    (h : List.Forall₂ Spells pieces words) (done : List (List Char)) :
    ((Text.joinChars [' '] pieces).foldl Reader.step { done := done }).finish =
      .ok (done ++ words) := by
  induction h generalizing done with
  | nil => rw [List.append_nil]; rfl
  | @cons piece word pieces words hword hrest ih =>
    have hread := hword { done := done } rfl
    have hend : (Reader.push { done := done } word .bare).endWord =
        { done := done ++ [word] } := rfl
    rcases pieces with _ | ⟨next, pieces⟩
    · cases hrest
      rw [Text.joinChars, hread]
      rfl
    · -- the space behind a piece ends its word, and the rest is read from there
      rw [Text.joinChars, List.append_assoc, List.foldl_append, hread, List.singleton_append,
        List.foldl_cons, Reader.step_space (Reader.mode_push _ _ _), hend, ih, List.append_assoc,
        List.singleton_append]
      exact List.cons_ne_nil _ _

/-- A line of pieces that spell words is split into these words. -/
theorem split_pieces {pieces words : List String}
    (h : List.Forall₂ (fun piece word => Spells piece.toList word.toList) pieces words) :
    split (Text.join " " pieces) = .ok words := by
  have hspells : List.Forall₂ Spells (pieces.map String.toList) (words.map String.toList) := by
    rwa [List.forall₂_map_left_iff, List.forall₂_map_right_iff]
  have hchars : splitChars (Text.join " " pieces).toList = .ok (words.map String.toList) := by
    rw [splitChars, Text.join, String.toList_ofList]
    exact finish_foldl_joinChars hspells []
  rw [split, hchars]
  simp only [Except.map, List.map_map, Function.comp_def, String.ofList_toList, List.map_id']

/-- A line of words, each written so that it spells the word, is split into these words. -/
theorem split_join {write : String → String}
    (hwrite : ∀ word, Spells (write word).toList word.toList) (words : List String) :
    split (Text.join " " (words.map write)) = .ok words := by
  apply split_pieces
  rw [List.forall₂_map_left_iff]
  exact List.forall₂_same.2 fun word _ => hwrite word

theorem spells_quote (word : String) : Spells (quote word).toList word.toList := by
  rw [quote, String.toList_ofList]
  exact spells_quoteChars word.toList

theorem spells_singleQuote (word : String) : Spells (singleQuote word).toList word.toList := by
  rw [singleQuote, String.toList_ofList]
  exact spells_singleQuoteChars word.toList

/-- Between apostrophes, a text without one spells itself. -/
theorem spells_wrapSingle {word : String} (h : '\'' ∉ word.toList) :
    Spells (wrapSingle word).toList word.toList := by
  intro r hr
  have hone : ∀ c ∈ word.toList, ∀ r : Reader, r.mode = .single →
      [c].foldl Reader.step r = r.push [c] .single := by
    intro c hc r hr
    exact Reader.step_single hr fun heq => h (heq ▸ hc)
  have hinside := Reader.foldl_flatMap hone r []
  rw [List.flatMap_singleton'] at hinside
  have hwrapped : (wrapSingle word).toList = '\'' :: (word.toList ++ ['\'']) := by
    simp [wrapSingle]
  rw [hwrapped, List.foldl_cons, List.foldl_append, Reader.step_open_single hr, hinside,
    List.foldl_cons, List.foldl_nil, Reader.step_close_single (Reader.mode_push _ _ _),
    Reader.push_push, List.nil_append, List.append_nil]

/-- Splitting undoes both ways of quoting the words of a command line, and so a command that is
echoed can be read back from the log: the words of a call one by one, and the text for a shell as
one word. -/
theorem split_quoted_words (words : List String) (text : String) :
    split (commandLine .escaped words) = .ok words ∧
      split (Text.join " " (words.map singleQuote)) = .ok words ∧
      split (Command.argv words).display = .ok words ∧
      split (Command.shell text).display = .ok [text] := by
  have hescaped (words : List String) : split (commandLine .escaped words) = .ok words :=
    split_join spells_quote words
  have hshell : (Command.shell text).display = commandLine .escaped [text] :=
    String.ofList_toList.symm
  refine ⟨hescaped words, split_join spells_singleQuote words, hescaped words, ?_⟩
  rw [hshell]
  exact hescaped [text]

end ChrootScan.Shell
