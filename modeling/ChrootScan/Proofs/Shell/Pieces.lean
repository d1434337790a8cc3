import ChrootScan.Proofs.Shell.Words
import ChrootScan.Proofs.Text.Fields

/-!
# Command lines put together

A command line that is written in parts, with blanks between them, splits part by part. Complete
words are never looked at again: a reader that has some of them behind it (`Reader.behind`) does the
same as one that has none, so the second part is read as if it stood alone.
-/

namespace ChrootScan.Shell

namespace Reader

variable {r : Reader} {before : List (List Char)}

/-! ## Words that are complete -/

/-- The reader with complete words in front of its own. -/
def behind (before : List (List Char)) (r : Reader) : Reader :=
  { r with done := before ++ r.done }

@[simp] theorem mode_behind : (r.behind before).mode = r.mode := rfl

theorem push_behind (cs : List Char) (mode : Mode) :
    (r.behind before).push cs mode = (r.push cs mode).behind before := rfl

theorem endWord_behind : (r.behind before).endWord = r.endWord.behind before := by
  rcases r with ⟨mode, _ | word, done⟩
  · rfl
  · simp [behind, endWord]

/-- No step looks at the words that are complete. -/
theorem step_behind (c : Char) : (r.behind before).step c = (r.step c).behind before := by
  unfold step
  rw [mode_behind]
  cases r.mode with
  | bare =>
    dsimp only
    rw [endWord_behind]
    simp only [push_behind]
    split_ifs <;> rfl
  | escaped =>
    dsimp only
    simp only [push_behind]
    split_ifs <;> rfl
  | single =>
    dsimp only
    simp only [push_behind]
    split_ifs <;> rfl
  | double =>
    dsimp only
    simp only [push_behind]
    split_ifs <;> rfl
  | doubleEscaped =>
    dsimp only
    simp only [push_behind]
    split_ifs <;> rfl

theorem foldl_behind (s : List Char) :
    s.foldl step (r.behind before) = (s.foldl step r).behind before := by
  induction s generalizing r with
  | nil => rfl
  | cons c s ih => rw [List.foldl_cons, List.foldl_cons, step_behind, ih]

/-- Words that were read before stand in front of those that are read. -/
theorem finish_behind : (r.behind before).finish = r.finish.map (before ++ ·) := by
  unfold finish
  rw [mode_behind]
  cases r.mode with
  | bare =>
    dsimp only
    rw [endWord_behind]
    rfl
  | escaped | single | double | doubleEscaped => rfl

/-! ## Blanks -/

@[simp] theorem mode_endWord (r : Reader) : r.endWord.mode = r.mode := by
  unfold endWord
  split <;> rfl

@[simp] theorem word_endWord (r : Reader) : r.endWord.word = none := by
  unfold endWord
  split
  · assumption
  · rfl

/-- A reader that may stop stands outside quotes. -/
theorem of_finish_eq_ok {words : List (List Char)} (h : r.finish = .ok words) :
    r.mode = .bare ∧ r.endWord.done = words := by
  unfold finish at h
  cases hmode : r.mode with
  | bare =>
    rw [hmode] at h
    exact ⟨rfl, Except.ok.inj h⟩
  | escaped | single | double | doubleEscaped =>
    rw [hmode] at h
    cases h

/-- A blank outside quotes ends the word. -/
theorem step_blank (hr : r.mode = .bare) {c : Char} (hc : Text.isBlank c = true) :
    r.step c = r.endWord := by
  have hne {d : Char} (hd : Text.isBlank d = false) : c ≠ d := by
    intro heq
    rw [← heq, hc] at hd
    cases hd
  rw [step, hr]
  dsimp only
  rw [if_neg (hne (by decide)), if_neg (hne (by decide)), if_neg (hne (by decide)), if_pos hc]

/-- Blanks between words are passed over. -/
theorem foldl_blanks {blanks : List Char} (hblanks : ∀ c ∈ blanks, Text.isBlank c = true)
    (done : List (List Char)) :
    blanks.foldl step { done := done } = { done := done } := by
  induction blanks with
  | nil => rfl
  | cons c blanks ih =>
    obtain ⟨hc, hrest⟩ := List.forall_mem_cons.1 hblanks
    rw [List.foldl_cons, step_blank rfl hc]
    exact ih hrest

/-- The first blank outside quotes ends the word, if one is begun. -/
theorem foldl_blanks_of_finish {words : List (List Char)} (h : r.finish = .ok words)
    {blanks : List Char} (hne : blanks ≠ []) (hblanks : ∀ c ∈ blanks, Text.isBlank c = true) :
    blanks.foldl step r = { done := words } := by
  obtain ⟨hmode, hdone⟩ := of_finish_eq_ok h
  obtain ⟨c, rest, rfl⟩ := List.exists_cons_of_ne_nil hne
  obtain ⟨hc, hrest⟩ := List.forall_mem_cons.1 hblanks
  have hend : r.endWord = { done := words } := by
    subst hdone
    rcases r with ⟨mode, _ | word, done⟩
    · cases hmode
      rfl
    · cases hmode
      rfl
  rw [List.foldl_cons, step_blank hmode hc, hend, foldl_blanks hrest]

end Reader

/-! ## Parts of a line -/

/-- What is read behind complete words is split as if it stood alone. -/
theorem finish_foldl_done (words : List (List Char)) (y : List Char) :
    (y.foldl Reader.step { done := words }).finish = (splitChars y).map (words ++ ·) := by
  have hbehind : ({ done := words } : Reader) = Reader.behind words {} := by
    simp [Reader.behind]
  rw [hbehind, Reader.foldl_behind, Reader.finish_behind]
  rfl

/-- Behind a part that can be split, and blanks, the rest of a line is split as if it stood alone:
its words follow those of the part, or its error is that of the line. -/
theorem splitChars_append {x blanks : List Char} {words : List (List Char)}
    (hx : splitChars x = .ok words) (hne : blanks ≠ [])
    (hblanks : ∀ c ∈ blanks, Text.isBlank c = true) (y : List Char) :
    splitChars (x ++ blanks ++ y) = (splitChars y).map (words ++ ·) := by
  rw [splitChars, List.foldl_append, List.foldl_append,
    Reader.foldl_blanks_of_finish hx hne hblanks, finish_foldl_done]

/-- A string is split into words as its characters are. -/
theorem splitChars_toList_eq_ok {s : String} {words : List String} (h : split s = .ok words) :
    splitChars s.toList = .ok (words.map String.toList) := by
  rw [split] at h
  cases hchars : splitChars s.toList with
  | error e =>
    rw [hchars] at h
    cases h
  | ok chars =>
    rw [hchars] at h
    rw [← Except.ok.inj h]
    simp

/-- Words in front of those of another text. -/
theorem split_eq_map {s t : String} {words : List (List Char)}
    (h : splitChars s.toList = (splitChars t.toList).map (words ++ ·)) :
    split s = (split t).map (words.map String.ofList ++ ·) := by
  rw [split, h, split]
  cases splitChars t.toList with
  | error => rfl
  | ok more => simp [Except.map]

/-- Behind a part that can be split, and blanks, a text is split as if it stood alone. -/
theorem split_append_blanks {x gap : String} {words : List String} (hx : split x = .ok words)
    (hne : gap ≠ "") (hblank : ∀ c ∈ gap.toList, Text.isBlank c = true) (y : String) :
    split (x ++ gap ++ y) = (split y).map (words ++ ·) := by
  have hchars : splitChars (x ++ gap ++ y).toList =
      (splitChars y.toList).map (words.map String.toList ++ ·) := by
    rw [String.toList_append, String.toList_append]
    exact splitChars_append (splitChars_toList_eq_ok hx) (by simpa using hne) hblank y.toList
  simpa using split_eq_map hchars

/-- Two parts with a space between them. -/
theorem split_append_space {x y : String} {words more : List String} (hx : split x = .ok words)
    (hy : split y = .ok more) : split (x ++ " " ++ y) = .ok (words ++ more) := by
  have hblank : ∀ c ∈ " ".toList, Text.isBlank c = true := List.all_eq_true.1 (by decide)
  rw [split_append_blanks hx (by decide) hblank, hy]
  rfl

/-- Parts that can be split, with the same blanks between them and in front of a last one. -/
theorem split_join_append {gap : String} (hne : gap ≠ "")
    (hblank : ∀ c ∈ gap.toList, Text.isBlank c = true) {parts : List String}
    {words : List (List String)} (h : List.Forall₂ (fun part ws => split part = .ok ws) parts words)
    (last : String) :
    split (Text.join gap (parts ++ [last])) = (split last).map (words.flatten ++ ·) := by
  induction h with
  | nil =>
    have hlast : Text.join gap [last] = last := String.ofList_toList
    rw [List.nil_append, hlast]
    cases split last <;> rfl
  | cons hpart _ ih =>
    rw [List.cons_append, Text.join_cons _ _ (by simp), split_append_blanks hpart hne hblank, ih]
    cases split last <;> simp [Except.map]

/-- A command line splits part by part. Behind a part that can be split, and any blanks, come the
words of the next part, or it is refused for the same reason as that part alone. So it is behind
any number of parts. -/
theorem split_part_by_part {gap : String} (hne : gap ≠ "")
    (hblank : ∀ c ∈ gap.toList, Text.isBlank c = true) :
    (∀ x y words, split x = .ok words →
      (∀ more, split y = .ok more → split (x ++ gap ++ y) = .ok (words ++ more)) ∧
      ∀ e, split y = .error e → split (x ++ gap ++ y) = .error e) ∧
    ∀ parts words last, List.Forall₂ (fun part ws => split part = .ok ws) parts words →
      split (Text.join gap (parts ++ [last])) = (split last).map (words.flatten ++ ·) := by
  refine ⟨fun x y words hx => ⟨fun more hy => ?_, fun e hy => ?_⟩,
    fun parts words last h => split_join_append hne hblank h last⟩
  · rw [split_append_blanks hx hne hblank, hy]
    rfl
  · rw [split_append_blanks hx hne hblank, hy]
    rfl

/-- A tab, a wide space and a newline, behind a part that ends in an escaped space and in front of
one with open quotes, or of the same part again. -/
theorem split_part_by_part_escaped :
    let gap := "\t\u3000\n"
    gap ≠ "" ∧ (∀ c ∈ gap.toList, Text.isBlank c = true) ∧
      split "a\\ " = .ok ["a "] ∧ split "'b" = .error .openQuote ∧
      split ("a\\ " ++ gap ++ "a\\ ") = .ok ["a ", "a "] ∧
      split ("a\\ " ++ gap ++ "'b") = .error .openQuote := by
  intro gap
  have hne : gap ≠ "" := by decide
  have hblank : ∀ c ∈ gap.toList, Text.isBlank c = true := List.all_eq_true.1 (by decide)
  have hword : split "a\\ " = .ok ["a "] := by decide +kernel
  have hopen : split "'b" = .error .openQuote := by decide +kernel
  have hparts := (split_part_by_part hne hblank).1 "a\\ "
  exact ⟨hne, hblank, hword, hopen, (hparts _ _ hword).1 _ hword, (hparts _ _ hword).2 _ hopen⟩

/-! ## Texts without quotes -/

/-- Nothing in a text ends a word or has a meaning to the reader. -/
def Unquoted (s : String) : Prop :=
  ∀ c ∈ s.toList, Text.isBlank c = false ∧ c ≠ '\'' ∧ c ≠ '"' ∧ c ≠ '\\'

instance (s : String) : Decidable (Unquoted s) :=
  List.decidableBAll (fun c => Text.isBlank c = false ∧ c ≠ '\'' ∧ c ≠ '"' ∧ c ≠ '\\') s.toList

theorem Unquoted.append {s t : String} (hs : Unquoted s) (ht : Unquoted t) :
    Unquoted (s ++ t) := by
  intro c hc
  rw [String.toList_append] at hc
  exact (List.mem_append.1 hc).elim (hs c) (ht c)

/-- A character of a joined text is one of a piece, or of the separator. -/
theorem mem_joinChars {sep : List Char} {pieces : List (List Char)} {c : Char}
    (h : c ∈ Text.joinChars sep pieces) : c ∈ sep ∨ ∃ piece ∈ pieces, c ∈ piece := by
  induction pieces with
  | nil => cases h
  | cons piece pieces ih =>
    rcases pieces with _ | ⟨second, pieces⟩
    · exact .inr ⟨piece, List.mem_singleton_self _, h⟩
    · rw [Text.joinChars] at h
      · rcases List.mem_append.1 h with h | h
        · rcases List.mem_append.1 h with h | h
          · exact .inr ⟨piece, List.mem_cons_self, h⟩
          · exact .inl h
        · rcases ih h with h | ⟨piece', hmem, h⟩
          · exact .inl h
          · exact .inr ⟨piece', List.mem_cons_of_mem _ hmem, h⟩
      · exact List.cons_ne_nil _ _

/-- Texts without quotes are joined to one. -/
theorem Unquoted.join {sep : String} {pieces : List String} (hsep : Unquoted sep)
    (hpieces : ∀ piece ∈ pieces, Unquoted piece) : Unquoted (Text.join sep pieces) := by
  intro c hc
  rw [Text.join, String.toList_ofList] at hc
  rcases mem_joinChars hc with hc | ⟨_, hmem, hc⟩
  · exact hsep c hc
  · obtain ⟨piece, hpiece, rfl⟩ := List.mem_map.1 hmem
    exact hpieces piece hpiece c hc

/-- A text without quotes spells itself. -/
theorem Unquoted.spells {s : String} (hs : Unquoted s) (hne : s ≠ "") :
    Spells s.toList s.toList := by
  apply spells_bare
  · intro hnil
    exact hne (String.toList_eq_nil_iff.1 hnil)
  · intro c hc r hr
    obtain ⟨hblank, happos, hquote, hbackslash⟩ := hs c hc
    exact Reader.step_bare hr happos hquote hbackslash hblank

/-- What spells one part of a word, and then the other, spells the word. -/
theorem Spells.append {cs cs' word word' : List Char} (h : Spells cs word)
    (h' : Spells cs' word') : Spells (cs ++ cs') (word ++ word') := by
  intro r hr
  rw [List.foldl_append, h r hr, h' _ (Reader.mode_push _ _ _), Reader.push_push]

theorem Spells.append_toList {s t word word' : String} (h : Spells s.toList word.toList)
    (h' : Spells t.toList word'.toList) : Spells (s ++ t).toList (word ++ word').toList := by
  rw [String.toList_append, String.toList_append]
  exact h.append h'

theorem split_of_spells {text word : String} (h : Spells text.toList word.toList) :
    split text = .ok [word] := by
  have hjoin : Text.join " " [text] = text := String.ofList_toList
  rw [← hjoin]
  exact split_pieces (.cons h .nil)

theorem split_quote (word : String) : split (quote word) = .ok [word] :=
  split_of_spells (spells_quote word)

/-! ## Lists of pieces -/

/-- Pieces of a line that spell words, one by one. -/
def Spell (pieces words : List String) : Prop :=
  List.Forall₂ (fun piece word => Spells piece.toList word.toList) pieces words

namespace Spell

variable {pieces words : List String}

theorem split_join (h : Spell pieces words) : split (Text.join " " pieces) = .ok words :=
  split_pieces h

theorem append {pieces' words' : List String} (h : Spell pieces words)
    (h' : Spell pieces' words') : Spell (pieces ++ pieces') (words ++ words') :=
  List.rel_append h h'

theorem map {α : Type} {piece word : α → String} {l : List α}
    (h : ∀ a ∈ l, Spells (piece a).toList (word a).toList) : Spell (l.map piece) (l.map word) := by
  rw [Spell, List.forall₂_map_left_iff, List.forall₂_map_right_iff]
  exact List.forall₂_same.2 h

/-- Texts without quotes spell themselves. -/
theorem unquoted (h : ∀ word ∈ words, Unquoted word ∧ word ≠ "") : Spell words words :=
  List.forall₂_same.2 fun word hword => (h word hword).1.spells (h word hword).2

end Spell

end ChrootScan.Shell
