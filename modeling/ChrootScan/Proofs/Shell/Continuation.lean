import ChrootScan.Proofs.Shell.Grammar

/-!
# Continued lines

A backslash in front of a newline continues a line: outside apostrophes both are dropped, so that the
line should split as if they were not there. Inside a word and between double quotes they leave no
trace. But the backslash begins a word even if nothing follows it, and a continuation that stands by
itself, with blanks or an end of the text on either side, is left over as an empty word
(`continuation_removed_iff`).
-/

namespace ChrootScan.Shell

/-! ## Where a text ends -/

/-- A text that ends between apostrophes. -/
def EndsInApostrophes (s : List Char) : Prop :=
  ∃ before inside, s = before ++ '\'' :: inside ∧ Outside before ∧ '\'' ∉ inside

/-- A text that ends right behind a backslash which escapes what comes next, outside quotes or
between double quotes. -/
def EndsInBackslash (s : List Char) : Prop :=
  ∃ before, s = before ++ ['\\'] ∧
    (Outside before ∨ ∃ front inside value, before = front ++ '"' :: inside ∧ Outside front ∧
      Inside inside value)

/-- A text behind which no word is begun: it is empty, or a blank outside quotes ends it. -/
def EndsBetweenWords (s : List Char) : Prop :=
  s = [] ∨ ∃ before c, s = before ++ [c] ∧ Outside before ∧ Text.isBlank c = true

/-- A text that is empty or begins with a blank. -/
def BeginsNoWord (s : List Char) : Prop :=
  ∀ c ∈ s.head?, Text.isBlank c = true

instance (s : List Char) : Decidable (BeginsNoWord s) :=
  decidable_of_iff (s.head?.all Text.isBlank = true) (Option.all_eq_true _ _)

/-- The text in front of a character, by the way this character is read. -/
inductive Ends : Mode → List Char → Prop
  | bare {s : List Char} : Outside s → Ends .bare s
  | opened {before piece part : List Char} {mode : Mode} : Outside before →
      Opened mode piece part → Ends mode (before ++ piece)

namespace Ends

variable {s before piece part : List Char} {mode : Mode}

theorem closed (h : Outside before) {segment : Segment} (hsegment : segment.StandsFor part) :
    Ends .bare (before ++ segment.written) :=
  bare (h.segment hsegment)

/-- A character outside quotes opens a segment, or is one, or is a blank. -/
theorem next_outside (h : Outside s) (c : Char) : Ends (Mode.next .bare c) (s ++ [c]) := by
  unfold Mode.next
  dsimp only
  split_ifs with happos hquote hbackslash
  · subst happos
    exact opened h (.single List.not_mem_nil)
  · subst hquote
    exact opened h (.double .nil)
  · subst hbackslash
    exact opened h .escaped
  · by_cases hblank : Text.isBlank c = true
    · exact bare (h.blank hblank)
    · exact closed h (.bare (Bool.eq_false_of_not_eq_true hblank) happos hquote hbackslash)

/-- A character inside a segment closes it, or the segment stays open in the way that the mode says.
-/
theorem next_opened (h : Outside before) (hpiece : Opened mode piece part) (c : Char) :
    Ends (mode.next c) (before ++ piece ++ [c]) := by
  rw [List.append_assoc]
  cases hpiece with
  | escaped => exact closed h (.escaped c)
  | single happos =>
    unfold Mode.next
    dsimp only
    split_ifs with hc
    · subst hc
      exact closed h (.single happos)
    · exact opened h (.single (List.not_mem_append happos (by simpa using Ne.symm hc)))
  | double hinside =>
    unfold Mode.next
    dsimp only
    split_ifs with hquote hbackslash
    · subst hquote
      exact closed h (.double hinside)
    · subst hbackslash
      exact opened h (.doubleEscaped hinside)
    · exact opened h (.double (hinside.append (.plain hquote hbackslash .nil)))
  | @doubleEscaped inside t hinside =>
    -- here no mode is a matter of newlines, so a backslash with any character behind it is inside
    have hpair : Inside ['\\', c] (if c ∈ droppedBefore then [c] else ['\\', c]) := by
      split_ifs with hc
      · exact .dropped hc .nil
      · exact .kept hc .nil
    rw [List.append_assoc]
    exact opened h (.double (hinside.append hpair))

/-- Every character leads to the end of a text again. -/
theorem next (h : Ends mode s) (c : Char) : Ends (mode.next c) (s ++ [c]) := by
  cases h with
  | bare h => exact next_outside h c
  | opened h hpiece => exact next_opened h hpiece c

/-- How a text ends, by the mode that it leaves behind. -/
theorem foldl (s : List Char) : Ends (s.foldl Mode.next .bare) s := by
  induction s using List.reverseRecOn with
  | nil => exact bare .nil
  | append_singleton s c ih =>
    rw [List.foldl_append]
    exact ih.next c

end Ends

/-- A text leaves no quotes open exactly if it is made of blanks and segments. -/
theorem outside_iff {s : List Char} : Outside s ↔ s.foldl Mode.next .bare = .bare := by
  refine ⟨Outside.next_foldl, fun h => ?_⟩
  have hends := Ends.foldl s
  rw [h] at hends
  cases hends with
  | bare h => exact h
  | opened _ hpiece => cases hpiece

/-- A text ends between apostrophes exactly if that is how the next character is read. -/
theorem endsInApostrophes_iff {s : List Char} :
    EndsInApostrophes s ↔ s.foldl Mode.next .bare = .single := by
  constructor
  · rintro ⟨before, inside, rfl, hbefore, hinside⟩
    rw [List.foldl_append, hbefore.next_foldl]
    exact next_foldl_apart hinside
  · intro h
    have hends := Ends.foldl s
    rw [h] at hends
    cases hends with
    | opened hbefore hpiece =>
      cases hpiece with
      | single happos => exact ⟨_, _, rfl, hbefore, happos⟩

/-- A text ends in a backslash that escapes exactly if the next character is read as an escaped one,
inside or outside double quotes. -/
theorem endsInBackslash_iff {s : List Char} :
    EndsInBackslash s ↔
      s.foldl Mode.next .bare = .escaped ∨ s.foldl Mode.next .bare = .doubleEscaped := by
  constructor
  · rintro ⟨before, rfl, hbefore | ⟨front, inside, value, rfl, hfront, hinside⟩⟩
    · left
      rw [List.foldl_append, hbefore.next_foldl]
      rfl
    · right
      rw [List.foldl_append, List.foldl_append, List.foldl_cons, hfront.next_foldl]
      show Mode.next (inside.foldl Mode.next .double) '\\' = _
      rw [hinside.next_foldl]
      rfl
  · have hends := Ends.foldl s
    rintro (h | h)
    · rw [h] at hends
      cases hends with
      | opened hbefore hpiece =>
        cases hpiece
        exact ⟨_, rfl, .inl hbefore⟩
    · rw [h] at hends
      cases hends with
      | @opened before _ _ _ hbefore hpiece =>
        cases hpiece with
        | @doubleEscaped inside _ hinside =>
          refine ⟨before ++ '"' :: inside, by simp, .inr ?_⟩
          exact ⟨before, inside, _, rfl, hbefore, hinside⟩

instance (s : List Char) : Decidable (EndsInApostrophes s) :=
  decidable_of_iff _ endsInApostrophes_iff.symm

instance (s : List Char) : Decidable (EndsInBackslash s) :=
  decidable_of_iff _ endsInBackslash_iff.symm

/-! ## Where a word is begun -/

namespace Reader

variable {r : Reader}

/-- All steps but one add to the word. -/
theorem step_eq_push {c : Char} (h : ¬ (r.mode = .bare ∧ Text.isBlank c = true)) :
    ∃ cs mode, r.step c = r.push cs mode := by
  unfold step
  cases hr : r.mode with
  | bare =>
    have hblank : ¬ Text.isBlank c = true := fun hc => h ⟨hr, hc⟩
    dsimp only
    rw [if_neg hblank]
    split_ifs <;> exact ⟨_, _, rfl⟩
  | escaped | single | double | doubleEscaped =>
    dsimp only
    split_ifs <;> exact ⟨_, _, rfl⟩

/-- Only a blank outside quotes leaves no word begun. -/
theorem word_step_eq_none_iff (r : Reader) (c : Char) :
    (r.step c).word = none ↔ r.mode = .bare ∧ Text.isBlank c = true := by
  by_cases h : r.mode = .bare ∧ Text.isBlank c = true
  · rw [step_blank h.1 h.2]
    exact iff_of_true (word_endWord r) h
  · obtain ⟨cs, mode, hpush⟩ := step_eq_push h
    rw [hpush]
    exact iff_of_false (Option.some_ne_none _) h

end Reader

/-- A text ends between words exactly if no word is begun behind it. -/
theorem endsBetweenWords_iff {s : List Char} :
    EndsBetweenWords s ↔ (s.foldl Reader.step {}).word = none := by
  rcases List.eq_nil_or_concat s with rfl | ⟨before, c, rfl⟩
  · exact iff_of_true (.inl rfl) rfl
  · rw [List.concat_eq_append, List.foldl_append, List.foldl_cons, List.foldl_nil,
      Reader.word_step_eq_none_iff, Reader.mode_foldl]
    show _ ↔ before.foldl Mode.next .bare = .bare ∧ _
    rw [← outside_iff]
    constructor
    · rintro (hnil | ⟨before', c', heq, hbefore, hc⟩)
      · exact absurd hnil (List.append_ne_nil_of_right_ne_nil _ (List.cons_ne_nil _ _))
      · obtain ⟨rfl, hlast⟩ := List.append_inj' heq rfl
        obtain rfl := List.singleton_inj.1 hlast
        exact ⟨hbefore, hc⟩
    · rintro ⟨hbefore, hc⟩
      exact .inr ⟨before, c, rfl, hbefore, hc⟩

instance (s : List Char) : Decidable (EndsBetweenWords s) :=
  decidable_of_iff _ endsBetweenWords_iff.symm

/-! ## The continuation -/

namespace Reader

variable {r : Reader}

theorem step_escaped_newline (h : r.mode = .escaped) : r.step '\n' = r.push [] .bare := by
  rw [step, h]
  rfl

theorem step_doubleEscaped_newline (h : r.mode = .doubleEscaped) :
    r.step '\n' = r.push [] .double := by
  rw [step, h]
  rfl

/-- A continuation begins a word, if none is begun, and does nothing else. -/
theorem foldl_continuation (h : r.mode = .bare ∨ r.mode = .double) :
    ['\\', '\n'].foldl step r = r.push [] r.mode := by
  rw [List.foldl_cons, List.foldl_cons, List.foldl_nil]
  rcases h with h | h
  · rw [step_open_escape h, step_escaped_newline (mode_push _ _ _), push_push, h]
    rfl
  · rw [step_backslash h, step_doubleEscaped_newline (mode_push _ _ _), push_push, h]
    rfl

theorem push_nil_of_word (h : r.word ≠ none) : r.push [] r.mode = r := by
  rcases r with ⟨mode, _ | word, done⟩
  · exact absurd rfl h
  · simp [push]

/-- A character that is part of a word is read in the same way, be the word just begun or not. -/
theorem step_push_nil (h : r.mode = .bare) {c : Char} (hc : Text.isBlank c = false) :
    (r.push [] .bare).step c = r.step c := by
  have hnot : ¬ Text.isBlank c = true := by simp [hc]
  unfold step
  rw [mode_push, h]
  dsimp only
  rw [if_neg hnot, if_neg hnot]
  simp only [push_push, List.nil_append]

/-- A reader between two words has complete words behind it, and nothing else. -/
theorem foldl_of_endsBetweenWords {x : List Char} (h : EndsBetweenWords x) :
    ∃ words, x.foldl step {} = { done := words } := by
  have hmode : (x.foldl step {}).mode = .bare := by
    rw [mode_foldl]
    rcases h with rfl | ⟨before, c, rfl, hbefore, hc⟩
    · rfl
    · exact (hbefore.blank hc).next_foldl
  have hword := endsBetweenWords_iff.1 h
  revert hmode hword
  rcases x.foldl step {} with ⟨mode, word, words⟩
  rintro rfl rfl
  exact ⟨words, rfl⟩

/-- A word that is just begun is left empty by a text that begins no word. -/
theorem finish_foldl_push_nil (words : List (List Char)) {y : List Char} (hy : BeginsNoWord y) :
    (y.foldl step (push { done := words } [] .bare)).finish =
      (splitChars y).map (words ++ [] :: ·) := by
  have hempty : (splitChars y).map (words ++ [] :: ·) = (splitChars y).map (words ++ [[]] ++ ·) := by
    simp
  rw [hempty, ← finish_foldl_done]
  cases y with
  | nil => rfl
  | cons c y =>
    have hc : Text.isBlank c = true := hy c rfl
    rw [List.foldl_cons, List.foldl_cons, step_blank rfl hc, step_blank rfl hc]
    rfl

end Reader

/-! ## The line without it -/

variable {x y : List Char}

/-- With a word begun in front of it or behind it, a continuation leaves no trace. -/
theorem splitChars_continuation (hquote : ¬ EndsInApostrophes x) (hescape : ¬ EndsInBackslash x)
    (h : ¬ (EndsBetweenWords x ∧ BeginsNoWord y)) :
    splitChars (x ++ ['\\', '\n'] ++ y) = splitChars (x ++ y) := by
  -- in two modes the reader drops the continuation; in the others the backslash means something
  -- else
  have hmode : (x.foldl Reader.step {}).mode = .bare ∨ (x.foldl Reader.step {}).mode = .double := by
    rw [endsInApostrophes_iff] at hquote
    rw [endsInBackslash_iff, not_or] at hescape
    rw [Reader.mode_foldl]
    show x.foldl Mode.next .bare = _ ∨ x.foldl Mode.next .bare = _
    cases hlast : x.foldl Mode.next .bare with
    | bare => exact .inl rfl
    | double => exact .inr rfl
    | single => exact absurd hlast hquote
    | escaped => exact absurd hlast hescape.1
    | doubleEscaped => exact absurd hlast hescape.2
  simp only [splitChars, List.foldl_append]
  rw [Reader.foldl_continuation hmode]
  by_cases hx : EndsBetweenWords x
  · obtain ⟨words, hwords⟩ := Reader.foldl_of_endsBetweenWords hx
    have hy : ¬ BeginsNoWord y := fun hy => h ⟨hx, hy⟩
    rw [hwords]
    -- no word is begun here, so the empty one is lost again only if a word begins right behind
    cases y with
    | nil =>
      have hnil : BeginsNoWord [] := by decide
      exact absurd hnil hy
    | cons c y =>
      have hc : Text.isBlank c = false := by
        refine Bool.eq_false_of_not_eq_true fun hc => hy fun d hd => ?_
        rwa [← Option.some.inj hd]
      rw [List.foldl_cons, List.foldl_cons, Reader.step_push_nil rfl hc]
  · rw [Reader.push_nil_of_word (mt endsBetweenWords_iff.2 hx)]

/-- A continuation with no word on either side is left over as an empty word. -/
theorem splitChars_continuation_alone (hx : EndsBetweenWords x) (hy : BeginsNoWord y) :
    ∃ words, splitChars x = .ok words ∧ splitChars (x ++ y) = (splitChars y).map (words ++ ·) ∧
      splitChars (x ++ ['\\', '\n'] ++ y) = (splitChars y).map (words ++ [] :: ·) := by
  obtain ⟨words, hwords⟩ := Reader.foldl_of_endsBetweenWords hx
  refine ⟨words, ?_, ?_, ?_⟩
  · rw [splitChars, hwords]
    rfl
  · rw [splitChars, List.foldl_append, hwords, finish_foldl_done]
  · rw [splitChars, List.foldl_append, List.foldl_append, hwords,
      Reader.foldl_continuation (.inl rfl), Reader.finish_foldl_push_nil words hy]

theorem split_eq_split_iff {s t : String} :
    split s = split t ↔ splitChars s.toList = splitChars t.toList := by
  constructor
  · intro h
    cases ht : split t with
    | error e => rw [split_eq_error_iff.1 (h.trans ht), split_eq_error_iff.1 ht]
    | ok words => rw [split_eq_ok_iff.1 (h.trans ht), split_eq_ok_iff.1 ht]
  · intro h
    rw [split, h, split]

/-- A continuation outside apostrophes is removed without a trace, except if no word is begun in
front of it, none begins behind it, and what follows can be split. Then it is left over as an empty
word. -/
theorem continuation_removed_iff (x y : String) (hquote : ¬ EndsInApostrophes x.toList)
    (hescape : ¬ EndsInBackslash x.toList) :
    (split (x ++ "\\\n" ++ y) = split (x ++ y) ↔
      ¬ (EndsBetweenWords x.toList ∧ BeginsNoWord y.toList ∧ ∃ more, split y = .ok more)) ∧
    (EndsBetweenWords x.toList → BeginsNoWord y.toList →
      ∃ words, split x = .ok words ∧ split (x ++ y) = (split y).map (words ++ ·) ∧
        split (x ++ "\\\n" ++ y) = (split y).map (words ++ "" :: ·)) := by
  have hchars : (x ++ "\\\n" ++ y).toList = x.toList ++ ['\\', '\n'] ++ y.toList := by
    rw [String.toList_append, String.toList_append]
    rfl
  have halone : EndsBetweenWords x.toList → BeginsNoWord y.toList →
      ∃ words, split x = .ok words ∧ split (x ++ y) = (split y).map (words ++ ·) ∧
        split (x ++ "\\\n" ++ y) = (split y).map (words ++ "" :: ·) := by
    intro hx hy
    obtain ⟨words, hfront, hplain, hcontinued⟩ := splitChars_continuation_alone hx hy
    refine ⟨words.map String.ofList, ?_, ?_, ?_⟩
    · rw [split, hfront]
      rfl
    · apply split_eq_map
      rw [String.toList_append, hplain]
    · have hempty : splitChars (x ++ "\\\n" ++ y).toList =
          (splitChars y.toList).map (words ++ [[]] ++ ·) := by
        rw [hchars, hcontinued]
        simp
      rw [split_eq_map hempty]
      simp
  refine ⟨?_, halone⟩
  constructor
  · rintro heq ⟨hx, hy, more, hmore⟩
    obtain ⟨words, -, hplain, hcontinued⟩ := halone hx hy
    rw [hplain, hcontinued, hmore] at heq
    -- the lists of words differ in length
    have hlength := congrArg List.length (Except.ok.inj heq)
    simp at hlength
  · intro h
    by_cases hboth : EndsBetweenWords x.toList ∧ BeginsNoWord y.toList
    · obtain ⟨words, -, hplain, hcontinued⟩ := halone hboth.1 hboth.2
      rw [hplain, hcontinued]
      cases hy : split y with
      | error e => rfl
      | ok more => exact absurd ⟨hboth.1, hboth.2, more, hy⟩ h
    · rw [split_eq_split_iff, hchars, splitChars_continuation hquote hescape hboth,
        String.toList_append]

/-- Between double quotes a line goes on as if it were not broken. -/
theorem continuation_removed_in_quotes :
    ¬ EndsInApostrophes "--name \"a ".toList ∧ ¬ EndsInBackslash "--name \"a ".toList ∧
      split ("--name \"a " ++ "\\\n" ++ "b\" c") = split ("--name \"a " ++ "b\" c") ∧
      split ("--name \"a " ++ "b\" c") = .ok ["--name", "a b", "c"] := by
  have hquote : ¬ EndsInApostrophes "--name \"a ".toList := by decide +kernel
  have hescape : ¬ EndsInBackslash "--name \"a ".toList := by decide +kernel
  have hword : ¬ EndsBetweenWords "--name \"a ".toList := by decide +kernel
  refine ⟨hquote, hescape, ?_, by decide +kernel⟩
  exact (continuation_removed_iff _ _ hquote hescape).1.2 fun h => hword h.1

/-- A line that is continued behind a space and indented has an empty word more. -/
theorem not_removed_between_blanks :
    ¬ EndsInApostrophes "--a ".toList ∧ ¬ EndsInBackslash "--a ".toList ∧
      split ("--a " ++ "\\\n" ++ " --b") = .ok ["--a", "", "--b"] ∧
      split ("--a " ++ " --b") = .ok ["--a", "--b"] := by
  decide +kernel

end ChrootScan.Shell
