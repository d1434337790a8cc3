import ChrootScan.Proofs.Shell.Words

/-!
# Values that are quoted again

A value that a user gives for another program is split, and each of its words is quoted again.
`outline` tells what of such a line stands outside quotes, by the rules for quotes alone and with no
look at words: a shell gives a meaning to nothing else. What `sanitize` writes has the words of the
value, and outside quotes it has plain characters and the spaces between the words.
-/

namespace ChrootScan.Shell

/-! ## What stands where -/

/-- A piece of a text, as quotes cut it. -/
inductive Segment
  /-- A character outside quotes. -/
  | bare (c : Char)
  /-- A character outside quotes, behind a backslash. -/
  | escaped (c : Char)
  /-- All that stands between two apostrophes. -/
  | single (s : List Char)
  /-- All that stands between two double quotes, with its backslashes. -/
  | double (s : List Char)
deriving DecidableEq, Repr

/-- Where the next character stands; inside quotes, with what stands before it there. -/
inductive Place
  | bare
  | escaped
  | single (s : List Char)
  | double (s : List Char)
  /-- Behind a backslash between double quotes. -/
  | doubleEscaped (s : List Char)
deriving DecidableEq, Repr

/-- A text cut at its quotes, as far as it was read. -/
structure Outline where
  place : Place := .bare
  segments : List Segment := []
deriving DecidableEq, Repr

namespace Outline

/-- Reads one character. Between apostrophes nothing but the next apostrophe counts, between double
quotes a backslash keeps the next character from closing them. -/
def step (o : Outline) (c : Char) : Outline :=
  match o.place with
  | .bare =>
    if c = '\'' then { o with place := .single [] }
    else if c = '"' then { o with place := .double [] }
    else if c = '\\' then { o with place := .escaped }
    else { o with segments := o.segments ++ [.bare c] }
  | .escaped => ⟨.bare, o.segments ++ [.escaped c]⟩
  | .single s =>
    if c = '\'' then ⟨.bare, o.segments ++ [.single s]⟩ else { o with place := .single (s ++ [c]) }
  | .double s =>
    if c = '"' then ⟨.bare, o.segments ++ [.double s]⟩
    else if c = '\\' then { o with place := .doubleEscaped (s ++ [c]) }
    else { o with place := .double (s ++ [c]) }
  | .doubleEscaped s => { o with place := .double (s ++ [c]) }

end Outline

/-- The pieces of a text whose quotes are all closed. -/
def outline (s : String) : Option (List Segment) :=
  match s.toList.foldl Outline.step {} with
  | ⟨.bare, segments⟩ => some segments
  | _ => none

/-- A piece that no shell gives a meaning to: outside quotes a letter, a digit or one of a few other
characters, between apostrophes anything, and between double quotes an apostrophe alone. -/
def Segment.Harmless : Segment → Prop
  | bare c => c.isAlphanum = true ∨ c ∈ ['@', '%', '+', '=', ':', ',', '.', '/', '-', '_']
  | escaped _ => False
  | single _ => True
  | double s => s = ['\'']

/-- A line holds so many words, of harmless pieces, with a single space between neighbours. -/
def HarmlessLine (line : String) (count : Nat) : Prop :=
  ∃ groups : List (List Segment), outline line = some ([.bare ' '].intercalate groups) ∧
    groups.length = count ∧ ∀ group ∈ groups, group ≠ [] ∧ ∀ segment ∈ group, segment.Harmless

/-! ## One word -/

namespace Outline

variable {before : List Segment}

/-- A character that opens nothing stands outside quotes. -/
theorem step_bare {c : Char} (happos : c ≠ '\'') (hquote : c ≠ '"') (hbackslash : c ≠ '\\') :
    step ⟨.bare, before⟩ c = ⟨.bare, before ++ [.bare c]⟩ := by
  simp only [step, if_neg happos, if_neg hquote, if_neg hbackslash]

/-- A plain character opens nothing. -/
theorem step_plain {c : Char} (hc : isPlain c = true) :
    step ⟨.bare, before⟩ c = ⟨.bare, before ++ [.bare c]⟩ := by
  have hne {d : Char} (hd : isPlain d = false) : c ≠ d := by
    intro heq
    rw [← heq, hc] at hd
    cases hd
  exact step_bare (hne (by decide)) (hne (by decide)) (hne (by decide))

/-- Between apostrophes a character goes into the piece. -/
theorem step_single {c : Char} (hc : c ≠ '\'') (s : List Char) :
    step ⟨.single s, before⟩ c = ⟨.single (s ++ [c]), before⟩ := by
  simp only [step, if_neg hc]

/-- An apostrophe closes the piece between apostrophes, and stands between double quotes. -/
theorem foldl_splice (s : List Char) :
    (spliceChar '\'').foldl step ⟨.single s, before⟩ =
      ⟨.single [], before ++ [.single s, .double ['\'']]⟩ := by
  simp [spliceChar, step]

end Outline

open Outline

/-- Plain characters are harmless outside quotes. -/
theorem harmless_of_isPlain {c : Char} (hc : isPlain c = true) : (Segment.bare c).Harmless := by
  have hother : "@%+=:,./-_".toList = ['@', '%', '+', '=', ':', ',', '.', '/', '-', '_'] := by
    decide
  rw [isPlain, Bool.or_eq_true, List.contains_iff_mem, hother] at hc
  exact hc

/-- Characters that, read outside quotes, are harmless pieces, and at least one. -/
def Tame (cs : List Char) : Prop :=
  ∃ group : List Segment, (group ≠ [] ∧ ∀ segment ∈ group, segment.Harmless) ∧
    ∀ before, cs.foldl step ⟨.bare, before⟩ = ⟨.bare, before ++ group⟩

/-- The rest of a word between apostrophes, from any place in it. -/
theorem exists_foldl_spliced (word s : List Char) :
    ∃ group : List Segment, (group ≠ [] ∧ ∀ segment ∈ group, segment.Harmless) ∧
      ∀ before, (word.flatMap spliceChar ++ ['\'']).foldl step ⟨.single s, before⟩ =
        ⟨.bare, before ++ group⟩ := by
  induction word generalizing s with
  | nil =>
    refine ⟨[.single s], ⟨by simp, ?_⟩, fun before => by simp [step]⟩
    intro segment hsegment
    rw [List.mem_singleton.1 hsegment]
    exact trivial
  | cons c word ih =>
    -- an apostrophe closes the piece, stands between double quotes, and opens the next one
    by_cases hc : c = '\''
    · obtain ⟨group, ⟨-, hgroup⟩, hread⟩ := ih []
      refine ⟨.single s :: .double ['\''] :: group, ⟨by simp, ?_⟩, fun before => ?_⟩
      · exact List.forall_mem_cons.2 ⟨trivial, List.forall_mem_cons.2 ⟨rfl, hgroup⟩⟩
      · rw [hc, List.flatMap_cons, List.append_assoc, List.foldl_append, foldl_splice, hread,
          List.append_assoc]
        rfl
    · obtain ⟨group, hgroup, hread⟩ := ih (s ++ [c])
      have hspliced : spliceChar c = [c] := if_neg hc
      refine ⟨group, hgroup, fun before => ?_⟩
      rw [List.flatMap_cons, hspliced, List.singleton_append, List.cons_append, List.foldl_cons,
        step_single hc, hread]

/-- Plain characters are pieces of their own, one by one. -/
theorem foldl_plain {cs : List Char} (hcs : ∀ c ∈ cs, isPlain c = true) (before : List Segment) :
    cs.foldl step ⟨.bare, before⟩ = ⟨.bare, before ++ cs.map .bare⟩ := by
  induction cs generalizing before with
  | nil => simp
  | cons c cs ih =>
    obtain ⟨hc, hrest⟩ := List.forall_mem_cons.1 hcs
    rw [List.foldl_cons, step_plain hc, ih hrest, List.append_assoc]
    rfl

/-- A word between apostrophes is made of harmless pieces, whatever it holds. -/
theorem tame_singleQuoteChars (word : List Char) : Tame (singleQuoteChars word) := by
  unfold singleQuoteChars
  split
  · next hplain =>
    simp only [Bool.and_eq_true, Bool.not_eq_true', List.all_eq_true] at hplain
    obtain ⟨hne, hplain⟩ := hplain
    refine ⟨word.map .bare, ⟨?_, ?_⟩, foldl_plain hplain⟩
    · intro hnil
      rw [List.map_eq_nil_iff.1 hnil] at hne
      cases hne
    · intro segment hsegment
      obtain ⟨c, hc, rfl⟩ := List.mem_map.1 hsegment
      exact harmless_of_isPlain (hplain c hc)
  · obtain ⟨group, hgroup, hread⟩ := exists_foldl_spliced word []
    exact ⟨group, hgroup, fun before => hread before⟩

/-! ## The line -/

/-- A space outside quotes is a piece of its own. -/
theorem foldl_joinChars {pieces : List (List Char)} (hpieces : ∀ piece ∈ pieces, Tame piece) :
    ∃ groups : List (List Segment), groups.length = pieces.length ∧
      (∀ group ∈ groups, group ≠ [] ∧ ∀ segment ∈ group, segment.Harmless) ∧
      ∀ before, (Text.joinChars [' '] pieces).foldl step ⟨.bare, before⟩ =
        ⟨.bare, before ++ [.bare ' '].intercalate groups⟩ := by
  induction pieces with
  | nil => exact ⟨[], rfl, by simp, by simp [Text.joinChars, List.intercalate]⟩
  | cons piece pieces ih =>
    obtain ⟨⟨group, hgroup, hread⟩, hrest⟩ := List.forall_mem_cons.1 hpieces
    obtain ⟨groups, hlength, hgroups, hline⟩ := ih hrest
    refine ⟨group :: groups, by rw [List.length_cons, hlength, List.length_cons],
      List.forall_mem_cons.2 ⟨hgroup, hgroups⟩, fun before => ?_⟩
    -- the last piece has no space behind it
    rcases pieces with _ | ⟨second, pieces⟩
    · rw [List.length_eq_zero_iff.1 hlength, Text.joinChars, hread]
      simp [List.intercalate]
    · obtain ⟨next, groups, rfl⟩ := List.exists_cons_of_length_eq_add_one hlength
      have hspace : step ⟨.bare, before ++ group⟩ ' ' = ⟨.bare, before ++ group ++ [.bare ' ']⟩ :=
        step_bare (by decide) (by decide) (by decide)
      rw [Text.joinChars, List.append_assoc, List.foldl_append, hread, List.singleton_append,
        List.foldl_cons, hspace, hline]
      · simp [List.intercalate]
      · exact List.cons_ne_nil _ _

/-- Quoted words with single spaces between them are a harmless line of so many words. -/
theorem harmlessLine_join (words : List String) :
    HarmlessLine (Text.join " " (words.map singleQuote)) words.length := by
  have htame : ∀ piece ∈ (words.map singleQuote).map String.toList, Tame piece := by
    intro piece hpiece
    obtain ⟨quoted, hquoted, rfl⟩ := List.mem_map.1 hpiece
    obtain ⟨word, -, rfl⟩ := List.mem_map.1 hquoted
    rw [singleQuote, String.toList_ofList]
    exact tame_singleQuoteChars word.toList
  obtain ⟨groups, hlength, hgroups, hline⟩ := foldl_joinChars htame
  have hread : (Text.joinChars " ".toList ((words.map singleQuote).map String.toList)).foldl
      step {} = ⟨.bare, [.bare ' '].intercalate groups⟩ :=
    hline []
  refine ⟨groups, ?_, by simpa using hlength, hgroups⟩
  rw [outline, Text.join, String.toList_ofList, hread]

/-! ## Sanitizing -/

/-- A value that can be split is written as its words, each of them quoted. -/
theorem sanitize_of_split {value : String} {words : List String} (h : split value = .ok words)
    (option : String) : sanitize option value = .ok (Text.join " " (words.map singleQuote)) := by
  rw [sanitize, h]

/-- A value that cannot be split is refused, with the option that it was given to. -/
theorem sanitize_of_split_error {value : String} {e : SplitError} (h : split value = .error e)
    (option : String) : sanitize option value =
      .error (.usage ("failed to parse value given to " ++ option ++ ": " ++ e.message)) := by
  rw [sanitize, h]

/-- A value that is quoted again keeps its words and has no unquoted character with a meaning to a
shell, and quoting it once more changes nothing. It is refused if it cannot be split, and only
then. -/
theorem sanitize_harmless (option value : String) :
    (∀ out, sanitize option value = .ok out →
      split out = split value ∧
        (∃ words, split value = .ok words ∧ HarmlessLine out words.length) ∧
        ∀ other, sanitize other out = .ok out) ∧
      ((∃ out, sanitize option value = .ok out) ↔ ∃ words, split value = .ok words) ∧
      ((∃ text, sanitize option value = .error (.usage text)) ↔ ∃ e, split value = .error e) := by
  cases hsplit : split value with
  | error e =>
    rw [sanitize_of_split_error hsplit]
    refine ⟨fun out h => ?_, ⟨?_, ?_⟩, ⟨fun _ => ⟨e, rfl⟩, fun _ => ⟨_, rfl⟩⟩⟩
    · cases h
    · rintro ⟨out, h⟩
      cases h
    · rintro ⟨words, h⟩
      cases h
  | ok words =>
    -- what is written is split into the same words, which is why it is written alike once more
    have hout : split (Text.join " " (words.map singleQuote)) = .ok words :=
      split_join spells_singleQuote words
    rw [sanitize_of_split hsplit]
    refine ⟨fun out h => ?_, ⟨fun _ => ⟨words, rfl⟩, fun _ => ⟨_, rfl⟩⟩, ⟨?_, ?_⟩⟩
    · obtain rfl : Text.join " " (words.map singleQuote) = out := Except.ok.inj h
      exact ⟨hout, ⟨words, rfl, harmlessLine_join words⟩, sanitize_of_split hout⟩
    · rintro ⟨text, h⟩
      cases h
    · rintro ⟨e, h⟩
      cases h

/-- A second command and a substitution, given as options, end up between apostrophes. -/
theorem sanitize_harmless_injection :
    sanitize "--opts" "a;b \"$(c)'\"" = .ok "'a;b' '$(c)'\"'\"''" ∧
      HarmlessLine "'a;b' '$(c)'\"'\"''" 2 := by
  have hout : sanitize "--opts" "a;b \"$(c)'\"" = .ok "'a;b' '$(c)'\"'\"''" := by decide +kernel
  have hsplit : split "a;b \"$(c)'\"" = .ok ["a;b", "$(c)'"] := by decide +kernel
  obtain ⟨words, hwords, hline⟩ := ((sanitize_harmless _ _).1 _ hout).2.1
  rw [hsplit] at hwords
  cases hwords
  exact ⟨hout, hline⟩

end ChrootScan.Shell
