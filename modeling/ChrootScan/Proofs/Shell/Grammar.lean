import ChrootScan.Proofs.Shell.Pieces
import ChrootScan.Proofs.Shell.Sanitized

/-!
# The grammar of command lines

What a command line may look like, said without the reader: a line is made of renderings of words
with blanks between them, a rendering of segments, and every segment stands for characters
(`Segment.StandsFor`). The reader accepts exactly these lines and finds exactly these words. A line
that it refuses ends inside quotes, or behind a backslash that nothing follows. A backslash in front
of a newline is a matter of its own, so lines that hold one are left out (`Unbroken`).
-/

namespace ChrootScan.Shell

/-! ## The rules -/

/-- The characters that a backslash between double quotes is dropped in front of. -/
def droppedBefore : List Char :=
  ['\\', '"', '$', '`']

/-- A text between double quotes, and the characters that it stands for. -/
inductive Inside : List Char → List Char → Prop
  | nil : Inside [] []
  | plain {c : Char} {s t : List Char} : c ≠ '"' → c ≠ '\\' → Inside s t → Inside (c :: s) (c :: t)
  | dropped {c : Char} {s t : List Char} : c ∈ droppedBefore → Inside s t →
      Inside ('\\' :: c :: s) (c :: t)
  | kept {c : Char} {s t : List Char} : c ∉ droppedBefore → Inside s t →
      Inside ('\\' :: c :: s) ('\\' :: c :: t)

namespace Segment

/-- A segment as it is written. -/
def written : Segment → List Char
  | bare c => [c]
  | escaped c => ['\\', c]
  | single s => '\'' :: s ++ ['\'']
  | double s => '"' :: s ++ ['"']

/-- A segment and the characters that it stands for. -/
inductive StandsFor : Segment → List Char → Prop
  | bare {c : Char} : Text.isBlank c = false → c ≠ '\'' → c ≠ '"' → c ≠ '\\' →
      StandsFor (.bare c) [c]
  | escaped (c : Char) : StandsFor (.escaped c) [c]
  | single {s : List Char} : '\'' ∉ s → StandsFor (.single s) s
  | double {s t : List Char} : Inside s t → StandsFor (.double s) t

end Segment

/-- A word as it may be written: segments without anything between them, and at least one. -/
inductive Rendering : List Char → List Char → Prop
  | one {segment : Segment} {part : List Char} : segment.StandsFor part →
      Rendering segment.written part
  | snoc {text word part : List Char} {segment : Segment} : Rendering text word →
      segment.StandsFor part → Rendering (text ++ segment.written) (word ++ part)

/-- A text of blanks alone. -/
def Blanks (s : List Char) : Prop :=
  ∀ c ∈ s, Text.isBlank c = true

/-- Renderings of words, with blanks between them. -/
inductive Spaced : List Char → List (List Char) → Prop
  | nil : Spaced [] []
  | one {text word : List Char} : Rendering text word → Spaced text [word]
  | snoc {line gap text word : List Char} {words : List (List Char)} : Spaced line words →
      words ≠ [] → gap ≠ [] → Blanks gap → Rendering text word →
      Spaced (line ++ gap ++ text) (words ++ [word])

/-- A command line and its words. -/
def Line (line : List Char) (words : List (List Char)) : Prop :=
  ∃ lead body trail, line = lead ++ body ++ trail ∧ Blanks lead ∧ Blanks trail ∧ Spaced body words

/-- A text at whose end no quotes are open: blanks and segments. -/
inductive Outside : List Char → Prop
  | nil : Outside []
  | blank {s : List Char} {c : Char} : Outside s → Text.isBlank c = true → Outside (s ++ [c])
  | segment {s part : List Char} {segment : Segment} : Outside s → segment.StandsFor part →
      Outside (s ++ segment.written)

/-- A quotation mark and what follows it, without the mark that closes it. -/
inductive Unclosed : List Char → Prop
  | single {s : List Char} : '\'' ∉ s → Unclosed ('\'' :: s)
  | double {s t : List Char} : Inside s t → Unclosed ('"' :: s)
  | doubleEscaped {s t : List Char} : Inside s t → Unclosed ('"' :: s ++ ['\\'])

/-- A line that ends inside quotes. -/
def EndsInQuotes (line : List Char) : Prop :=
  ∃ before quoted, line = before ++ quoted ∧ Outside before ∧ Unclosed quoted

/-- A line that ends right behind a backslash outside quotes, which no backslash stands before. -/
def EndsInEscape (line : List Char) : Prop :=
  ∃ before, line = before ++ ['\\'] ∧ Outside before

/-- No backslash stands right before a newline. -/
def Unbroken (s : List Char) : Prop :=
  ¬ ['\\', '\n'] <:+: s

instance (s : List Char) : Decidable (Unbroken s) :=
  inferInstanceAs (Decidable (¬ _))

namespace Unbroken

variable {s t : List Char}

/-- A part of a text without a backslash in front of a newline has none either. -/
theorem of_infix (h : Unbroken t) (hst : s <:+: t) : Unbroken s :=
  fun hs => h (hs.trans hst)

theorem of_append_left (h : Unbroken (s ++ t)) : Unbroken s :=
  h.of_infix (List.prefix_append s t).isInfix

theorem of_append_right (h : Unbroken (s ++ t)) : Unbroken t :=
  h.of_infix (List.suffix_append s t).isInfix

theorem of_cons {c : Char} (h : Unbroken (c :: s)) : Unbroken s :=
  h.of_infix (List.suffix_cons c s).isInfix

/-- Behind a backslash there is no newline. -/
theorem ne_newline {c : Char} (h : Unbroken ('\\' :: c :: s)) : c ≠ '\n' := by
  rintro rfl
  exact h (List.prefix_append ['\\', '\n'] s).isInfix

end Unbroken

/-! ## The reader accepts what the grammar allows -/

namespace Reader

variable {r : Reader}

/-- The reader drops a backslash between double quotes just where the grammar does. -/
theorem isEscapable_iff {c : Char} : isEscapable c = true ↔ c ∈ droppedBefore := by
  simp only [isEscapable, droppedBefore, Bool.or_eq_true, beq_iff_eq, List.mem_cons,
    List.not_mem_nil, or_false]
  tauto

/-- A backslash outside quotes begins an escape, and a word with it if none is begun. -/
theorem step_open_escape (hr : r.mode = .bare) : r.step '\\' = r.push [] .escaped := by
  rw [step, hr]
  rfl

/-- The character behind a backslash outside quotes belongs to the word, whatever it is. -/
theorem step_escaped (hr : r.mode = .escaped) {c : Char} (hc : c ≠ '\n') :
    r.step c = r.push [c] .bare := by
  rw [step, hr]
  exact if_neg hc

/-- Between double quotes a backslash stays in front of a character that needs none. -/
theorem step_kept (hr : r.mode = .doubleEscaped) {c : Char} (hc : c ∉ droppedBefore)
    (hline : c ≠ '\n') : r.step c = r.push ['\\', c] .double := by
  have hescapable : ¬ isEscapable c = true := fun h => hc (isEscapable_iff.1 h)
  rw [step, hr]
  dsimp only
  rw [if_neg hescapable, if_neg hline]

/-- Between apostrophes every character stands for itself. -/
theorem foldl_apart {s : List Char} (hs : '\'' ∉ s) (cs : List Char) :
    s.foldl step (r.push cs .single) = r.push (cs ++ s) .single := by
  have hone : ∀ c ∈ s, ∀ r : Reader, r.mode = .single → [c].foldl step r = r.push [c] .single := by
    intro c hc r hr
    exact step_single hr fun happos => hs (happos ▸ hc)
  have hread := foldl_flatMap hone r cs
  rwa [List.flatMap_singleton'] at hread

/-- Between double quotes the reader collects the characters that the text stands for. -/
theorem foldl_inside {s t : List Char} (h : Inside s t) (hs : Unbroken s) (cs : List Char) :
    s.foldl step (r.push cs .double) = r.push (cs ++ t) .double := by
  induction h generalizing cs with
  | nil => rw [List.append_nil, List.foldl_nil]
  | plain hquote hbackslash _ ih =>
    rw [List.foldl_cons, step_double (mode_push _ _ _) hquote hbackslash, push_push,
      ih hs.of_cons, List.append_assoc, List.singleton_append]
  | dropped hc _ ih =>
    rw [List.foldl_cons, List.foldl_cons, step_backslash (mode_push _ _ _),
      step_doubleEscaped (mode_push _ _ _) (isEscapable_iff.2 hc), push_push, push_push,
      ih hs.of_cons.of_cons, List.nil_append, List.append_assoc, List.singleton_append]
  | kept hc _ ih =>
    rw [List.foldl_cons, List.foldl_cons, step_backslash (mode_push _ _ _),
      step_kept (mode_push _ _ _) hc hs.ne_newline, push_push, push_push, ih hs.of_cons.of_cons,
      List.nil_append, List.append_assoc]
    rfl

end Reader

/-- A text between apostrophes spells itself. -/
theorem spells_apart {s : List Char} (hs : '\'' ∉ s) : Spells ('\'' :: s ++ ['\'']) s := by
  intro r hr
  rw [List.cons_append, List.foldl_cons, List.foldl_append, Reader.step_open_single hr,
    Reader.foldl_apart hs, List.foldl_cons, List.foldl_nil,
    Reader.step_close_single (Reader.mode_push _ _ _), Reader.push_push, List.nil_append,
    List.append_nil]

/-- A segment spells what it stands for, whatever the word is that it continues. -/
theorem Segment.StandsFor.spells {segment : Segment} {part : List Char}
    (h : segment.StandsFor part) (hs : Unbroken segment.written) : Spells segment.written part := by
  intro r hr
  cases h with
  | bare hblank happos hquote hbackslash =>
    exact Reader.step_bare hr happos hquote hbackslash hblank
  | escaped c =>
    rw [Segment.written, List.foldl_cons, List.foldl_cons, List.foldl_nil,
      Reader.step_open_escape hr, Reader.step_escaped (Reader.mode_push _ _ _) hs.ne_newline,
      Reader.push_push, List.nil_append]
  | single happos => exact spells_apart happos r hr
  | double hinside =>
    have hs' : Unbroken _ := hs.of_append_left.of_cons
    rw [Segment.written, List.cons_append, List.foldl_cons, List.foldl_append,
      Reader.step_open_double hr, Reader.foldl_inside hinside hs', List.foldl_cons, List.foldl_nil,
      Reader.step_close_double (Reader.mode_push _ _ _), Reader.push_push, List.nil_append,
      List.append_nil]

/-- A rendering spells its word: its segments do so one behind the other. -/
theorem Rendering.spells {text word : List Char} (h : Rendering text word) (hs : Unbroken text) :
    Spells text word := by
  induction h with
  | one hsegment => exact hsegment.spells hs
  | snoc _ hsegment ih =>
    exact (ih hs.of_append_left).append (hsegment.spells hs.of_append_right)

/-- A text that spells a word is a line of this word alone, which may be empty. -/
theorem splitChars_of_spells {text word : List Char} (h : Spells text word) :
    splitChars text = .ok [word] := by
  rw [splitChars, h {} rfl]
  rfl

/-- Renderings with blanks between them are split into their words. -/
theorem Spaced.splitChars_eq {line : List Char} {words : List (List Char)} (h : Spaced line words)
    (hs : Unbroken line) : splitChars line = .ok words := by
  induction h with
  | nil => rfl
  | one hword => exact splitChars_of_spells (hword.spells hs)
  | snoc _ _ hne hgap hword ih =>
    rw [splitChars_append (ih hs.of_append_left.of_append_left) hne hgap,
      splitChars_of_spells (hword.spells hs.of_append_right)]
    rfl

/-- A line that the grammar allows is split into its words. -/
theorem splitChars_of_line {line : List Char} {words : List (List Char)} (h : Line line words)
    (hs : Unbroken line) : splitChars line = .ok words := by
  obtain ⟨lead, body, trail, rfl, hlead, htrail, hbody⟩ := h
  have hfront : splitChars (lead ++ body) = .ok words := by
    rw [splitChars, List.foldl_append, Reader.foldl_blanks hlead []]
    exact hbody.splitChars_eq hs.of_append_left.of_append_right
  -- blanks behind the last word end it, and begin no other one
  by_cases hne : trail = []
  · rw [hne, List.append_nil]
    exact hfront
  · have hall := splitChars_append hfront hne htrail []
    rw [List.append_nil] at hall
    rw [hall]
    exact congrArg Except.ok (List.append_nil words)

/-! ## Where quotes are open -/

/-- The mode behind a character. It does not hang on the words, so a newline behind a backslash is a
character like any other here. -/
def Mode.next (mode : Mode) (c : Char) : Mode :=
  match mode with
  | .bare =>
    if c = '\'' then .single else if c = '"' then .double
    else if c = '\\' then .escaped else .bare
  | .escaped => .bare
  | .single => if c = '\'' then .bare else .single
  | .double => if c = '"' then .bare else if c = '\\' then .doubleEscaped else .double
  | .doubleEscaped => .double

/-- The mode follows the characters alone. -/
theorem Reader.mode_step (r : Reader) (c : Char) : (r.step c).mode = r.mode.next c := by
  unfold step Mode.next
  cases hr : r.mode with
  | bare =>
    dsimp only
    split_ifs
    · rfl
    · rfl
    · rfl
    · rw [mode_endWord, hr]
    · rfl
  | escaped | single | double | doubleEscaped =>
    dsimp only
    split_ifs <;> rfl

/-- The mode behind a text depends on the text and the mode in front of it alone. -/
theorem Reader.mode_foldl (r : Reader) (s : List Char) :
    (s.foldl step r).mode = s.foldl Mode.next r.mode := by
  induction s generalizing r with
  | nil => rfl
  | cons c s ih => rw [List.foldl_cons, List.foldl_cons, ih, mode_step]

/-- Without an apostrophe the reader does not get out from between apostrophes. -/
theorem next_foldl_apart {s : List Char} (h : '\'' ∉ s) : s.foldl Mode.next .single = .single := by
  induction s with
  | nil => rfl
  | cons c s ih =>
    obtain ⟨hc, hs⟩ := not_or.1 (mt List.mem_cons.2 h)
    rw [List.foldl_cons, Mode.next, if_neg (Ne.symm hc), ih hs]

/-- A text between double quotes does not close them. -/
theorem Inside.next_foldl {s t : List Char} (h : Inside s t) :
    s.foldl Mode.next .double = .double := by
  induction h with
  | nil => rfl
  | plain hquote hbackslash _ ih =>
    rw [List.foldl_cons, Mode.next, if_neg hquote, if_neg hbackslash, ih]
  | dropped _ _ ih => exact ih
  | kept _ _ ih => exact ih

/-- A segment closes every quote that it opens. -/
theorem Segment.StandsFor.next_foldl {segment : Segment} {part : List Char}
    (h : segment.StandsFor part) : segment.written.foldl Mode.next .bare = .bare := by
  cases h with
  | bare _ happos hquote hbackslash =>
    show Mode.next .bare _ = .bare
    rw [Mode.next, if_neg happos, if_neg hquote, if_neg hbackslash]
  | escaped c => rfl
  | single happos =>
    rw [Segment.written, List.cons_append, List.foldl_cons, List.foldl_append]
    show Mode.next (List.foldl Mode.next .single _) '\'' = .bare
    rw [next_foldl_apart happos]
    rfl
  | double hinside =>
    rw [Segment.written, List.cons_append, List.foldl_cons, List.foldl_append]
    show Mode.next (List.foldl Mode.next .double _) '"' = .bare
    rw [hinside.next_foldl]
    rfl

/-- Blanks and segments leave no quote open. -/
theorem Outside.next_foldl {s : List Char} (h : Outside s) : s.foldl Mode.next .bare = .bare := by
  induction h with
  | nil => rfl
  | @blank s c _ hc ih =>
    have hne {d : Char} (hd : Text.isBlank d = false) : c ≠ d := by
      rintro rfl
      rw [hc] at hd
      cases hd
    rw [List.foldl_append, ih, List.foldl_cons, List.foldl_nil, Mode.next, if_neg (hne (by decide)),
      if_neg (hne (by decide)), if_neg (hne (by decide))]
  | segment _ hsegment ih => rw [List.foldl_append, ih, hsegment.next_foldl]

/-- Behind blanks and segments the reader is outside quotes. -/
theorem Outside.mode_foldl {s : List Char} (h : Outside s) :
    (s.foldl Reader.step {}).mode = .bare := by
  rw [Reader.mode_foldl]
  exact h.next_foldl

/-- A line whose last quotes are not closed is refused for them. -/
theorem Unclosed.finish_foldl {quoted : List Char} (h : Unclosed quoted) (hs : Unbroken quoted)
    {r : Reader} (hr : r.mode = .bare) :
    (quoted.foldl Reader.step r).finish = .error .openQuote := by
  cases h with
  | single happos =>
    rw [List.foldl_cons, Reader.step_open_single hr, Reader.foldl_apart happos]
    rfl
  | double hinside =>
    rw [List.foldl_cons, Reader.step_open_double hr, Reader.foldl_inside hinside hs.of_cons]
    rfl
  | doubleEscaped hinside =>
    rw [List.cons_append, List.foldl_cons, List.foldl_append, Reader.step_open_double hr,
      Reader.foldl_inside hinside hs.of_append_left.of_cons, List.foldl_cons, List.foldl_nil,
      Reader.step_backslash (Reader.mode_push _ _ _)]
    rfl

/-- A line that ends inside quotes is refused. -/
theorem splitChars_of_endsInQuotes {line : List Char} (h : EndsInQuotes line)
    (hs : Unbroken line) : splitChars line = .error .openQuote := by
  obtain ⟨before, quoted, rfl, hbefore, hquoted⟩ := h
  rw [splitChars, List.foldl_append]
  exact hquoted.finish_foldl hs.of_append_right hbefore.mode_foldl

/-- A line that ends behind a backslash which escapes nothing is refused. -/
theorem splitChars_of_endsInEscape {line : List Char} (h : EndsInEscape line)
    (hs : Unbroken line) : splitChars line = .error .danglingEscape := by
  obtain ⟨before, rfl, hbefore⟩ := h
  rw [splitChars, List.foldl_append, List.foldl_cons, List.foldl_nil,
    Reader.step_open_escape hbefore.mode_foldl]
  rfl

/-! ## What the reader has read -/

/-- Two texts between double quotes make up one. -/
theorem Inside.append {s s' t t' : List Char} (h : Inside s t) (h' : Inside s' t') :
    Inside (s ++ s') (t ++ t') := by
  induction h with
  | nil => exact h'
  | plain hquote hbackslash _ ih => exact .plain hquote hbackslash ih
  | dropped hc _ ih => exact .dropped hc ih
  | kept hc _ ih => exact .kept hc ih

theorem Blanks.append {s t : List Char} (hs : Blanks s) (ht : Blanks t) : Blanks (s ++ t) :=
  fun c hc => (List.mem_append.1 hc).elim (hs c) (ht c)

theorem Blanks.singleton {c : Char} (hc : Text.isBlank c = true) : Blanks [c] :=
  List.forall_mem_singleton.2 hc

/-- A text behind which a word may begin, with the words in it. -/
def Ready (front : List Char) (words : List (List Char)) : Prop :=
  ∃ lead body gap, front = lead ++ body ++ gap ∧ Blanks lead ∧ Blanks gap ∧ Spaced body words ∧
    (words ≠ [] → gap ≠ [])

/-- The segments of the word that is read, if one is begun. -/
def Begun (text : List Char) : Option (List Char) → Prop
  | none => text = []
  | some word => Rendering text word

/-- The part of a segment that was read before its end, by the way the next character is read, and
what it stands for so far. -/
inductive Opened : Mode → List Char → List Char → Prop
  | escaped : Opened .escaped ['\\'] []
  | single {s : List Char} : '\'' ∉ s → Opened .single ('\'' :: s) s
  | double {s t : List Char} : Inside s t → Opened .double ('"' :: s) t
  | doubleEscaped {s t : List Char} : Inside s t → Opened .doubleEscaped ('"' :: s ++ ['\\']) t

/-- What the state of the reader says of the text that it has read. -/
inductive Reader.Tells : Reader → List Char → Prop
  | bare {front text : List Char} {word : Option (List Char)} {done : List (List Char)} :
      Ready front done → Begun text word → Tells ⟨.bare, word, done⟩ (front ++ text)
  | opened {front text piece part : List Char} {word : Option (List Char)}
      {done : List (List Char)} {mode : Mode} : Ready front done → Begun text word →
      Opened mode piece part →
      Tells ⟨mode, some (word.getD [] ++ part), done⟩ (front ++ text ++ piece)

/-- No words are rendered by the empty text alone. -/
theorem Spaced.eq_nil {body : List Char} {words : List (List Char)} (h : Spaced body words)
    (hnone : words = []) : body = [] := by
  cases h with
  | nil => rfl
  | one => cases hnone
  | snoc => exact absurd hnone (List.append_ne_nil_of_right_ne_nil _ (List.cons_ne_nil _ _))

namespace Outside

variable {s : List Char}

/-- Blanks open no quotes. -/
theorem blanks (h : Outside s) {gap : List Char} (hgap : Blanks gap) : Outside (s ++ gap) := by
  induction gap generalizing s with
  | nil => rwa [List.append_nil]
  | cons c gap ih =>
    obtain ⟨hc, hrest⟩ := List.forall_mem_cons.1 hgap
    rw [List.append_cons]
    exact ih (h.blank hc) hrest

/-- The rendering of a word opens no quotes that it does not close. -/
theorem rendering (h : Outside s) {text word : List Char} (hword : Rendering text word) :
    Outside (s ++ text) := by
  induction hword with
  | one hsegment => exact h.segment hsegment
  | snoc _ hsegment ih =>
    rw [← List.append_assoc]
    exact ih.segment hsegment

/-- Renderings with blanks between them open no quotes that they do not close. -/
theorem spaced (h : Outside s) {line : List Char} {words : List (List Char)}
    (hline : Spaced line words) : Outside (s ++ line) := by
  induction hline with
  | nil => rwa [List.append_nil]
  | one hword => exact h.rendering hword
  | snoc _ _ _ hgap hword ih =>
    rw [← List.append_assoc, ← List.append_assoc]
    exact (ih.blanks hgap).rendering hword

end Outside

/-- At the beginning of a line a word may begin, and none is read. -/
theorem ready_nil : Ready [] [] :=
  ⟨[], [], [], rfl, nofun, nofun, .nil, fun h => absurd rfl h⟩

namespace Ready

variable {front text word : List Char} {words : List (List Char)}

/-- A line that ends where a word may begin is made of the words before. -/
theorem line (h : Ready front words) : Line front words := by
  obtain ⟨lead, body, gap, rfl, hlead, hgap, hbody, -⟩ := h
  exact ⟨lead, body, gap, rfl, hlead, hgap, hbody⟩

/-- Behind a blank a word may begin, and the words are the same. -/
theorem blank (h : Ready front words) {c : Char} (hc : Text.isBlank c = true) :
    Ready (front ++ [c]) words := by
  obtain ⟨lead, body, gap, rfl, hlead, hgap, hbody, -⟩ := h
  refine ⟨lead, body, gap ++ [c], by simp, hlead, hgap.append (.singleton hc), hbody, ?_⟩
  intro _
  exact List.append_ne_nil_of_right_ne_nil _ (List.cons_ne_nil _ _)

/-- One more word behind those before. -/
theorem exists_spaced (h : Ready front words) (hword : Rendering text word) :
    ∃ lead body, front ++ text = lead ++ body ∧ Blanks lead ∧ Spaced body (words ++ [word]) := by
  obtain ⟨lead, body, gap, rfl, hlead, hgap, hbody, hne⟩ := h
  by_cases hnone : words = []
  · -- in front of the first word there are blanks alone
    rw [hbody.eq_nil hnone, List.append_nil, hnone]
    exact ⟨lead ++ gap, text, rfl, hlead.append hgap, .one hword⟩
  · exact ⟨lead, body ++ gap ++ text, by simp, hlead, .snoc hbody hnone (hne hnone) hgap hword⟩

/-- Where a word may begin, no quotes are open. -/
theorem outside (h : Ready front words) : Outside front := by
  obtain ⟨lead, body, gap, rfl, hlead, hgap, hbody, -⟩ := h
  exact ((Outside.nil.blanks hlead).spaced hbody).blanks hgap

end Ready

namespace Begun

variable {text part : List Char} {word : Option (List Char)} {segment : Segment}

/-- A segment continues the word that is begun, or begins one. -/
theorem snoc (h : Begun text word) (hsegment : segment.StandsFor part) :
    Rendering (text ++ segment.written) (word.getD [] ++ part) := by
  cases word with
  | none =>
    rw [show text = [] from h]
    exact .one hsegment
  | some word => exact .snoc h hsegment

/-- A word that is begun has no quotes open, as long as its segments are complete. -/
theorem outside (h : Begun text word) {front : List Char} (hfront : Outside front) :
    Outside (front ++ text) := by
  cases word with
  | none =>
    rw [show text = [] from h, List.append_nil]
    exact hfront
  | some word => exact hfront.rendering h

end Begun

namespace Reader.Tells

variable {front text : List Char} {word : Option (List Char)} {done : List (List Char)}

/-- A segment that is complete belongs to the word. -/
theorem closed (hfront : Ready front done) (htext : Begun text word) {segment : Segment}
    {part : List Char} (hsegment : segment.StandsFor part) :
    Tells ⟨.bare, some (word.getD [] ++ part), done⟩ (front ++ text ++ segment.written) := by
  rw [List.append_assoc]
  exact .bare hfront (htext.snoc hsegment)

/-- A blank outside quotes ends the word, and another one may begin behind it. -/
theorem blank (hfront : Ready front done) (htext : Begun text word) {c : Char}
    (hc : Text.isBlank c = true) :
    Tells (endWord ⟨.bare, word, done⟩) (front ++ text ++ [c]) := by
  have hready : Ready (front ++ text ++ [c]) (endWord ⟨.bare, word, done⟩).done := by
    cases word with
    | none =>
      rw [show text = [] from htext, List.append_nil]
      exact hfront.blank hc
    | some word =>
      obtain ⟨lead, body, hall, hlead, hbody⟩ := hfront.exists_spaced htext
      rw [hall]
      exact ⟨lead, body, [c], rfl, hlead, .singleton hc, hbody, fun _ => List.cons_ne_nil c []⟩
  have hnone : Begun [] none := rfl
  have htells := bare hready hnone
  rw [List.append_nil] at htells
  cases word with
  | none => exact htells
  | some word => exact htells

/-- Outside quotes a character opens a segment, ends the word if it is a blank, or is a segment of
its own. -/
theorem step_outside (hfront : Ready front done) (htext : Begun text word) (c : Char) :
    Tells (step ⟨.bare, word, done⟩ c) (front ++ text ++ [c]) := by
  unfold step
  dsimp only
  split_ifs with happos hquote hbackslash hblank
  · subst happos
    exact opened hfront htext (.single List.not_mem_nil)
  · subst hquote
    exact opened hfront htext (.double .nil)
  · subst hbackslash
    exact opened hfront htext .escaped
  · exact blank hfront htext hblank
  · exact closed hfront htext
      (.bare (Bool.eq_false_of_not_eq_true hblank) happos hquote hbackslash)

/-- A character inside a segment ends it, so that the word has one segment more, or it goes on in
the way that the mode says. A backslash between double quotes is settled by the character behind it.
-/
theorem step_opened (hfront : Ready front done) (htext : Begun text word) {mode : Mode}
    {piece part : List Char} (hpiece : Opened mode piece part) {c : Char}
    (hs : Unbroken (piece ++ [c])) :
    Tells (step ⟨mode, some (word.getD [] ++ part), done⟩ c) (front ++ text ++ piece ++ [c]) := by
  unfold step
  -- a character closes the segment, which is then one of the word, or it goes on in the same way
  cases hpiece with
  | escaped =>
    have htells := closed hfront htext (.escaped c)
    dsimp only
    rw [if_neg hs.ne_newline]
    simpa [push, Segment.written] using htells
  | single happos =>
    dsimp only
    split_ifs with hc
    · have htells := closed hfront htext (.single happos)
      simpa [push, Segment.written, hc] using htells
    · have hmore : '\'' ∉ _ ++ [c] := List.not_mem_append happos (by simpa using Ne.symm hc)
      simpa [push] using opened hfront htext (.single hmore)
  | double hinside =>
    dsimp only
    split_ifs with hquote hbackslash
    · have htells := closed hfront htext (.double hinside)
      simpa [push, Segment.written, hquote] using htells
    · simpa [push, hbackslash] using opened hfront htext (.doubleEscaped hinside)
    · have hmore := hinside.append (.plain hquote hbackslash .nil)
      simpa [push] using opened hfront htext (.double hmore)
  | doubleEscaped hinside =>
    -- here the reader has a third way, to drop both characters, which a newline alone would take
    have hline : c ≠ '\n' := by
      rw [List.append_assoc] at hs
      exact hs.of_append_right.ne_newline
    dsimp only
    split_ifs with hescapable
    · have hmore := hinside.append (.dropped (isEscapable_iff.1 hescapable) .nil)
      simpa [push] using opened hfront htext (.double hmore)
    · have hkept : c ∉ droppedBefore := fun h => hescapable (isEscapable_iff.2 h)
      have hmore := hinside.append (.kept hkept .nil)
      simpa [push] using opened hfront htext (.double hmore)

/-- What the state says stays true with every character that is read. -/
theorem step {r : Reader} {s : List Char} (h : r.Tells s) {c : Char} (hs : Unbroken (s ++ [c])) :
    (r.step c).Tells (s ++ [c]) := by
  cases h with
  | bare hfront htext => exact step_outside hfront htext c
  | opened hfront htext hpiece =>
    rw [List.append_assoc] at hs
    exact step_opened hfront htext hpiece hs.of_append_right

/-- The state after a whole text tells what the text is. -/
theorem foldl (s : List Char) (hs : Unbroken s) : (s.foldl Reader.step {}).Tells s := by
  -- the state tells of what was read, so the text grows at its end
  induction s using List.reverseRecOn with
  | nil => exact bare ready_nil rfl
  | append_singleton s c ih =>
    rw [List.foldl_append]
    exact (ih hs.of_append_left).step hs

/-- If the reader ends with words, its text is a line of these words. -/
theorem line {r : Reader} {s : List Char} (h : r.Tells s) {words : List (List Char)}
    (hfinish : r.finish = .ok words) : Line s words := by
  cases h with
  | @bare front text word done hfront htext =>
    cases hfinish
    cases word with
    | none =>
      rw [show text = [] from htext, List.append_nil]
      exact hfront.line
    | some word =>
      obtain ⟨lead, body, hall, hlead, hbody⟩ := hfront.exists_spaced htext
      exact ⟨lead, body, [], by rw [hall, List.append_nil], hlead, nofun, hbody⟩
  | opened _ _ hpiece =>
    cases hpiece with
    | escaped | single | double | doubleEscaped => cases hfinish

/-- If the reader ends with an error, its text has quotes or an escape open at the end. -/
theorem endsOpen {r : Reader} {s : List Char} (h : r.Tells s) {e : SplitError}
    (hfinish : r.finish = .error e) :
    e = .openQuote ∧ EndsInQuotes s ∨ e = .danglingEscape ∧ EndsInEscape s := by
  cases h with
  | bare => cases hfinish
  | opened hfront htext hpiece =>
    have houtside := htext.outside hfront.outside
    cases hpiece with
    | escaped =>
      cases hfinish
      exact .inr ⟨rfl, _, rfl, houtside⟩
    | single happos =>
      cases hfinish
      exact .inl ⟨rfl, _, _, rfl, houtside, .single happos⟩
    | double hinside =>
      cases hfinish
      exact .inl ⟨rfl, _, _, rfl, houtside, .double hinside⟩
    | doubleEscaped hinside =>
      cases hfinish
      exact .inl ⟨rfl, _, _, rfl, houtside, .doubleEscaped hinside⟩

end Reader.Tells

/-! ## Lines and words -/

/-- The reader finds words exactly where the grammar does, and the same ones. -/
theorem splitChars_eq_ok_iff {line : List Char} (hs : Unbroken line) {words : List (List Char)} :
    splitChars line = .ok words ↔ Line line words :=
  ⟨(Reader.Tells.foldl line hs).line, fun h => splitChars_of_line h hs⟩

/-- The reader misses a quotation mark exactly on lines that end inside quotes. -/
theorem splitChars_eq_openQuote_iff {line : List Char} (hs : Unbroken line) :
    splitChars line = .error .openQuote ↔ EndsInQuotes line := by
  refine ⟨fun h => ?_, fun h => splitChars_of_endsInQuotes h hs⟩
  obtain ⟨-, hends⟩ | ⟨he, -⟩ := (Reader.Tells.foldl line hs).endsOpen h
  · exact hends
  · cases he

/-- The reader misses an escaped character exactly on lines that end behind a backslash. -/
theorem splitChars_eq_danglingEscape_iff {line : List Char} (hs : Unbroken line) :
    splitChars line = .error .danglingEscape ↔ EndsInEscape line := by
  refine ⟨fun h => ?_, fun h => splitChars_of_endsInEscape h hs⟩
  obtain ⟨he, -⟩ | ⟨-, hends⟩ := (Reader.Tells.foldl line hs).endsOpen h
  · cases he
  · exact hends

/-- Strings are split as their characters are. -/
theorem split_eq_ok_iff {input : String} {words : List String} :
    split input = .ok words ↔ splitChars input.toList = .ok (words.map String.toList) := by
  refine ⟨splitChars_toList_eq_ok, fun h => ?_⟩
  rw [split, h]
  simp [Except.map]

/-- Strings are refused as their characters are, with the same error. -/
theorem split_eq_error_iff {input : String} {e : SplitError} :
    split input = .error e ↔ splitChars input.toList = .error e := by
  rw [split]
  cases splitChars input.toList with
  | error => simp [Except.map]
  | ok => simp [Except.map]

/-- A text is split into words exactly if it is a line of these words by the grammar. All other
texts are refused, and these are the ones that end inside quotes or behind a backslash that escapes
nothing. -/
theorem split_iff_line (input : String) (hinput : Unbroken input.toList) :
    (∀ words, split input = .ok words ↔ Line input.toList (words.map String.toList)) ∧
      ((∃ e, split input = .error e) ↔
        ¬ ∃ words : List String, Line input.toList (words.map String.toList)) ∧
      ((∃ e, split input = .error e) ↔
        EndsInQuotes input.toList ∨ EndsInEscape input.toList) ∧
      (split input = .error .openQuote ↔ EndsInQuotes input.toList) ∧
      (split input = .error .danglingEscape ↔ EndsInEscape input.toList) := by
  have hok (words : List String) :
      split input = .ok words ↔ Line input.toList (words.map String.toList) :=
    split_eq_ok_iff.trans (splitChars_eq_ok_iff hinput)
  have hquote : split input = .error .openQuote ↔ EndsInQuotes input.toList :=
    split_eq_error_iff.trans (splitChars_eq_openQuote_iff hinput)
  have hescape : split input = .error .danglingEscape ↔ EndsInEscape input.toList :=
    split_eq_error_iff.trans (splitChars_eq_danglingEscape_iff hinput)
  refine ⟨hok, ?_, ?_, hquote, hescape⟩
  · simp only [← hok]
    cases split input with
    | error e => simp
    | ok words => simp
  · rw [← hquote, ← hescape]
    constructor
    · rintro ⟨_ | _, he⟩
      · exact .inl he
      · exact .inr he
    · rintro (he | he)
      · exact ⟨_, he⟩
      · exact ⟨_, he⟩

/-- Quotes in the middle of a word, an empty word and an escaped space make up a line of four words.
Without its last quotation mark, such a line ends inside quotes. -/
theorem split_iff_line_glued :
    (Unbroken "a'b c'\"d\\\"\\e\"  '' f\\ g $h ".toList ∧
      Line "a'b c'\"d\\\"\\e\"  '' f\\ g $h ".toList
        (["ab cd\"\\e", "", "f g", "$h"].map String.toList)) ∧
      Unbroken "a \"b'\\\"".toList ∧ EndsInQuotes "a \"b'\\\"".toList := by
  have hline : Unbroken "a'b c'\"d\\\"\\e\"  '' f\\ g $h ".toList := by decide +kernel
  have hopen : Unbroken "a \"b'\\\"".toList := by decide +kernel
  refine ⟨⟨hline, ?_⟩, hopen, ?_⟩
  · exact ((split_iff_line _ hline).1 _).1 (by decide +kernel)
  · exact (split_iff_line _ hopen).2.2.2.1.1 (by decide +kernel)

end ChrootScan.Shell
