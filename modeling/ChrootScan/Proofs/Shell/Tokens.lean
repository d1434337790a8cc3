import ChrootScan.Proofs.Shell.DoubleQuotes
import ChrootScan.Shell.Words

/-!
# Tokens, as a shell finds them

A shell cuts a command line into words and operators before it does anything else, and a character
of a word is literal unless it begins an expansion or makes up a pattern. `Lexer` does this by the
rules of POSIX alone, and between double quotes by those of `DoubleQuotes` (`Lexer.foldl_readInside`).

A value that is put between quotes as it is, is read as one literal word with this value in exactly
those cases in which nothing in it closes the quotes or is special inside (`reads_single_iff`,
`reads_double_iff`): once a character was read that is no part of the word, the word is behind the
value for good (`Pending`). A value that was quoted with escapes is part of one word as it is, but
for its backquotes (`Lexer.foldl_quote`).
-/

namespace ChrootScan.Shell

open DoubleQuotes (Piece)

/-! ## The rules -/

/-- What a shell makes of a character of a word. -/
inductive Part
  | literal (c : Char)
  /-- A character that has, or may have, a meaning of its own. -/
  | active (c : Char)
deriving DecidableEq, Repr

inductive Token
  | word (parts : List Part)
  /-- A character that combines or redirects commands. If it is `joined` to the word before it, this
  word may be the number of a file. -/
  | operator (c : Char) (joined : Bool)
deriving DecidableEq, Repr

/-- The blanks between words. -/
def isSeparator (c : Char) : Bool :=
  c == ' ' || c == '\t'

/-- The characters outside quotes that end words and are no part of them. -/
def isOperator (c : Char) : Bool :=
  ['|', '&', ';', '<', '>', '(', ')', '\n'].contains c

/-- The characters outside quotes that begin an expansion or a comment, make up a pattern or are
words with a meaning. -/
def isActive (c : Char) : Bool :=
  ['$', '`', '*', '?', '[', ']', '~', '#', '!', '{', '}', '^'].contains c

/-- What a piece between double quotes is in a word. -/
def Part.ofPiece : Piece → Part
  | .literal c => .literal c
  | .expansion => .active '$'
  | .substitution => .active '`'

/-- The state of a shell that reads a command line: `word` is the word begun. -/
structure Lexer where
  mode : Mode := .bare
  word : Option (List Part) := none
  done : List Token := []
deriving DecidableEq, Repr

namespace Lexer

def push (l : Lexer) (parts : List Part) (mode : Mode) : Lexer :=
  { l with mode := mode, word := some (l.word.getD [] ++ parts) }

def endWord (l : Lexer) : Lexer :=
  match l.word with
  | none => l
  | some parts => { l with word := none, done := l.done ++ [.word parts] }

def operate (l : Lexer) (c : Char) : Lexer :=
  { l.endWord with done := l.endWord.done ++ [.operator c l.word.isSome] }

def step (l : Lexer) (c : Char) : Lexer :=
  match l.mode with
  | .bare =>
    if c = '\'' then l.push [] .single
    else if c = '"' then l.push [] .double
    else if c = '\\' then { l with mode := .escaped }
    else if isSeparator c then l.endWord
    else if isOperator c then l.operate c
    else l.push [if isActive c then .active c else .literal c] .bare
  | .escaped => if c = '\n' then { l with mode := .bare } else l.push [.literal c] .bare
  | .single => if c = '\'' then l.push [] .bare else l.push [.literal c] .single
  | .double =>
    if c = '"' then l.push [] .bare
    else if c = '\\' then { l with mode := .doubleEscaped }
    else l.push [.ofPiece (.bare c)] .double
  | .doubleEscaped => l.push ((Piece.escaped c).map .ofPiece) .double

end Lexer

/-- A text is read as these tokens, and all quotes are closed. -/
def ReadsAs (cs : List Char) (tokens : List Token) : Prop :=
  (cs.foldl Lexer.step {}).endWord = { done := tokens }

instance (cs : List Char) (tokens : List Token) : Decidable (ReadsAs cs tokens) :=
  inferInstanceAs (Decidable (_ = _))

/-- A text as a word that means nothing else. -/
def Token.text (s : String) : Token :=
  .word (s.toList.map .literal)

/-- The operator between two commands of a pipeline. -/
def Token.bar : Token :=
  .operator '|' false

/-- The operator in front of a file that is written to. -/
def Token.into : Token :=
  .operator '>' false

/-- A text that can stand between double quotes as it is: nothing in it is special there. A
backslash is not, in front of a character that is not. -/
def standsInQuotes : List Char → Bool
  | [] => true
  | ['\\'] => false
  | '\\' :: c :: rest => !DoubleQuotes.isSpecial c && c != '\n' && standsInQuotes rest
  | c :: rest => !DoubleQuotes.isSpecial c && standsInQuotes rest

/-! ## Between double quotes -/

namespace Part

theorem ofPiece_bare (c : Char) :
    ofPiece (.bare c) = if c = '$' ∨ c = '`' then active c else literal c := by
  by_cases hdollar : c = '$'
  · rw [if_pos (.inl hdollar), Piece.bare, if_pos hdollar, hdollar, ofPiece]
  by_cases hback : c = '`'
  · rw [if_pos (.inr hback), Piece.bare, if_neg hdollar, if_pos hback, hback, ofPiece]
  · rw [if_neg (not_or.2 ⟨hdollar, hback⟩), Piece.bare, if_neg hdollar, if_neg hback, ofPiece]

theorem map_ofPiece_escaped (c : Char) :
    (Piece.escaped c).map ofPiece = if DoubleQuotes.isSpecial c then [literal c]
      else if c = '\n' then [] else [literal '\\', literal c] := by
  rw [Piece.escaped]
  split_ifs <;> rfl

end Part

/-! ## Parts of a command line -/

namespace Lexer

variable {l : Lexer} {before : List Token}

/-- The reader with tokens in front of its own. -/
def behind (before : List Token) (l : Lexer) : Lexer :=
  { l with done := before ++ l.done }

@[simp] theorem mode_endWord : l.endWord.mode = l.mode := by
  unfold endWord
  split <;> rfl

/-- A space outside quotes ends the word. -/
theorem step_space (h : l.mode = .bare) : l.step ' ' = l.endWord := by
  rw [step, h]
  rfl

/-- Tokens that are complete stay so. -/
theorem exists_done_endWord (l : Lexer) : ∃ more, l.endWord.done = l.done ++ more := by
  unfold endWord
  split
  · exact ⟨[], (List.append_nil _).symm⟩
  · exact ⟨_, rfl⟩

/-- A character completes tokens behind those that are complete, and changes none of them. -/
theorem exists_done_step (l : Lexer) (c : Char) : ∃ more, (l.step c).done = l.done ++ more := by
  have hsame : ∃ more, l.done = l.done ++ more := ⟨[], (List.append_nil _).symm⟩
  have hoperate : ∃ more, (l.operate c).done = l.done ++ more := by
    obtain ⟨more, hmore⟩ := l.exists_done_endWord
    exact ⟨more ++ [.operator c l.word.isSome], by rw [operate, hmore, List.append_assoc]⟩
  unfold step
  split
  · split_ifs
    · exact hsame
    · exact hsame
    · exact hsame
    · exact l.exists_done_endWord
    · exact hoperate
    · exact hsame
    · exact hsame
  · split_ifs <;> exact hsame
  · split_ifs <;> exact hsame
  · split_ifs <;> exact hsame
  · exact hsame

theorem endWord_behind : (l.behind before).endWord = l.endWord.behind before := by
  rcases l with ⟨mode, _ | word, done⟩
  · rfl
  · simp [behind, endWord]

theorem operate_behind (c : Char) : (l.behind before).operate c = (l.operate c).behind before := by
  have hword : (l.behind before).word = l.word := rfl
  rw [operate, endWord_behind, hword, operate, behind, behind, List.append_assoc]

/-- No step looks at the tokens that are complete. -/
theorem step_behind (c : Char) : (l.behind before).step c = (l.step c).behind before := by
  have hmode : (l.behind before).mode = l.mode := rfl
  have hpush (parts : List Part) (mode : Mode) :
      (l.behind before).push parts mode = (l.push parts mode).behind before := rfl
  unfold step
  rw [hmode]
  cases l.mode with
  | bare =>
    dsimp only
    rw [endWord_behind, operate_behind]
    simp only [hpush]
    split_ifs <;> rfl
  | escaped | single | double =>
    dsimp only
    simp only [hpush]
    split_ifs <;> rfl
  | doubleEscaped => rfl

theorem foldl_behind (cs : List Char) :
    cs.foldl step (l.behind before) = (cs.foldl step l).behind before := by
  induction cs generalizing l with
  | nil => rfl
  | cons c cs ih => rw [List.foldl_cons, List.foldl_cons, step_behind, ih]

theorem behind_eq_iff {t : List Token} :
    l.behind before = { done := before ++ t } ↔ l = { done := t } := by
  rcases l with ⟨mode, word, done⟩
  simp [behind]

end Lexer

/-- What follows a word: nothing, or a space. -/
def Apart (cs : List Char) : Prop :=
  cs = [] ∨ ∃ rest, cs = ' ' :: rest

/-- Spaces in front of a line do not count. -/
theorem readsAs_space_iff {y : List Char} {t : List Token} :
    ReadsAs (' ' :: y) t ↔ ReadsAs y t :=
  Iff.rfl

/-- Behind complete tokens, a line is read as if it began there. -/
theorem readsAs_append_iff {x y : List Char} {s t : List Token}
    (hx : x.foldl Lexer.step {} = { done := s }) :
    ReadsAs (x ++ y) (s ++ t) ↔ ReadsAs y t := by
  have hbehind : ({ done := s } : Lexer) = Lexer.behind s {} := by
    simp [Lexer.behind]
  rw [ReadsAs, List.foldl_append, hx, hbehind, Lexer.foldl_behind, Lexer.endWord_behind,
    Lexer.behind_eq_iff, ReadsAs]

/-- Behind a part that is read, a line is read as if it began there. -/
theorem readsAs_behind_iff {x y : List Char} {s t : List Token} (hx : ReadsAs x s) (hy : Apart y) :
    ReadsAs (x ++ y) (s ++ t) ↔ ReadsAs y t := by
  obtain rfl | ⟨rest, rfl⟩ := hy
  · rw [List.append_nil, ReadsAs, hx, ReadsAs]
    simp [Lexer.endWord]
  · -- the space ends the word that the part may have left open
    have hmode : (x.foldl Lexer.step {}).mode = .bare := by
      have hend := congrArg Lexer.mode hx
      rwa [Lexer.mode_endWord] at hend
    have hspace : (x ++ [' ']).foldl Lexer.step {} = { done := s } := by
      rw [List.foldl_append, List.foldl_cons, List.foldl_nil, Lexer.step_space hmode, hx]
    rw [List.append_cons, readsAs_append_iff hspace, readsAs_space_iff]

/-! ## Words that are behind -/

namespace Lexer

variable {l : Lexer} {v : List Char} {p : List Part}

/-- A token that is complete stays the first one. -/
theorem head?_done_foldl {token : Token} (h : l.done.head? = some token) (cs : List Char) :
    (cs.foldl step l).done.head? = some token := by
  induction cs generalizing l with
  | nil => exact h
  | cons c cs ih =>
    obtain ⟨more, hmore⟩ := exists_done_step l c
    refine ih ?_
    rw [hmore, List.head?_append, h, Option.some_or]

/-- The first word is read so far, and nothing else. -/
def inWord (mode : Mode) (parts : List Part) : Lexer :=
  { mode := mode, word := some parts }

/-- The first word begins with these parts, whether it is complete or not. -/
def Begins (p : List Part) (l : Lexer) : Prop :=
  (l.done = [] ∧ ∃ q, l.word = some (p ++ q)) ∨ ∃ q, l.done.head? = some (.word (p ++ q))

theorem Begins.push (h : l.done = []) {q : List Part} (hword : l.word = some (p ++ q))
    (parts : List Part) (mode : Mode) : Begins p (l.push parts mode) := by
  refine .inl ⟨h, q ++ parts, ?_⟩
  rw [Lexer.push, hword, Option.getD_some, List.append_assoc]

/-- A word that ends begins as it did before. -/
theorem Begins.endWord (h : Begins p l) : ∃ q, l.endWord.done.head? = some (.word (p ++ q)) := by
  obtain ⟨hdone, q, hword⟩ | ⟨q, hhead⟩ := h
  · refine ⟨q, ?_⟩
    rw [Lexer.endWord, hword, hdone]
    rfl
  · obtain ⟨more, hmore⟩ := l.exists_done_endWord
    refine ⟨q, ?_⟩
    rw [hmore, List.head?_append, hhead, Option.some_or]

/-- No character takes anything back of what the first word begins with: it adds to the word, ends
it, or is read behind it. -/
theorem Begins.step (h : Begins p l) (c : Char) : Begins p (l.step c) := by
  obtain ⟨q, hend⟩ := h.endWord
  obtain ⟨hdone, q', hword⟩ | ⟨q', hhead⟩ := h
  · have hpush := Begins.push hdone hword
    have hmode (mode : Mode) : Begins p { l with mode := mode } := .inl ⟨hdone, q', hword⟩
    have hoperate : Begins p (l.operate c) := by
      refine .inr ⟨q, ?_⟩
      rw [operate, List.head?_append, hend, Option.some_or]
    unfold Lexer.step
    split
    · split_ifs
      · exact hpush _ _
      · exact hpush _ _
      · exact hmode _
      · exact .inr ⟨q, hend⟩
      · exact hoperate
      · exact hpush _ _
      · exact hpush _ _
    · split_ifs
      · exact hmode _
      · exact hpush _ _
    · split_ifs <;> exact hpush _ _
    · split_ifs
      · exact hpush _ _
      · exact hmode _
      · exact hpush _ _
    · exact hpush _ _
  · obtain ⟨more, hmore⟩ := exists_done_step l c
    refine .inr ⟨q', ?_⟩
    rw [hmore, List.head?_append, hhead, Option.some_or]

theorem Begins.foldl (h : Begins p l) (cs : List Char) : Begins p (cs.foldl Lexer.step l) := by
  induction cs generalizing l with
  | nil => exact h
  | cons c cs ih => exact ih (h.step c)

/-- Whatever follows, the first token will not be this word. -/
def Lost (v : List Char) (l : Lexer) : Prop :=
  ∀ cs : List Char, (cs.foldl step l).endWord.done.head? ≠ some (.word (v.map .literal))

/-- A word that begins otherwise is another one. -/
theorem lost_of_begins (h : Begins p l) (hp : ¬ p <+: v.map .literal) : Lost v l := by
  intro cs hread
  obtain ⟨q, hend⟩ := (h.foldl cs).endWord
  rw [hend] at hread
  exact hp ⟨q, Token.word.inj (Option.some.inj hread)⟩

theorem lost_inWord {mode : Mode} (hp : ¬ p <+: v.map .literal) : Lost v (inWord mode p) :=
  lost_of_begins (.inl ⟨rfl, [], by rw [inWord, List.append_nil]⟩) hp

/-- A word that is lost is not read, whatever is behind it. -/
theorem Lost.ne (h : Lost v l) (cs : List Char) (t : List Token) :
    (cs.foldl step l).endWord ≠ { done := .word (v.map .literal) :: t } := by
  intro hread
  refine h cs ?_
  rw [hread]
  rfl

/-- A word that is complete is another one if it is not this one. -/
theorem lost_of_head? (h : l.done.head? = some (.word p)) (hp : p ≠ v.map .literal) :
    Lost v l := by
  intro cs hread
  obtain ⟨more, hmore⟩ := (cs.foldl step l).exists_done_endWord
  rw [hmore, List.head?_append, head?_done_foldl h cs, Option.some_or] at hread
  exact hp (Token.word.inj (Option.some.inj hread))

/-! ## Values that are not read -/

/-- The characters that quotes are made of. -/
def isMark (c : Char) : Bool :=
  c == '\'' || c == '"' || c == '\\' || c == '\n'

/-- The word is behind the value: of what was read of the value, `pending` is not yet in the word,
and all of that are marks. Behind a backslash that waits for the next character, at least one mark
more is pending. -/
structure Pending (v : List Char) (l : Lexer) (pending rest : List Char) : Prop where
  reads : ∃ mode word, l = inWord mode (word.map .literal) ∧ v = word ++ pending ++ rest ∧
    (mode = .escaped ∨ mode = .doubleEscaped → 2 ≤ pending.length)
  marks : ∀ c ∈ pending, isMark c = true
  ne_nil : pending ≠ []

/-- What a character adds to the word, and where the next one stands. -/
inductive Adds (mode : Mode) (c : Char) : List Part → Mode → Prop
  | nothing {next : Mode} (hc : isMark c = true)
      (hnext : next = .escaped ∨ next = .doubleEscaped → mode = .bare ∨ mode = .double) :
      Adds mode c [] next
  | itself {next : Mode} (hnext : ¬ (next = .escaped ∨ next = .doubleEscaped))
      (hbare : next = .bare → mode = .escaped ∨ isMark c = false) : Adds mode c [.literal c] next
  | active {next : Mode} : Adds mode c [.active c] next
  | both (hmode : mode = .doubleEscaped) : Adds mode c [.literal '\\', .literal c] .double

/-- A character outside quotes ends the word; any other one adds to it. -/
theorem step_inWord (mode : Mode) (p : List Part) (c : Char) :
    (mode = .bare ∧ ((inWord mode p).step c).done.head? = some (.word p)) ∨
      ∃ q next, (inWord mode p).step c = inWord next (p ++ q) ∧ Adds mode c q next := by
  -- what a character does is one of three things, said once for all the modes below
  have hnothing {next : Mode} (hc : isMark c = true)
      (hnext : next = .escaped ∨ next = .doubleEscaped → mode = .bare ∨ mode = .double) :
      ∃ q next', inWord next (p ++ []) = inWord next' (p ++ q) ∧ Adds mode c q next' :=
    ⟨[], next, rfl, .nothing hc hnext⟩
  have hliteral {next : Mode} (hnext : ¬ (next = .escaped ∨ next = .doubleEscaped))
      (hbare : next = .bare → mode = .escaped ∨ isMark c = false) :
      ∃ q next', inWord next (p ++ [.literal c]) = inWord next' (p ++ q) ∧ Adds mode c q next' :=
    ⟨[.literal c], next, rfl, .itself hnext hbare⟩
  have hmode (next : Mode) : { inWord mode p with mode := next } = inWord next (p ++ []) := by
    rw [List.append_nil]
    rfl
  cases mode with
  | bare =>
    rw [step]
    dsimp only [inWord]
    split_ifs with happos hquote hbackslash hblank hoperator hactive
    · exact .inr (hnothing (by simp [isMark, happos]) (by simp))
    · exact .inr (hnothing (by simp [isMark, hquote]) (by simp))
    · exact .inr (hmode _ ▸ hnothing (by simp [isMark, hbackslash]) (by simp))
    · exact .inl ⟨rfl, rfl⟩
    · exact .inl ⟨rfl, rfl⟩
    · exact .inr ⟨_, _, rfl, .active⟩
    · have hnewline : c ≠ '\n' := by
        rintro rfl
        exact hoperator rfl
      exact .inr (hliteral (by simp) fun _ =>
        .inr (by simp [isMark, happos, hquote, hbackslash, hnewline]))
  | escaped =>
    rw [step]
    dsimp only [inWord]
    split_ifs with hnewline
    · exact .inr (hmode _ ▸ hnothing (by simp [isMark, hnewline]) (by simp))
    · exact .inr (hliteral (by simp) fun _ => .inl rfl)
  | single =>
    rw [step]
    dsimp only [inWord]
    split_ifs with happos
    · exact .inr (hnothing (by simp [isMark, happos]) (by simp))
    · exact .inr (hliteral (by simp) (by simp))
  | double =>
    rw [step]
    dsimp only [inWord]
    rw [Part.ofPiece_bare]
    split_ifs with hquote hbackslash hexpanding
    · exact .inr (hnothing (by simp [isMark, hquote]) (by simp))
    · exact .inr (hmode _ ▸ hnothing (by simp [isMark, hbackslash]) (by simp))
    · exact .inr ⟨_, _, rfl, .active⟩
    · exact .inr (hliteral (by simp) (by simp))
  | doubleEscaped =>
    rw [step]
    dsimp only [inWord]
    rw [Part.map_ofPiece_escaped]
    split_ifs with hspecial hnewline
    · exact .inr (hliteral (by simp) (by simp))
    · exact .inr (hnothing (by simp [isMark, hnewline]) (by simp))
    · exact .inr ⟨_, _, rfl, .both rfl⟩

/-- What the word must go on with to be the value. -/
theorem append_parts_prefix_iff {word more : List Char} {q : List Part} :
    word.map .literal ++ q <+: (word ++ more).map .literal ↔ q <+: more.map .literal := by
  rw [List.map_append, List.prefix_append_right_inj]

/-- Behind the value, as long as there are characters of it to read, and lost if one is read that is
not pending. -/
theorem Pending.step {pending rest : List Char} {c : Char} (h : Pending v l pending (c :: rest)) :
    Lost v (l.step c) ∨ ∃ pending', Pending v (l.step c) pending' rest := by
  obtain ⟨⟨mode, word, rfl, rfl, hlong⟩, hmarks, hne⟩ := h
  obtain ⟨first, others, rfl⟩ := List.exists_cons_of_ne_nil hne
  obtain ⟨hfirst, hothers⟩ := List.forall_mem_cons.1 hmarks
  have hnext {a : Char} {cs : List Char} (hcs : ∀ b ∈ cs, isMark b = true) (ha : isMark a = true) :
      ∀ b ∈ cs ++ [a], isMark b = true :=
    List.forall_mem_append.2 ⟨hcs, List.forall_mem_singleton.2 ha⟩
  obtain ⟨-, hended⟩ | ⟨q, next, hstep, hadds⟩ := step_inWord mode (word.map .literal) c
  · -- the word that ends here is shorter than the value
    refine .inl (lost_of_head? hended fun hsame => ?_)
    have hlength := congrArg List.length hsame
    simp at hlength
  rw [hstep]
  by_cases hgoes : word.map .literal ++ q <+: (word ++ first :: others ++ c :: rest).map .literal
  · rw [List.append_assoc, append_parts_prefix_iff] at hgoes
    refine .inr ?_
    -- what was added to the word is what was pending first, and the character is pending last
    cases hadds with
    | nothing hc _ =>
      refine ⟨first :: others ++ [c], ⟨next, word, by rw [List.append_nil], by simp, fun _ => ?_⟩,
        hnext hmarks hc, by simp⟩
      simp
    | itself hlate hbare =>
      obtain ⟨hsame, -⟩ := List.cons_prefix_cons.1 hgoes
      obtain rfl := Part.literal.inj hsame
      exact ⟨others ++ [c], ⟨next, word ++ [c], by simp, by simp, fun h => absurd h hlate⟩,
        hnext hothers hfirst, by simp⟩
    | active =>
      obtain ⟨hsame, -⟩ := List.cons_prefix_cons.1 hgoes
      exact Part.noConfusion hsame
    | both hmode =>
      obtain ⟨hback, hsecond⟩ := List.cons_prefix_cons.1 hgoes
      obtain rfl := Part.literal.inj hback
      obtain ⟨second, others, rfl⟩ : ∃ second others', others = second :: others' := by
        refine List.exists_cons_of_ne_nil ?_
        rintro rfl
        exact absurd (hlong (.inr hmode)) (by simp)
      obtain ⟨hsame, -⟩ := List.cons_prefix_cons.1 hsecond
      obtain rfl := Part.literal.inj hsame
      obtain ⟨hc, hothers⟩ := List.forall_mem_cons.1 hothers
      exact ⟨others ++ [c], ⟨.double, word ++ ['\\', c], by simp, by simp, by simp⟩,
        hnext hothers hc, by simp⟩
  · exact .inl (lost_inWord hgoes)

/-- A word that a space cannot go on is not the value if the quotes are not closed. -/
theorem not_reads_apart {next : Mode} {y : List Char}
    (hspace : ∀ q, .literal ' ' ∈ q → ¬ p ++ q <+: v.map .literal)
    (hopen : p = v.map .literal → next ≠ .bare) (hy : Apart y) (t : List Token) :
    (y.foldl step (inWord next p)).endWord ≠ { done := .word (v.map .literal) :: t } := by
  intro hread
  obtain rfl | ⟨rest, rfl⟩ := hy
  · -- the whole line is one word, and the quotes are open if it is the value
    have hword : p = v.map .literal ∧ [] = t := by
      simpa [endWord, inWord] using congrArg Lexer.done hread
    exact hopen hword.1 (congrArg Lexer.mode hread)
  · have hlost : Lost v ((inWord next p).step ' ') := by
      obtain ⟨hbare, hended⟩ | ⟨q, next', hstep, hadds⟩ := step_inWord next p ' '
      · exact lost_of_head? hended fun hsame => hopen hsame hbare
      · rw [hstep]
        refine lost_inWord fun hgoes => ?_
        cases hadds with
        | nothing hc _ => exact absurd hc (by decide)
        | itself _ _ => exact hspace _ (by simp) hgoes
        | active =>
          obtain ⟨parts, hparts⟩ := hgoes
          have hmem : Part.active ' ' ∈ v.map .literal := by simp [← hparts]
          simp at hmem
        | both _ => exact hspace _ (by simp) hgoes
    refine hlost rest ?_
    rw [← List.foldl_cons, hread]
    rfl

/-- A value that the word is behind is not read, whatever closes the quotes. -/
theorem Pending.not_reads {pending rest y : List Char} (h : Pending v l pending rest) (c : Char)
    (hy : Apart y) (t : List Token) :
    ((rest ++ c :: y).foldl Lexer.step l).endWord ≠ { done := .word (v.map .literal) :: t } := by
  induction rest generalizing l pending with
  | cons d rest ih =>
    rw [List.cons_append, List.foldl_cons]
    obtain hlost | ⟨pending', h⟩ := h.step
    · intro hread
      refine hlost (rest ++ c :: y) ?_
      rw [hread]
      rfl
    · exact ih h
  | nil =>
    obtain ⟨⟨mode, word, rfl, hv, hlong⟩, hmarks, hne⟩ := h
    rw [List.append_nil] at hv
    subst hv
    -- all that the value goes on with is marks
    have hspace (q q' : List Part) (hq' : .literal ' ' ∈ q') :
        ¬ word.map .literal ++ q ++ q' <+: (word ++ pending).map .literal := by
      rw [List.append_assoc, append_parts_prefix_iff]
      intro hgoes
      have hmem := hgoes.subset (List.mem_append_right q hq')
      simp only [List.mem_map, Part.literal.injEq, exists_eq_right] at hmem
      exact absurd (hmarks ' ' hmem) (by decide)
    rw [List.nil_append, List.foldl_cons]
    obtain ⟨-, hended⟩ | ⟨q, next, hstep, hadds⟩ := step_inWord mode (word.map .literal) c
    · intro hread
      refine lost_of_head? (v := word ++ pending) hended ?_ y ?_
      · simpa using Ne.symm hne
      · rw [hread]
        rfl
    · rw [hstep]
      refine not_reads_apart (hspace q) (fun hsame hbare => ?_) hy t
      rw [List.map_append, List.append_cancel_left_eq] at hsame
      cases hadds with
      | nothing _ _ => exact hne (List.map_eq_nil_iff.1 hsame.symm)
      | itself _ hitself =>
        obtain rfl : [c] = pending := List.map_injective_iff.2 (fun _ _ => Part.literal.inj) hsame
        obtain hmode | hc := hitself hbare
        · exact absurd (hlong (.inl hmode)) (by simp)
        · exact absurd (hmarks c List.mem_cons_self) (by simp [hc])
      | active =>
        have hmem : Part.active c ∈ pending.map .literal := by simp [← hsame]
        simp at hmem
      | both _ => exact Mode.noConfusion hbare

/-! ## Values between quotes -/

theorem step_single_close (p : List Part) : (inWord .single p).step '\'' = inWord .bare p := by
  simp [step, inWord, push]

theorem step_double_close (p : List Part) : (inWord .double p).step '"' = inWord .bare p := by
  simp [step, inWord, push]

/-- Without an apostrophe, all up to the closing one is literal. -/
theorem foldl_single (word : List Char) (hv : '\'' ∉ v) :
    v.foldl step (inWord .single (word.map .literal)) =
      inWord .single ((word ++ v).map .literal) := by
  induction v generalizing word with
  | nil => rw [List.append_nil, List.foldl_nil]
  | cons c v ih =>
    obtain ⟨hc, hv⟩ := not_or.1 (List.mem_cons.not.1 hv)
    have hstep : (inWord .single (word.map .literal)).step c =
        inWord .single ((word ++ [c]).map .literal) := by
      rw [step, List.map_append]
      exact if_neg (Ne.symm hc)
    rw [List.foldl_cons, hstep, ih (word ++ [c]) hv, ← List.append_cons]

/-- A character that is no backslash at the end, and none in front of another character, is none. -/
theorem ne_backslash {c : Char} {rest : List Char} (hlast : c = '\\' → rest = [] → False)
    (hnext : ∀ d others, c = '\\' → rest = d :: others → False) : c ≠ '\\' := by
  rintro rfl
  cases rest with
  | nil => exact hlast rfl rfl
  | cons d others => exact hnext d others rfl rfl

/-- Between double quotes a character adds one part, unless it is the closing quote or a backslash. -/
theorem step_double_bare {c : Char} (hquote : c ≠ '"') (hbackslash : c ≠ '\\') (p : List Part) :
    (inWord .double p).step c = inWord .double (p ++ [.ofPiece (.bare c)]) := by
  simp [step, inWord, push, hquote, hbackslash]

theorem step_double_plain (word : List Char) {c : Char} (hc : DoubleQuotes.isSpecial c = false) :
    (inWord .double (word.map .literal)).step c =
      inWord .double ((word ++ [c]).map .literal) := by
  simp only [DoubleQuotes.isSpecial, Bool.or_eq_false_iff, beq_eq_false_iff_ne] at hc
  obtain ⟨⟨⟨hdollar, hback⟩, hquote⟩, hslash⟩ := hc
  rw [step_double_bare hquote hslash, Part.ofPiece_bare, if_neg (not_or.2 ⟨hdollar, hback⟩),
    List.map_append, List.map_singleton]

/-- A backslash between double quotes waits for the next character. -/
theorem foldl_double_backslash (p : List Part) (c : Char) (rest : List Char) :
    ('\\' :: c :: rest).foldl step (inWord .double p) =
      rest.foldl step (inWord .double (p ++ (Piece.escaped c).map .ofPiece)) :=
  rfl

/-- Between double quotes, plain characters are literal parts of the word. -/
theorem foldl_double {v : List Char} (word : List Char) (hv : standsInQuotes v = true) :
    v.foldl step (inWord .double (word.map .literal)) =
      inWord .double ((word ++ v).map .literal) := by
  fun_induction standsInQuotes v generalizing word with
  | case1 => rw [List.append_nil, List.foldl_nil]
  | case2 => exact absurd hv Bool.false_ne_true
  | case3 c rest ih =>
    obtain ⟨⟨hc, hnewline⟩, hrest⟩ : (DoubleQuotes.isSpecial c = false ∧ c ≠ '\n') ∧
        standsInQuotes rest = true := by simpa using hv
    have hboth : (Piece.escaped c).map Part.ofPiece = ['\\', c].map .literal := by
      simp [Part.map_ofPiece_escaped, hc, hnewline]
    rw [foldl_double_backslash, hboth, ← List.map_append, ih _ hrest, List.append_assoc]
    rfl
  | case4 c rest _ _ ih =>
    obtain ⟨hc, hrest⟩ : DoubleQuotes.isSpecial c = false ∧ standsInQuotes rest = true := by
      simpa using hv
    rw [List.foldl_cons, step_double_plain word hc, ih _ hrest, ← List.append_cons]

/-- A backslash that escapes is dropped, alone or with a newline, so the word falls behind. -/
theorem foldl_double_escape_ne {word rest y : List Char} {c : Char}
    (hc : DoubleQuotes.isSpecial c = true ∨ c = '\n') (hy : Apart y) (t : List Token) :
    (('\\' :: c :: rest ++ '"' :: y).foldl step (inWord .double (word.map .literal))).endWord ≠
      { done := .word ((word ++ '\\' :: c :: rest).map .literal) :: t } := by
  rw [List.cons_append, List.cons_append, foldl_double_backslash]
  by_cases hnewline : c = '\n'
  · subst hnewline
    have hnone : (Piece.escaped '\n').map Part.ofPiece = [] := rfl
    have hpending : Pending (word ++ '\\' :: '\n' :: rest)
        (inWord .double (word.map .literal)) ['\\', '\n'] rest :=
      ⟨⟨.double, word, rfl, by simp, by simp⟩, by simp [isMark], by decide⟩
    rw [hnone, List.append_nil]
    exact hpending.not_reads '"' hy t
  have hspecial : DoubleQuotes.isSpecial c = true := hc.resolve_right hnewline
  have hone : (Piece.escaped c).map Part.ofPiece = [c].map .literal := by
    rw [Part.map_ofPiece_escaped, if_pos hspecial, List.map_singleton]
  rw [hone]
  by_cases hback : c = '\\'
  · subst hback
    have hpending : Pending (word ++ '\\' :: '\\' :: rest)
        (inWord .double ((word ++ ['\\']).map .literal)) ['\\'] rest :=
      ⟨⟨.double, word ++ ['\\'], rfl, by simp, by simp⟩, by simp [isMark], by decide⟩
    rw [← List.map_append]
    exact hpending.not_reads '"' hy t
  · refine (lost_inWord ?_).ne _ t
    rw [append_parts_prefix_iff]
    intro hgoes
    exact hback (Part.literal.inj (List.cons_prefix_cons.1 hgoes).1)

/-- Any other special character closes the quotes, or is a part of the word that is not literal. -/
theorem foldl_double_special_ne {word rest y : List Char} {c : Char}
    (hspecial : DoubleQuotes.isSpecial c = true) (hbackslash : c ≠ '\\') (hy : Apart y)
    (t : List Token) :
    ((c :: rest ++ '"' :: y).foldl step (inWord .double (word.map .literal))).endWord ≠
      { done := .word ((word ++ c :: rest).map .literal) :: t } := by
  rw [List.cons_append, List.foldl_cons]
  by_cases hquote : c = '"'
  · subst hquote
    have hpending : Pending (word ++ '"' :: rest)
        ((inWord .double (word.map .literal)).step '"') ['"'] rest :=
      ⟨⟨.bare, word, by simp [step, inWord, push], by simp, by simp⟩, by simp [isMark],
        by decide⟩
    exact hpending.not_reads '"' hy t
  · have hexpanding : c = '$' ∨ c = '`' := by
      simpa [DoubleQuotes.isSpecial, hquote, hbackslash] using hspecial
    rw [step_double_bare hquote hbackslash, Part.ofPiece_bare, if_pos hexpanding]
    refine (lost_inWord ?_).ne _ t
    rw [append_parts_prefix_iff]
    intro hgoes
    exact Part.noConfusion (List.cons_prefix_cons.1 hgoes).1

/-- Otherwise the word falls behind, or gets a part that is no character of the value. -/
theorem foldl_double_ne {v : List Char} (word : List Char) (hv : standsInQuotes v = false)
    {y : List Char} (hy : Apart y) (t : List Token) :
    ((v ++ '"' :: y).foldl step (inWord .double (word.map .literal))).endWord ≠
      { done := .word ((word ++ v).map .literal) :: t } := by
  fun_induction standsInQuotes v generalizing word with
  | case1 => exact absurd hv Bool.noConfusion
  | case2 =>
    -- the backslash takes the closing quote into the word
    rw [List.cons_append, List.nil_append, foldl_double_backslash]
    refine (lost_inWord ?_).ne _ t
    rw [append_parts_prefix_iff]
    decide
  | case3 c rest ih =>
    by_cases hescapes : DoubleQuotes.isSpecial c = true ∨ c = '\n'
    · exact foldl_double_escape_ne hescapes hy t
    · obtain ⟨hspecial, hnewline⟩ := not_or.1 hescapes
      have hrest : standsInQuotes rest = false := by simpa [hspecial, hnewline] using hv
      have hboth : (Piece.escaped c).map Part.ofPiece = ['\\', c].map .literal := by
        simp [Part.map_ofPiece_escaped, hspecial, hnewline]
      have hreads := ih (word ++ ['\\', c]) hrest
      rw [List.append_assoc] at hreads
      rw [List.cons_append, List.cons_append, foldl_double_backslash, hboth, ← List.map_append]
      exact hreads
  | case4 c rest hlast hbackslash ih =>
    by_cases hspecial : DoubleQuotes.isSpecial c = true
    · exact foldl_double_special_ne hspecial (ne_backslash hlast hbackslash) hy t
    · rw [Bool.not_eq_true] at hspecial
      have hrest : standsInQuotes rest = false := by simpa [hspecial] using hv
      have hreads := ih (word ++ [c]) hrest
      rw [← List.append_cons] at hreads
      rw [List.cons_append, List.foldl_cons, step_double_plain word hspecial]
      exact hreads

end Lexer

/-- A word that is closed is read, whatever stands behind it. -/
theorem reads_closed_iff {x y : List Char} {p : List Part}
    (hx : x.foldl Lexer.step {} = .inWord .bare p) (hy : Apart y) (t : List Token) :
    ReadsAs (x ++ y) (.word p :: t) ↔ ReadsAs y t := by
  have hword : ReadsAs x [.word p] := by
    rw [ReadsAs, hx]
    rfl
  exact readsAs_behind_iff hword hy

/-- Between apostrophes a text is one literal word exactly if it has none itself. -/
theorem reads_single_iff {v y : List Char} (hy : Apart y) (t : List Token) :
    ReadsAs ('\'' :: v ++ '\'' :: y) (.word (v.map .literal) :: t) ↔ '\'' ∉ v ∧ ReadsAs y t := by
  have hopen : Lexer.step {} '\'' = .inWord .single (([] : List Char).map .literal) := rfl
  by_cases hv : '\'' ∈ v
  · obtain ⟨before, rest, rfl, hbefore⟩ := List.eq_append_cons_of_mem hv
    have hpending : Lexer.Pending (before ++ '\'' :: rest) (.inWord .bare (before.map .literal))
        ['\''] rest :=
      ⟨⟨.bare, before, rfl, by simp, by simp⟩, by simp [Lexer.isMark], by decide⟩
    refine iff_of_false (fun hread => ?_) fun hread => hread.1 hv
    rw [ReadsAs, List.cons_append, List.foldl_cons, hopen, List.append_assoc, List.foldl_append,
      Lexer.foldl_single [] hbefore, List.nil_append, List.cons_append, List.foldl_cons,
      Lexer.step_single_close] at hread
    exact hpending.not_reads '\'' hy t hread
  · have hclosed : ('\'' :: v ++ ['\'']).foldl Lexer.step {} = .inWord .bare (v.map .literal) := by
      rw [List.cons_append, List.foldl_cons, hopen, List.foldl_append, Lexer.foldl_single [] hv,
        List.nil_append, List.foldl_cons, Lexer.step_single_close, List.foldl_nil]
    rw [List.append_cons ('\'' :: v), reads_closed_iff hclosed hy]
    exact (and_iff_right hv).symm

/-- Between double quotes a text is one literal word exactly if nothing in it is special there. -/
theorem reads_double_iff {v y : List Char} (hy : Apart y) (t : List Token) :
    ReadsAs ('"' :: v ++ '"' :: y) (.word (v.map .literal) :: t) ↔
      standsInQuotes v = true ∧ ReadsAs y t := by
  have hopen : Lexer.step {} '"' = .inWord .double (([] : List Char).map .literal) := rfl
  by_cases hv : standsInQuotes v = true
  · have hclosed : ('"' :: v ++ ['"']).foldl Lexer.step {} = .inWord .bare (v.map .literal) := by
      rw [List.cons_append, List.foldl_cons, hopen, List.foldl_append, Lexer.foldl_double [] hv,
        List.nil_append, List.foldl_cons, Lexer.step_double_close, List.foldl_nil]
    rw [List.append_cons ('"' :: v), reads_closed_iff hclosed hy]
    exact (and_iff_right hv).symm
  · refine iff_of_false (fun hread => ?_) fun hread => hv hread.1
    exact Lexer.foldl_double_ne [] (Bool.eq_false_of_not_eq_true hv) hy t hread

/-! ## Values that were quoted -/

/-- What a character becomes that was quoted: all but a backquote stand for themselves. -/
def Part.quoted (c : Char) : Part :=
  .ofPiece (.quoted c)

namespace Lexer

/-- From an opening double quote to the closing one, the word goes on with what stands there. -/
theorem foldl_readInside {v rest : List Char} {pieces : List Piece}
    (h : DoubleQuotes.readInside v = some (pieces, rest)) (p : List Part) :
    v.foldl step (inWord .double p) = rest.foldl step (inWord .bare (p ++ pieces.map .ofPiece)) := by
  fun_induction DoubleQuotes.readInside v generalizing pieces p with
  | case1 => cases h
  | case2 => cases h
  | case3 c v ih =>
    obtain ⟨⟨pieces', rest'⟩, hread, hpieces⟩ := Option.map_eq_some_iff.1 h
    cases hpieces
    rw [foldl_double_backslash, ih hread, List.map_append, List.append_assoc]
  | case4 v =>
    cases h
    rw [List.foldl_cons, step_double_close, List.map_nil, List.append_nil]
  | case5 c v hlast hbackslash hquote ih =>
    obtain ⟨⟨pieces', rest'⟩, hread, hpieces⟩ := Option.map_eq_some_iff.1 h
    cases hpieces
    rw [List.foldl_cons, step_double_bare hquote (ne_backslash hlast hbackslash), ih hread,
      List.append_assoc]
    rfl

/-- A quoted value goes on with the word before it. -/
theorem foldl_quote (p : List Part) (s : String) :
    (quote s).toList.foldl step (inWord .bare p) = inWord .bare (p ++ s.toList.map .quoted) := by
  have hopen : step (inWord .bare p) '"' = inWord .double p := by
    simp [step, inWord, push]
  have hread : DoubleQuotes.readInside (s.toList.flatMap escapeChar ++ ['"']) =
      some (s.toList.map .quoted, []) := DoubleQuotes.readInside_flatMap
    DoubleQuotes.readInside_escapeChar s.toList
  rw [quote, String.toList_ofList, quoteChars, List.cons_append, List.foldl_cons, hopen,
    foldl_readInside hread, List.map_map, List.foldl_nil]
  rfl

end Lexer

end ChrootScan.Shell
