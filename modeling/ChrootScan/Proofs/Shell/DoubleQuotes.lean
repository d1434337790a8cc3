import ChrootScan.Shell.Quote
import Mathlib.Tactic

/-!
# Double quotes, as a shell reads them

Between double quotes four characters are special to a POSIX shell: the dollar sign, the backquote,
the double quote and the backslash, and a backslash takes the meaning from each of them that it
stands before. `readWord` reads by these rules alone. `quote` escapes three of the four, so what it
writes is always one word without a parameter expansion; but a backquote stays what it is, and a
word that holds one is not read as it was meant.
-/

namespace ChrootScan.Shell

namespace DoubleQuotes

/-! ## The rules -/

/-- The characters with a meaning between double quotes. -/
def isSpecial (c : Char) : Bool :=
  c == '$' || c == '`' || c == '"' || c == '\\'

/-- What a shell finds between double quotes. -/
inductive Piece
  | literal (c : Char)
  /-- A dollar sign that begins an expansion. -/
  | expansion
  /-- A backquote that begins or ends a command substitution. -/
  | substitution
deriving DecidableEq, Repr

/-- A character that no backslash stands before. -/
def Piece.bare (c : Char) : Piece :=
  if c = '$' then expansion else if c = '`' then substitution else literal c

/-- A character that a backslash stands before. If it is not special, the backslash stays; a newline
is taken away together with its backslash. -/
def Piece.escaped (c : Char) : List Piece :=
  if isSpecial c then [literal c] else if c = '\n' then [] else [literal '\\', literal c]

/-- Puts pieces in front of what was read. -/
def prepend (first : List Piece) (read : List Piece × List Char) : List Piece × List Char :=
  (first ++ read.1, read.2)

/-- The pieces before the closing double quote, and what comes behind it. -/
def readInside : List Char → Option (List Piece × List Char)
  | [] => none
  | ['\\'] => none
  | '\\' :: c :: rest => (readInside rest).map (prepend (Piece.escaped c))
  | c :: rest => if c = '"' then some ([], rest) else (readInside rest).map (prepend [.bare c])

/-- The pieces of a word between double quotes, and what comes behind the word. -/
def readWord : List Char → Option (List Piece × List Char)
  | '"' :: rest => readInside rest
  | _ => none

/-- A text is one word between double quotes, with exactly this value. -/
def LiteralWord (text value : String) : Prop :=
  readWord text.toList = some (value.toList.map .literal, [])

instance (text value : String) : Decidable (LiteralWord text value) :=
  inferInstanceAs (Decidable (_ = _))

/-- A character as it has to be written between double quotes, to stand for itself. -/
def escapeSpecial (c : Char) : List Char :=
  if isSpecial c then ['\\', c] else [c]

/-- A text between double quotes, with all special characters escaped. -/
def escapeAll (s : String) : String :=
  String.ofList ('"' :: s.toList.flatMap escapeSpecial ++ ['"'])

/-! ## Reading what was written -/

/-- A backslash is read together with the character behind it. -/
theorem readInside_backslash (c : Char) (rest : List Char) :
    readInside ('\\' :: c :: rest) = (readInside rest).map (prepend (Piece.escaped c)) := by
  rw [readInside]

/-- A character is read by itself if it neither ends the quotes nor begins an escape. -/
theorem readInside_bare {c : Char} (hquote : c ≠ '"') (hbackslash : c ≠ '\\') (rest : List Char) :
    readInside (c :: rest) = (readInside rest).map (prepend [.bare c]) := by
  rw [readInside]
  · exact if_neg hquote
  · exact fun h => absurd h hbackslash
  · exact fun _ _ h => absurd h hbackslash

/-- A special character behind a backslash is a literal one. -/
theorem readInside_escape_special {c : Char} (hc : isSpecial c = true) (rest : List Char) :
    readInside ('\\' :: c :: rest) = (readInside rest).map (prepend [.literal c]) := by
  rw [readInside_backslash, Piece.escaped, if_pos hc]

/-- A character without a meaning is a literal one. -/
theorem readInside_plain {c : Char} (hc : isSpecial c = false) (rest : List Char) :
    readInside (c :: rest) = (readInside rest).map (prepend [.literal c]) := by
  simp only [isSpecial, Bool.or_eq_false_iff, beq_eq_false_iff_ne] at hc
  obtain ⟨⟨⟨hdollar, hback⟩, hquote⟩, hbackslash⟩ := hc
  rw [readInside_bare hquote hbackslash, Piece.bare, if_neg hdollar, if_neg hback]

/-- Written with a backslash where it is special, every character is a literal one. -/
theorem readInside_escapeSpecial (c : Char) (rest : List Char) :
    readInside (escapeSpecial c ++ rest) = (readInside rest).map (prepend [.literal c]) := by
  rw [escapeSpecial]
  by_cases hc : isSpecial c = true
  · rw [if_pos hc]
    exact readInside_escape_special hc rest
  · rw [if_neg hc]
    exact readInside_plain (Bool.eq_false_of_not_eq_true hc) rest

/-- What a character becomes that was quoted: all but a backquote stand for themselves. -/
def Piece.quoted (c : Char) : Piece :=
  if c = '`' then substitution else literal c

/-- The way that quoting writes a character gives one piece, which is literal but for a backquote.
-/
theorem readInside_escapeChar (c : Char) (rest : List Char) :
    readInside (escapeChar c ++ rest) = (readInside rest).map (prepend [.quoted c]) := by
  rw [escapeChar]
  by_cases hc : needsEscape c = true
  · have hspecial : isSpecial c = true := by
      simp only [needsEscape, isSpecial, Bool.or_eq_true] at hc ⊢
      tauto
    have hback : c ≠ '`' := by
      rintro rfl
      exact absurd hc (by decide)
    rw [if_pos hc, Piece.quoted, if_neg hback]
    exact readInside_escape_special hspecial rest
  · rw [if_neg hc]
    simp only [needsEscape, Bool.or_eq_true, beq_iff_eq, not_or] at hc
    obtain ⟨⟨hbackslash, hquote⟩, hdollar⟩ := hc
    -- nothing that the writer leaves alone is special, but for the backquote
    rw [List.singleton_append, readInside_bare hquote hbackslash, Piece.bare, if_neg hdollar,
      Piece.quoted]

/-- If each character is written so that one piece is read for it, so is a whole text. -/
theorem readInside_flatMap {write : Char → List Char} {piece : Char → Piece}
    (hwrite : ∀ c rest, readInside (write c ++ rest) = (readInside rest).map (prepend [piece c]))
    (s : List Char) : readInside (s.flatMap write ++ ['"']) = some (s.map piece, []) := by
  induction s with
  | nil => rfl
  | cons c s ih => rw [List.flatMap_cons, List.append_assoc, hwrite, ih]; rfl

/-- A quoted text is one word with one piece for each character. -/
theorem readWord_quote (s : String) :
    readWord (quote s).toList = some (s.toList.map .quoted, []) := by
  rw [quote, String.toList_ofList]
  exact readInside_flatMap readInside_escapeChar s.toList

/-- With all special characters escaped, a text is one word with itself as its value. -/
theorem literalWord_escapeAll (s : String) : LiteralWord (escapeAll s) s := by
  rw [LiteralWord, escapeAll, String.toList_ofList]
  exact readInside_flatMap readInside_escapeSpecial s.toList

/-- The pieces of a quoted text are all literal exactly if it has no backquote. -/
theorem map_quoted_eq_iff (s : List Char) : s.map Piece.quoted = s.map .literal ↔ '`' ∉ s := by
  rw [List.map_inj_left]
  constructor
  · intro h hmem
    exact absurd (h _ hmem) (by decide)
  · intro h c hc
    have hback : c ≠ '`' := fun heq => h (heq ▸ hc)
    rw [Piece.quoted, if_neg hback]

end DoubleQuotes

open DoubleQuotes

/-- Quoting a text gives one word in any case, without a parameter expansion, and only the
backquotes in it are not read as what they are. So it is read as the text exactly if the text holds
no backquote; and exactly then all special characters in it are escaped. -/
theorem quote_literal_iff (s : String) :
    readWord (quote s).toList =
        some (s.toList.map fun c => if c = '`' then .substitution else .literal c, []) ∧
      (LiteralWord (quote s) s ↔ '`' ∉ s.toList) ∧ (quote s = escapeAll s ↔ '`' ∉ s.toList) := by
  have hliteral : LiteralWord (quote s) s ↔ '`' ∉ s.toList := by
    rw [LiteralWord, readWord_quote, Option.some_inj, Prod.mk_left_inj, map_quoted_eq_iff]
  refine ⟨readWord_quote s, hliteral, ?_⟩
  constructor
  · intro h
    rw [← hliteral, h]
    exact literalWord_escapeAll s
  · intro h
    -- without backquotes the two writers agree on every character
    have hchars : s.toList.flatMap escapeChar = s.toList.flatMap escapeSpecial := by
      refine List.flatMap_congr fun c hc => ?_
      have hback : c ≠ '`' := fun heq => h (heq ▸ hc)
      have hsame : needsEscape c = isSpecial c := by
        rw [needsEscape, isSpecial, beq_eq_false_iff_ne.2 hback, Bool.or_false]
        cases c == '$' <;> cases c == '"' <;> cases c == '\\' <;> rfl
      rw [escapeChar, escapeSpecial, hsame]
    rw [quote, quoteChars, hchars, escapeAll]

/-- The name of a command between backquotes is not taken for a text: the shell runs it. -/
theorem not_literal_backquotes :
    readWord (quote "`id`").toList =
        some ([.substitution, .literal 'i', .literal 'd', .substitution], []) ∧
      ¬ LiteralWord (quote "`id`") "`id`" ∧ quote "`id`" ≠ escapeAll "`id`" := by
  decide +kernel

end ChrootScan.Shell
