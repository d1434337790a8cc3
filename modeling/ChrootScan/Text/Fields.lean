/-!
# Fields: texts cut at a separator, and joined again

`fields` cuts a list of characters at every occurrence of one character and keeps empty pieces, so
`n` separators give `n + 1` fields. `joinChars` puts a separator between pieces, and putting it back
between the fields of a text gives the text again.
-/

namespace ChrootScan.Text

/-- The pieces of a list between occurrences of `sep`, empty ones included. -/
def fields {α : Type} [DecidableEq α] (sep : α) : List α → List (List α)
  | [] => [[]]
  | c :: rest =>
    if c = sep then [] :: fields sep rest
    else
      match fields sep rest with
      | [] => [[c]]
      | piece :: pieces => (c :: piece) :: pieces

theorem fields_ne_nil {α : Type} [DecidableEq α] (sep : α) (s : List α) :
    fields sep s ≠ [] := by
  cases s with
  | nil => simp [fields]
  | cons c rest =>
    unfold fields
    split
    · simp
    · split <;> simp

/-- `pieces` with `sep` between neighbours. -/
def joinChars (sep : List Char) : List (List Char) → List Char
  | [] => []
  | [piece] => piece
  | piece :: pieces => piece ++ sep ++ joinChars sep pieces

/-- Putting the separator back between the fields gives the text again. -/
theorem joinChars_fields (sep : Char) (s : List Char) : joinChars [sep] (fields sep s) = s := by
  induction s with
  | nil => rfl
  | cons c rest ih =>
    unfold fields
    split
    · next h =>
      subst h
      cases hf : fields c rest with
      | nil => exact absurd hf (fields_ne_nil c rest)
      | cons piece pieces => simpa [joinChars, hf] using ih
    · cases hf : fields sep rest with
      | nil => exact absurd hf (fields_ne_nil sep rest)
      | cons piece pieces =>
        rw [hf] at ih
        cases pieces with
        | nil => simpa [joinChars] using ih
        | cons next more => simpa [joinChars] using ih

/-- `pieces` with `sep` between neighbours. -/
def join (sep : String) (pieces : List String) : String :=
  String.ofList (joinChars sep.toList (pieces.map String.toList))

/-- The pieces of a text between occurrences of `sep`, empty ones included. -/
def splitAt (sep : Char) (s : String) : List String :=
  (fields sep s.toList).map String.ofList

/-- What follows `lead` in `s`, when `s` starts with it. -/
def afterLead? (lead s : String) : Option String :=
  (lead.toList.isPrefixOf? s.toList).map String.ofList

/-- What stands before `tail` in `s`, when `s` ends with it. -/
def beforeTail? (tail s : String) : Option String :=
  (tail.toList.isSuffixOf? s.toList).map String.ofList

/-- `s` starts with `lead`. -/
def startsWith (lead s : String) : Bool :=
  lead.toList.isPrefixOf s.toList

/-- `s` ends with `tail`. -/
def endsWith (tail s : String) : Bool :=
  tail.toList.isSuffixOf s.toList

/-- `part` occurs in a list of characters. -/
def containsChars (part : List Char) : List Char → Bool
  | [] => part.isEmpty
  | c :: rest => part.isPrefixOf (c :: rest) || containsChars part rest

/-- `part` occurs in `s`. -/
def contains (part s : String) : Bool :=
  containsChars part.toList s.toList

/-- What stands before the first place where `find?` succeeds, and what it finds there. -/
def cutWhere? {α : Type} (find? : List Char → Option α) : List Char → Option (List Char × α)
  | [] => (find? []).map ([], ·)
  | c :: rest =>
    match find? (c :: rest) with
    | some a => some ([], a)
    | none => (cutWhere? find? rest).map fun (before, a) => (c :: before, a)

/-- What stands before and behind the first occurrence of `part`. -/
def cut? (part : List Char) : List Char → Option (List Char × List Char) :=
  cutWhere? (part.isPrefixOf? ·)

/-- `s` without the characters `c` that it starts with. -/
def dropLeading (c : Char) (s : String) : String :=
  String.ofList (s.toList.dropWhile (· == c))

/-- `s` without the characters `c` that it ends with. -/
def dropTrailing (c : Char) (s : String) : String :=
  String.ofList ((s.toList.reverse.dropWhile (· == c)).reverse)

/-! ## Lines -/

/-- A line without the character `c` at its end. -/
def dropEnd {α : Type} [DecidableEq α] (c : α) (line : List α) : List α :=
  if line.getLast? = some c then line.dropLast else line

/-- The line without its carriage return, for a line that a newline ended. -/
def dropReturn (line : List Char) : List Char :=
  dropEnd '\r' line

/-- The lines among the fields between newlines: a carriage return before the newline belongs to
the line end, which `drop` takes away, and what follows the last newline is a line only if it is not
empty. -/
def linesOfFields {α : Type} (drop : List α → List α) : List (List α) → List (List α)
  | [] => []
  | [last] => if last.isEmpty then [] else [last]
  | line :: rest => drop line :: linesOfFields drop rest

/-- The lines of a text, without their line ends. -/
def linesChars (s : List Char) : List (List Char) :=
  linesOfFields dropReturn (fields '\n' s)

/-- The lines of bytes, without their line ends. -/
def byteLines (bytes : ByteArray) : List ByteArray :=
  (linesOfFields (dropEnd 13) (fields 10 bytes.toList)).map fun line => ⟨line.toArray⟩

/-- The lines of a text, without their line ends. -/
def lines (s : String) : List String :=
  (linesChars s.toList).map String.ofList

end ChrootScan.Text
