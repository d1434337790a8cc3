import ChrootScan.Failure
import ChrootScan.Shell.Quote
import ChrootScan.Text.Blank

/-!
# Splitting a command line into words

A reader that takes one character at a time. Its state is the way the next character is read
(`Mode`), the word begun, if any, and the words already complete; a whole text is read by a fold,
so that reading `x ++ y` is reading `y` from the state that `x` leaves behind.
-/

namespace ChrootScan.Shell

/-- How the next character is read. -/
inductive Mode
  | bare
  /-- After a backslash outside quotes. -/
  | escaped
  /-- Between apostrophes. -/
  | single
  /-- Between double quotes. -/
  | double
  /-- After a backslash between double quotes. -/
  | doubleEscaped
deriving DecidableEq, Repr

/-- The state of the reader: `word` is the word begun, `done` the words before it. -/
structure Reader where
  mode : Mode := .bare
  word : Option (List Char) := none
  done : List (List Char) := []
deriving DecidableEq, Repr

/-- Why a text cannot be split. -/
inductive SplitError
  | openQuote
  | danglingEscape
deriving DecidableEq, Repr

def SplitError.message : SplitError → String
  | openQuote => "No closing quotation"
  | danglingEscape => "No escaped character"

namespace Reader

/-- Appends characters to the word, which is thereby begun. -/
def push (r : Reader) (cs : List Char) (mode : Mode) : Reader :=
  { r with mode := mode, word := some (r.word.getD [] ++ cs) }

/-- Ends the word, if one is begun. -/
def endWord (r : Reader) : Reader :=
  match r.word with
  | none => r
  | some w => { r with word := none, done := r.done ++ [w] }

/-- The characters that a backslash between double quotes stands before. -/
def isEscapable (c : Char) : Bool :=
  c == '"' || c == '\\' || c == '$' || c == '`'

/-- Reads one character. -/
def step (r : Reader) (c : Char) : Reader :=
  match r.mode with
  | .bare =>
    if c = '\'' then r.push [] .single
    else if c = '"' then r.push [] .double
    else if c = '\\' then r.push [] .escaped
    else if Text.isBlank c then r.endWord
    else r.push [c] .bare
  | .escaped => if c = '\n' then r.push [] .bare else r.push [c] .bare
  | .single => if c = '\'' then r.push [] .bare else r.push [c] .single
  | .double =>
    if c = '"' then r.push [] .bare
    else if c = '\\' then r.push [] .doubleEscaped
    else r.push [c] .double
  | .doubleEscaped =>
    if isEscapable c then r.push [c] .double
    else if c = '\n' then r.push [] .double
    else r.push ['\\', c] .double

/-- The words, once the text is at its end. -/
def finish (r : Reader) : Except SplitError (List (List Char)) :=
  match r.mode with
  | .bare => .ok r.endWord.done
  | .escaped => .error .danglingEscape
  | .single | .double | .doubleEscaped => .error .openQuote

end Reader

/-- The words of a list of characters. -/
def splitChars (s : List Char) : Except SplitError (List (List Char)) :=
  (s.foldl Reader.step {}).finish

/-- The words of a command line, read by the rules of a POSIX shell. -/
def split (s : String) : Except SplitError (List String) :=
  (splitChars s.toList).map (·.map String.ofList)

/-- The words of `value`, each quoted again, so that no unquoted character has a meaning to a
shell. `option` names the option that the value was given to. -/
def sanitize (option value : String) : Except ScanError String :=
  match split value with
  | .ok words => .ok (Text.join " " (words.map singleQuote))
  | .error e =>
    .error (.usage ("failed to parse value given to " ++ option ++ ": " ++ e.message))

end ChrootScan.Shell
