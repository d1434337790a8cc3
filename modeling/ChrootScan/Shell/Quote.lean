import ChrootScan.Text.Fields

/-!
# Quoting values for a shell

Commands run through `sh -c`, on the host or in the chroot, so every value of the user passes
through one of these encoders. `quote` writes between double quotes and escapes; `singleQuote`
writes between apostrophes, and leaves a value bare that no shell gives a meaning to.
-/

namespace ChrootScan.Shell

/-- The characters escaped between double quotes. -/
def needsEscape (c : Char) : Bool :=
  c == '\\' || c == '"' || c == '$'

/-- One character as it is written between double quotes. -/
def escapeChar (c : Char) : List Char :=
  if needsEscape c then ['\\', c] else [c]

/-- `s` between double quotes. -/
def quoteChars (s : List Char) : List Char :=
  '"' :: s.flatMap escapeChar ++ ['"']

/-- `s` between double quotes, with backslashes, double quotes and dollar signs escaped. -/
def quote (s : String) : String :=
  String.ofList (quoteChars s.toList)

/-- The characters that need no quotes at all. -/
def isPlain (c : Char) : Bool :=
  c.isAlphanum || "@%+=:,./-_".toList.contains c

/-- An apostrophe ends the quotes, stands between double quotes, and opens them again. -/
def spliceChar (c : Char) : List Char :=
  if c = '\'' then ['\'', '"', '\'', '"', '\''] else [c]

/-- `s` between apostrophes, or bare when it consists of plain characters. -/
def singleQuoteChars (s : List Char) : List Char :=
  if !s.isEmpty && s.all isPlain then s
  else '\'' :: s.flatMap spliceChar ++ ['\'']

/-- `s` as one word that a shell takes literally. -/
def singleQuote (s : String) : String :=
  String.ofList (singleQuoteChars s.toList)

/-- `s` between apostrophes, whatever it holds. -/
def wrapSingle (s : String) : String :=
  "'" ++ s ++ "'"

/-- How the words of a command line are quoted. -/
inductive Quoting
  /-- Between double quotes, with escapes. -/
  | escaped
  /-- Between apostrophes, as they are. -/
  | wrapped
deriving DecidableEq, Repr

/-- One word in the given quoting. -/
def Quoting.word : Quoting → String → String
  | escaped => quote
  | wrapped => wrapSingle

/-- Words as one command line, each quoted, with single spaces between them. -/
def commandLine (quoting : Quoting) (words : List String) : String :=
  Text.join " " (words.map quoting.word)

end ChrootScan.Shell
