import ChrootScan.Shell.Words
import ChrootScan.Text.Decimal

/-!
# Small shell scripts

Programs that only print and exit: a first line that names the shell, then one command a line, out
of `echo`, `printf` and `exit`. Words may be quoted, and `$1`, `$2`, … stand for the arguments.
-/

namespace ChrootScan

/-- A script as its command lines. -/
structure Script where
  lines : List (List Char)
deriving DecidableEq, Repr

namespace Script

/-- Reads a script, which must name the shell in its first line. -/
def ofText? (text : String) : Option Script :=
  match Text.fields '\n' text.toList with
  | first :: rest =>
    if "#!/bin/sh".toList.isPrefixOf first then some ⟨rest⟩ else none
  | [] => none

/-- The argument that a digit behind a dollar sign stands for, every character escaped. -/
def argument (argv : List String) (digit : Char) : List Char :=
  (argv[digit.toNat - '0'.toNat]?.getD "").toList.flatMap fun c =>
    if Shell.Reader.isEscapable c then ['\\', c] else [c]

/-- The quote that is open behind a character. -/
def quoteAfter (quote : Option Char) (c : Char) : Option Char :=
  match quote with
  | none => if c = '\'' || c = '"' then some c else none
  | some q => if c = q then none else some q

/-- A line with its arguments put in, except between apostrophes. -/
def expand (argv : List String) (quote : Option Char) : List Char → List Char
  | [] => []
  | c :: rest =>
    if quote = some '\'' then c :: expand argv (quoteAfter quote c) rest
    else
      match c, rest with
      | '\\', d :: rest' => '\\' :: d :: expand argv quote rest'
      | '$', d :: rest' =>
        if d.isDigit then argument argv d ++ expand argv quote rest'
        else '$' :: d :: expand argv (quoteAfter quote d) rest'
      | c, rest => c :: expand argv (quoteAfter quote c) rest

/-- The words of a line; of a line that cannot be split, none. -/
def words (argv : List String) (line : List Char) : List String :=
  match Shell.splitChars (expand argv none line) with
  | .ok ws => ws.map String.ofList
  | .error _ => []

/-- The text of a `printf` format without conversions. -/
def unescape : List Char → List Char
  | [] => []
  | '\\' :: 'n' :: rest => '\n' :: unescape rest
  | '\\' :: 't' :: rest => '\t' :: unescape rest
  | '\\' :: '\\' :: rest => '\\' :: unescape rest
  | c :: rest => c :: unescape rest

/-- Runs command lines; the answer is the text printed and the exit code. -/
def runLines (argv : List String) : List (List Char) → List Char × Int
  | [] => ([], 0)
  | line :: rest =>
    let (out, code) := runLines argv rest
    match words argv line with
    | "echo" :: args => ((Text.join " " args).toList ++ '\n' :: out, code)
    | "printf" :: format :: _ => (unescape format.toList ++ out, code)
    | "exit" :: status :: _ => ([], ((Text.numeral? 256 status).getD 2 : Nat))
    | ["exit"] => ([], 0)
    | _ => (out, code)

/-- Runs a script called with the words `argv`. -/
def run (s : Script) (argv : List String) : String × Int :=
  let (out, code) := runLines argv s.lines
  (String.ofList out, code)

end Script

end ChrootScan
