import ChrootScan.Failure
import ChrootScan.Json.Reader
import ChrootScan.Text.Blank
import ChrootScan.Text.Digit
import ChrootScan.Text.Fields

/-!
# Diagnostics of Clippy

A build under Clippy leaves one JSON document a line. A line with a diagnostic whose package
and place are known becomes one block: a head, the place with the message, and the excerpt of the
source as comments. Lines with other documents are passed over; a line that is no document ends the
conversion, what was written before it stays.
-/

namespace ChrootScan.Clippy

/-- The directory that holds the sources of the package under scan. -/
def buildRoot : String := "/builddir/build/BUILD/"

/-! ## Packages -/

/-- What stands before the last occurrence of `c`. -/
def beforeLast? (c : Char) (s : List Char) : Option (List Char) :=
  match s.reverse.dropWhile (· ≠ c) with
  | [] => none
  | _ :: before => some before.reverse

def localMark : List Char := "path+file://".toList

/-- The local path of a package identified as `name version (path+file://PATH)`: up to the last
closing parenthesis of the line. -/
def parenthesized? (s : List Char) : Option (List Char) :=
  (Text.cutWhere? (fun rest =>
    (localMark.isPrefixOf? rest).bind fun path =>
      beforeLast? ')' (path.takeWhile (· ≠ '\n'))) s).map (·.2)

/-- The text is a version behind its mark: not empty, and a single line. -/
def isVersion (s : List Char) : Bool :=
  !s.isEmpty && !s.contains '\n'

/-- What stands before the last mark `@` that a version follows up to the end of `s ++ tail`. -/
def beforeVersion? (tail : List Char) : List Char → Option (List Char)
  | [] => none
  | c :: rest =>
    match beforeVersion? tail rest with
    | some before => some (c :: before)
    | none => if c = '@' && isVersion (rest ++ tail) then some [] else none

/-- The local path of a package identified as `path+file://PATH#name@version`, name and version
being optional. -/
def marked? (s : List Char) : Option (List Char) :=
  (localMark.isPrefixOf? s).bind fun rest =>
    let path := rest.takeWhile (· ≠ '#')
    let tail := rest.drop path.length
    let plain := match tail.dropWhile (· ≠ '@') with
      | [] => true
      | _ :: version => isVersion version
    let found := if plain then some path else beforeVersion? tail path
    found.filter (!·.isEmpty)

/-- `s` without its first `n` bytes, if a character begins behind them. -/
def dropBytes? (n : Nat) : List Char → Option (List Char)
  | [] => if n = 0 then some [] else none
  | c :: rest =>
    if n = 0 then some (c :: rest)
    else if c.utf8Size ≤ n then dropBytes? (n - c.utf8Size) rest
    else none

/-- The directory of the package that an identifier means. The identifier is taken to point below
the directory of the sources, whose length is skipped. -/
def packageDir? (identifier : String) : Option String :=
  let s := identifier.toList
  ((parenthesized? s).or (marked? s)).map fun path =>
    let below := (dropBytes? buildRoot.utf8ByteSize path).getD []
    buildRoot ++ String.ofList (below.takeWhile (· ≠ '/'))

/-! ## Diagnostics -/

/-- A rendered diagnostic, taken apart. -/
structure Diagnostic where
  severity : List Char
  message : List Char
  file : List Char
  line : List Char
  column : List Char
  /-- All that follows the place. -/
  excerpt : List Char
deriving DecidableEq, Repr

/-- What follows an arrow that stands between blanks. -/
def afterArrow? (s : List Char) : Option (List Char) :=
  let behind := s.dropWhile Text.isBlank
  if behind.length = s.length then none
  else
    ("-->".toList.isPrefixOf? behind).bind fun rest =>
      let target := rest.dropWhile Text.isBlank
      if target.length = rest.length then none else some target

/-- A number behind a colon, and what follows it. -/
def colonNumber? : List Char → Option (List Char × List Char)
  | ':' :: rest =>
    let digits := rest.takeWhile Text.isDigit
    if digits.isEmpty then none else some (digits, rest.drop digits.length)
  | _ => none

/-- Line, column and what follows them. -/
def position? (s : List Char) : Option (List Char × List Char × List Char) :=
  (colonNumber? s).bind fun (line, rest) =>
    (colonNumber? rest).map fun (column, rest) => (line, column, rest)

/-- Takes a rendered diagnostic apart: `severity: message --> file:line:column`, each up to the
first place where the next can begin. -/
def Diagnostic.ofRendered? (rendered : List Char) : Option Diagnostic := do
  let (severity, rest) ← Text.cut? [':', ' '] rendered
  let (message, rest) ← Text.cutWhere? afterArrow? rest
  let (file, line, column, excerpt) ← Text.cutWhere? position? rest
  return { severity, message, file, line, column, excerpt }

/-- The lines of the excerpt; what is left of the line with the place counts unless it is blank. -/
def Diagnostic.excerptLines (d : Diagnostic) : List (List Char) :=
  match Text.fields '\n' d.excerpt with
  | first :: rest => if first.all Text.isBlank then rest else first :: rest
  | [] => []

/-- The block of a diagnostic in a package. -/
def Diagnostic.block (dir : String) (d : Diagnostic) : String :=
  "Error: CLIPPY_WARNING:\n" ++ dir ++ "/" ++ String.ofList d.file ++ ":" ++ String.ofList d.line
    ++ ":" ++ String.ofList d.column ++ ": " ++ String.ofList d.severity ++ ": "
    ++ String.ofList d.message ++ "\n"
    ++ String.join (d.excerptLines.map fun line => "#  " ++ String.ofList line ++ "\n")
    ++ "\n"

/-- The block for a document, unless it is no diagnostic that has a place. -/
def block? (document : Json) : Option String := do
  let reason ← (← document.get? "reason").string?
  if reason ≠ "compiler-message" then none
  let dir ← packageDir? (← (← document.get? "package_id").string?)
  let rendered ← (← (← document.get? "message").get? "rendered").string?
  let d ← Diagnostic.ofRendered? (Text.trimChars rendered.toList)
  return d.block dir

/-! ## Reports -/

/-- What a line contributes: nothing, or a block. -/
def convertLine (number : Nat) (line : ByteArray) : Except Failure (Option String) :=
  match Text.decode? line with
  | none => .error ((Failure.ofSystem .notText).within "Failed to read clippy output")
  | some text =>
    if Text.isBlankText text then .ok none
    else
      match Json.parse? text with
      | some document => .ok (block? document)
      | none =>
        .error ((Failure.ofText "not a JSON document").within
          ("rust-clippy: Error while converting results (line " ++ toString number ++ ")"))

/-- Converts lines, the first having the given number, behind `blocks`; the blocks are those before
the failure, if there is one. -/
def convertLines (number : Nat) : List ByteArray → List String × Except Failure Unit
  | [] => ([], .ok ())
  | line :: rest =>
    match convertLine number line with
    | .error e => ([], .error e)
    | .ok found =>
      let (blocks, outcome) := convertLines (number + 1) rest
      (found.toList ++ blocks, outcome)

/-- Converts a report: what is written, and the number of blocks or why the conversion ended. -/
def convert (report : ByteArray) : String × Except Failure Nat :=
  let (blocks, outcome) := convertLines 1 (Text.byteLines report)
  (String.join blocks, outcome.map fun _ => blocks.length)

end ChrootScan.Clippy
