import ChrootScan.FileTree
import ChrootScan.Pattern.Reader
import ChrootScan.Text.Case

/-!
# Unicode control characters in sources

Characters that do not show can make sources read differently from what they do. A `Scanner` walks a
tree of files and reports every line that holds such a character, with all of them and the column of
the first.
-/

namespace ChrootScan.UnicodeControl

/-! ## Characters -/

/-- The characters that are looked for. -/
inductive CharSet
  /-- Formatting control characters. -/
  | format
  /-- Every character that cannot be printed, except the ASCII controls. -/
  | all
  /-- The nine characters that control the direction of text. -/
  | bidi
deriving DecidableEq, Repr

namespace CharSet

/-- The set with a name; a name of no set means the formatting characters. -/
def ofName : String → CharSet
  | "all" => all
  | "bidi" => bidi
  | _ => format

/-- The characters of the general category `Cf`. -/
def formatRanges : List (Nat × Nat) :=
  [(0x00AD, 0x00AD), (0x0600, 0x0605), (0x061C, 0x061C), (0x06DD, 0x06DD), (0x070F, 0x070F),
    (0x0890, 0x0891), (0x08E2, 0x08E2), (0x180E, 0x180E), (0x200B, 0x200F), (0x202A, 0x202E),
    (0x2060, 0x2064), (0x2066, 0x206F), (0xFEFF, 0xFEFF), (0xFFF9, 0xFFFB), (0x110BD, 0x110BD),
    (0x110CD, 0x110CD), (0x13430, 0x1343F), (0x1BCA0, 0x1BCA3), (0x1D173, 0x1D17A),
    (0xE0001, 0xE0001), (0xE0020, 0xE007F)]

/-- The private use areas, and characters that are none. -/
def privateRanges : List (Nat × Nat) :=
  [(0xE000, 0xF8FF), (0xFDD0, 0xFDEF), (0xF0000, 0xFFFFD), (0x100000, 0x10FFFD)]

def bidiRanges : List (Nat × Nat) := [(0x202A, 0x202E), (0x2066, 0x2069)]

/-- A character is looked for. The last two of every plane are no characters. -/
def contains (set : CharSet) (c : Char) : Bool :=
  match set with
  | format => Text.inRanges formatRanges c.toNat
  | all =>
    Text.inRanges formatRanges c.toNat || Text.inRanges privateRanges c.toNat
      || c.toNat &&& 0xFFFE == 0xFFFE
  | bidi => Text.inRanges bidiRanges c.toNat

/-- What the characters are called in a report. -/
def message : CharSet → String
  | format => "unicode control characters"
  | all => "disallowed characters"
  | bidi => "bidirectional control characters"

end CharSet

/-! ## Files left out -/

/-- How many bytes are looked at to tell text from data. -/
def headLength : Nat := 8192

/-- The media types of file name extensions. -/
def mediaTypes : List (String × List String) :=
  [("text/html", ["html", "htm", "xhtml"]), ("text/x-po", ["po", "pot"]),
    ("text/x-tex", ["tex", "sty", "cls"]),
    ("text/x-troff",
      ["man", "ms", "me", "roff", "1", "2", "3", "4", "5", "6", "7", "8", "9"])]

/-- The media type of a file: data if a NUL byte is near its start, else by its name. -/
def mediaType (path : String) (bytes : ByteArray) : String :=
  if (bytes.extract 0 headLength).toList.contains 0 then "application/octet-stream"
  else
    let extension := Text.lowercase ((Path.extension? path).getD "")
    ((mediaTypes.find? fun entry => entry.2.contains extension).map (·.1)).getD "text/plain"

/-- The file belongs to version control or is prose rather than source. -/
def isProse (shown : String) : Bool :=
  [".git/", ".hg/"].any (Text.contains · shown)
    || [".desktop", "ChangeLog", "NEWS", ".ppd", ".txt", ".directory"].any (Text.endsWith · shown)

/-- A directory on the way begins with `test` and goes on. -/
def isTest (shown : String) : Bool :=
  let rest? (s : List Char) : Option Unit :=
    ("/test".toList.isPrefixOf? s).bind fun rest =>
      let name := rest.takeWhile (· ≠ '/')
      if name.isEmpty || name.length = rest.length then none else some ()
  (Text.cutWhere? rest? shown.toList).isSome

/-- Media types that are never scanned. -/
def isMarkup (type : String) : Bool :=
  ["text/x-po", "text/x-tex", "text/x-troff", "text/html"].any (Text.endsWith · type)

/-! ## Scanning -/

/-- What is looked for, and where it is not. -/
structure Scanner where
  chars : CharSet := .format
  /-- Tests are left out. -/
  skipTests : Bool := false
  /-- More paths to leave out. -/
  skipPaths : List Pattern := []
  /-- More media types to leave out. -/
  skipTypes : List Pattern := []

namespace Scanner

/-- Reads patterns, in order up to the first that is none. -/
def readPatterns : List String → Except Failure (List Pattern)
  | [] => .ok []
  | text :: rest =>
    match Pattern.ofText? text with
    | some p => (readPatterns rest).map (p :: ·)
    | none =>
      .error ((Failure.ofText "regex parse error:").within ("Invalid exclude pattern: " ++ text))

/-- The scanner that leaves out what patterns match. -/
def ofPatterns (chars : CharSet) (skipTests : Bool) (paths types : List String) :
    Except Failure Scanner := do
  return { chars, skipTests, skipPaths := ← readPatterns paths, skipTypes := ← readPatterns types }

/-- A file of a media type is scanned. -/
def reads (s : Scanner) (shown type : String) : Bool :=
  !(isProse shown || (s.skipTests && isTest shown) || s.skipPaths.any (·.occursIn shown))
    && Text.startsWith "text/" type && !isMarkup type && !s.skipTypes.any (·.occursIn type)

/-- The characters of a line that are looked for, with their columns from zero. -/
def hits (s : Scanner) (line : List Char) : List (Char × Nat) :=
  line.zipIdx.filter fun (c, _) => s.chars.contains c

/-- A line that holds characters which are looked for. -/
structure Finding where
  /-- The number of the line, from one. -/
  line : Nat
  /-- The column of the first character, from one. -/
  column : Nat
  chars : List Char
deriving DecidableEq, Repr

/-- The finding in a line with a number from zero. -/
def inspect (s : Scanner) (line : List Char × Nat) : Option Finding :=
  match s.hits line.1 with
  | [] => none
  | all@((_, column) :: _) =>
    some { line := line.2 + 1, column := column + 1, chars := all.map (·.1) }

/-- The findings in a text. -/
def findings (s : Scanner) (text : String) : List Finding :=
  (Text.linesChars text.toList).zipIdx.filterMap s.inspect

/-- The block of a finding. -/
def block (s : Scanner) (shown : String) (f : Finding) : String :=
  "Error: UNICONTROL_WARNING:\n" ++ shown ++ ":" ++ toString f.line ++ ":" ++ toString f.column
    ++ ": warning: " ++ s.chars.message ++ ": "
    ++ Text.join " " (f.chars.map fun c => "U+" ++ Text.hexUpper 4 c.toNat) ++ "\n\n"

end Scanner

/-- What a scan writes. -/
structure Report where
  /-- The number of findings. -/
  count : Nat := 0
  out : String := ""
  /-- Notes on the files. -/
  log : String := ""
deriving DecidableEq, Repr

/-- One report behind another. -/
def Report.append (a b : Report) : Report :=
  { count := a.count + b.count, out := a.out ++ b.out, log := a.log ++ b.log }

namespace Scanner

/-- The text of a file, and whether it is not UTF-8 and every byte is taken for a character. -/
def decode (bytes : ByteArray) : String × Bool :=
  match Text.decode? bytes with
  | some text => (text, false)
  | none => (Text.decodeLatin1 bytes, true)

/-- Scans the content of a file. -/
def scanFile (s : Scanner) (path shown : String) (bytes : ByteArray) : Report :=
  if !s.reads shown (mediaType path bytes) then { log := shown ++ ": SKIPPED\n" }
  else
    let (text, latin) := decode bytes
    let found := s.findings text
    { count := found.length
      out := String.join (found.map (s.block shown))
      log := (if latin then shown ++ ": Retrying with latin1\n" else "")
        ++ (if found.isEmpty then shown ++ ": OK\n" else "") }

/-- The files at and below a place, each directory in the order of its names. -/
def filesBelow (t : FileTree) (place : Place) : List (Place × ByteArray) :=
  let files := (t.below place).filterMap fun (names, node) =>
    match node with
    | .file bytes _ => some (names, bytes)
    | _ => none
  files.mergeSort fun a b => Place.precedes a.1 b.1

/-- Scans the files below a directory, or a single file. A path is shown with `display` in place of
`root`. Symbolic links are not followed, except when the root is one that leads to a directory. -/
def scan (s : Scanner) (t : FileTree) (root display : String) : Report :=
  let unreadable (e : SystemError) : Report :=
    { log := "IO error for operation on " ++ root ++ ": " ++ e.message ++ ": UNREADABLE\n" }
  match t.locate false root, t.stat root, t.locate true root with
  | .ok place, .ok node, .ok target =>
    if place ≠ target && node ≠ .dir then {}
    else
      (filesBelow t target).foldl
        (fun report (names, bytes) =>
          let below (base : String) : String := names.foldl Path.join base
          report.append (s.scanFile (below root) (below display) bytes))
        {}
  | .error e, _, _ | _, .error e, _ | _, _, .error e => unreadable e

end Scanner

end ChrootScan.UnicodeControl
