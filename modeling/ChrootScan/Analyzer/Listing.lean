import ChrootScan.Analyzer
import ChrootScan.Json.Writer

/-!
# The list of analyzers as text
-/

namespace ChrootScan

/-- What the list says about one analyzer. -/
structure ToolInfo where
  name : String
  stability : Stability
  description : String
deriving DecidableEq, Repr

namespace ToolInfo

/-- What the list says about an analyzer. -/
def ofAnalyzer {η σ : Type} (a : Analyzer η σ) : ToolInfo :=
  { name := a.name, stability := a.stability, description := a.description }

/-! ## As a table -/

/-- A text with blanks behind it, up to a number of characters. -/
def padded (width : Nat) (s : String) : String :=
  s ++ String.ofList (List.replicate (width - s.length) ' ')

/-- One line of the table. What is not stable is marked. -/
def line (width : Nat) (t : ToolInfo) : String :=
  padded width t.name ++ "  " ++ t.description
    ++ (if t.stability = .stable then "" else " [" ++ t.stability.name ++ "]") ++ "\n"

/-- The table, whose first column is as wide as the longest name has bytes. -/
def table (tools : List ToolInfo) : String :=
  let width := (tools.map (·.name.utf8ByteSize)).foldl max 0
  String.join (tools.map (line width))

/-! ## As a document -/

/-- One entry of the document. -/
def entry (t : ToolInfo) : String :=
  Json.indentedFields 1
    [("name", Json.stringText t.name), ("stability", Json.stringText t.stability.name),
      ("description", Json.stringText t.description)]

/-- The document: an array of objects, indented. -/
def document (tools : List ToolInfo) : String :=
  Json.block "[" "]" 0 (tools.map entry)

end ToolInfo

end ChrootScan
