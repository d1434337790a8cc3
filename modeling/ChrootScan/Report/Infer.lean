import ChrootScan.Failure
import ChrootScan.Json.Reader
import ChrootScan.Json.Writer
import ChrootScan.Text.Case

/-!
# Reports of the Infer analyzer

A report is a JSON array of bugs. Bugs that are known to be false alarms most of the time are left
out, dead stores are downgraded, and the rest becomes text. A filter that does not find what it
looks at keeps the bug.
-/

namespace ChrootScan.Infer

/-- What filters run. -/
structure Filters where
  biabduction : Bool := true
  inferbo : Bool := true
  uninit : Bool := true
  deadStore : Bool := true
deriving DecidableEq, Repr

/-- The report is converted only. -/
def Filters.off : Filters := ⟨false, false, false, false⟩

/-- The text in a member of an object. -/
def text? (name : String) (bug : Json) : Option String :=
  (bug.get? name).bind Json.string?

/-- The part of a text on its first line. -/
def firstLine (s : List Char) : List Char :=
  s.takeWhile (· ≠ '\n')

/-- A text begins with `lead`, and the rest of its line fulfils a condition. -/
def begins (lead : String) (condition : List Char → Bool) (s : String) : Bool :=
  ((lead.toList.isPrefixOf? s.toList).map fun rest => condition (firstLine rest)).getD false

/-! ## False alarms -/

/-- A value read through an array subscript that was never initialized, followed by anything. -/
def readsSubscript : String → Bool :=
  begins "The value read from " fun line =>
    (Text.cutWhere? (fun rest =>
      ("[_] was never initialized".toList.isPrefixOf? rest).filter (!·.isEmpty)) line).isSome

/-- Reads through subscripts are almost always initialized. -/
def uninitAlarm? (bug : Json) : Option Bool := do
  if (← text? "bug_type" bug) ≠ "UNINITIALIZED_VALUE" then return false
  return readsSubscript (← text? "qualifier" bug)

/-- A step of a trace skips a call. -/
def skipsCall : String → Bool :=
  begins "Skipping " fun line => Text.containsChars "():".toList line

/-- A step of a trace skips the cases of a switch. -/
def skipsCases : String → Bool :=
  begins "Switch condition is false" fun line =>
    " Skipping switch case".toList.isPrefixOf (line.drop 1)

/-- Steps of a trace, up to the first that skips something. -/
def skipsStep? : List Json → Option Bool
  | [] => some false
  | step :: rest => do
    let description ← text? "description" step
    if skipsCall description || skipsCases description then return true
    skipsStep? rest

/-- Findings that rest on calls the analysis has skipped. -/
def biabductionAlarm? (bug : Json) : Option Bool := do
  let type ← text? "bug_type" bug
  if type ≠ "NULL_DEREFERENCE" && type ≠ "RESOURCE_LEAK" then return false
  skipsStep? (← (← bug.get? "bug_trace").array?)

def unknownRangeTypes : List String := ["BUFFER_OVERRUN_U5", "INTEGER_OVERFLOW_U5"]

def rangeTypes : List String :=
  ["BUFFER_OVERRUN_L2", "BUFFER_OVERRUN_L3", "BUFFER_OVERRUN_L4", "BUFFER_OVERRUN_L5",
    "BUFFER_OVERRUN_S2", "INFERBO_ALLOC_MAY_BE_NEGATIVE", "INFERBO_ALLOC_MAY_BE_BIG",
    "INTEGER_OVERFLOW_L2", "INTEGER_OVERFLOW_L5", "INTEGER_OVERFLOW_U5"]

/-- Findings with ranges that are unknown or unbounded. -/
def inferboAlarm? (bug : Json) : Option Bool := do
  let type ← text? "bug_type" bug
  if unknownRangeTypes.contains type then return true
  if !rangeTypes.contains type then return false
  let qualifier ← text? "qualifier" bug
  return Text.contains "+oo" qualifier || Text.contains "-oo" qualifier

/-- One of the filters leaves the bug out. -/
def isFalseAlarm (filters : Filters) (bug : Json) : Bool :=
  (filters.uninit && uninitAlarm? bug == some true)
    || (filters.biabduction && biabductionAlarm? bug == some true)
    || (filters.inferbo && inferboAlarm? bug == some true)

/-- The bug as it is reported: a dead store counts as a warning. -/
def adjust (filters : Filters) (bug : Json) : Json :=
  match bug with
  | .object members =>
    if filters.deadStore && text? "bug_type" bug == some "DEAD_STORE" then
      .object (Json.insertMember "severity" (.string "WARNING") members)
    else bug
  | _ => bug

/-! ## Text -/

/-- A member as it is shown: texts without quotes, nothing for none. -/
def field (name : String) (bug : Json) : String :=
  match bug.get? name with
  | none | some .null => ""
  | some (.string s) => s
  | some value => value.compact

/-- One step of a trace. -/
def renderStep (step : Json) : String :=
  field "filename" step ++ ":" ++ field "line_number" step ++ ":" ++ field "column_number" step
    ++ ": note: " ++ field "description" step ++ "\n"

/-- The text of a bug. -/
def render (bug : Json) : String :=
  "Error: INFER_WARNING:\n"
    ++ String.join ((((bug.get? "bug_trace").bind Json.array?).getD []).map renderStep)
    ++ field "file" bug ++ ":" ++ field "line" bug ++ ":" ++ field "column" bug ++ ": "
    ++ Text.lowercase (field "severity" bug) ++ "[" ++ field "bug_type" bug ++ "]: "
    ++ field "qualifier" bug ++ "\n"

/-- Writes bugs behind those that are written already, with an empty line between two of them.
Returns the text and how many bugs it has. -/
def writeBugs (filters : Filters) : List Json → String × Nat → String × Nat
  | [], written => written
  | bug :: bugs, (text, count) =>
    if isFalseAlarm filters bug then writeBugs filters bugs (text, count)
    else
      let between := if count = 0 then "" else "\n"
      writeBugs filters bugs (text ++ between ++ render (adjust filters bug), count + 1)

/-- Filters a report: the text of the bugs that are kept, and their number. -/
def filterReport (filters : Filters) : Json → Except Failure (String × Nat)
  | .array bugs => .ok (writeBugs filters bugs ("", 0))
  | _ => .error (Failure.ofText "infer report is not a JSON array")

/-- Converts a report as it is read. -/
def convert (filters : Filters) (report : ByteArray) : Except Failure (String × Nat) :=
  match Json.parseBytes? report with
  | none => .error ((Failure.ofText "not a JSON document").within "Failed to parse infer report")
  | some report => filterReport filters report

end ChrootScan.Infer
