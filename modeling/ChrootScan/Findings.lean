import ChrootScan.Plan
import ChrootScan.Record

/-!
# Findings

Merging, filtering and rendering of what the analyzers found. The work is done by programs for
lists of findings; here their pipelines are written and run.
-/

namespace ChrootScan.Findings

open Scan

/-! ## Pipelines -/

/-- Leaves internal warnings of the analyzers out of every final report. -/
def finalFilterArgs : String :=
  "--invert-match --event \"internal warning\" --prune-events=1"

/-- The expression that matches exactly the given checkers. -/
def checkerPattern (checkers : List String) : String :=
  "^(" ++ Text.join "|" (checkers.mergeSort (· ≤ ·)) ++ ")$"

/-- `stem.js` with another ending in place of `.js`. -/
def sibling (js ending : String) : String :=
  (Text.beforeTail? ".js" js).getD js ++ ending

/-- A path as an operand of a pipeline. -/
def operand (path : String) : String :=
  " '" ++ path ++ "'"

/-- Redirects the end of a pipeline into a file. -/
def redirect (path : String) : String :=
  " >" ++ operand path

/-- Stages of a pipeline, each behind a bar. -/
def stages (filters : List String) : String :=
  String.join (filters.map (" | " ++ ·))

/-- One property for the merged results. -/
def propertyArg (property : String × String) : String :=
  " --set-scan-prop=" ++ Shell.singleQuote (property.1 ++ ":" ++ property.2)

/-- Merges inputs into one file that carries the properties of the scan. -/
def mergeCmd (inputs : List String) (properties : List (String × String)) (target : String) :
    String :=
  "csgrep --mode=json --remove-duplicates" ++ String.join (properties.map propertyArg)
    ++ String.join (inputs.map operand) ++ redirect target

/-- Converts the capture of the compiler wrapper. -/
def captureCmd (source : String) (filters : List String) (target : String) : String :=
  "csgrep --mode=json --quiet" ++ operand source ++ stages filters ++ " | csgrep --mode=json"
    ++ redirect target

/-- Renders findings as text, as a web page and as a summary. -/
def transformCmds (js : String) : List String :=
  ["csgrep --mode=grep " ++ finalFilterArgs ++ operand js ++ redirect (sibling js ".err"),
    "csgrep --mode=json " ++ finalFilterArgs ++ operand js ++ " | cshtml -"
      ++ redirect (sibling js ".html"),
    "csgrep --mode=evtstat " ++ finalFilterArgs ++ operand js ++ " | tee"
      ++ operand (sibling js "-summary.txt")]

/-- The stage that leaves out the unimportant findings of one checker. -/
def importantStage (js : String) (checkers : List String) (filter : String × String) : String :=
  " | csdiff <(csgrep" ++ operand js
    ++ " --mode=json --drop-scan-props --invert-regex --checker '"
    ++ checkerPattern (checkers.filter (· ≠ filter.1)) ++ "' " ++ filter.2 ++ ") -"

/-- Writes the important findings. The process substitutions need a shell that has them. -/
def importantCmd (js : String) (checkers : List String) (filters : List (String × String)) :
    String :=
  Shell.commandLine .escaped
    ["bash", "-c",
      "csgrep" ++ operand js ++ " --mode=json --checker '" ++ checkerPattern checkers ++ "'"
        ++ String.join (filters.map (importantStage js checkers))
        ++ " | csgrep --mode=json --set-imp-level=0"
        ++ " <(csgrep --mode=json --imp-level=1" ++ operand js ++ ") -"
        ++ redirect (sibling js "-imp.js")]

/-- Runs findings through filters into a last stage. -/
def filteredCmd (all : String) (filters : List String) (tail : String) : String :=
  "cat" ++ operand all ++ stages filters ++ " | " ++ tail

/-- Tags the important findings among all. -/
def linkCmd (js : String) : String :=
  let important := sibling js "-imp.js"
  "cslinker --implist" ++ operand important ++ operand js ++ redirect (sibling js "-all.js")
    ++ " && mv -v" ++ operand important ++ operand js

/-- Leaves out findings on the list of known false positives. -/
def knownFilter (list : String) : String :=
  "csdiff --json-output --show-internal \"" ++ list ++ "\" -"

/-- Leaves out findings in files whose path matches an expression. -/
def pathFilter (expression : String) : String :=
  "csgrep --mode=json --invert-match --path=" ++ Shell.quote expression

/-! ## Running them -/

def runShell (command : String) : Scan Int :=
  exec (.shell command)

/-- Converts the capture of the compiler wrapper, if one was copied out. -/
def processCapture {η : Type} (plan : Plan η) : Scan Unit := do
  let r ← getRecord
  let source := r.rawPath Plan.wrapCaptureFile
  if (← files).isFile source then
    let target := Path.join r.uniDir "cswrap-capture.js"
    let code ← runShell (captureCmd source plan.wrapFilters target)
    if code ≠ 0 then error "failed to process cswrap capture" 1

/-- The files in a directory, by their paths. -/
def filesIn (t : FileTree) (dir : String) : Except SystemError (List String) :=
  (t.names dir).map fun names => (names.map (Path.join dir)).filter t.isFile

/-- Merges all results into one file; the answer is its path. -/
def merge : Scan String := do
  let r ← getRecord
  match filesIn (← files) r.uniDir with
  | .error e => throw (.system e)
  | .ok inputs =>
    let target := Path.join r.debugDir "scan-results-all.js"
    print "merging results..."
    let code ← runShell (mergeCmd inputs r.entries target)
    if code ≠ 0 then error "failed to merge results" 1
    return target

/-- The file with the path exclusions of a package, beside a list of known false positives. -/
def exclusionsFile? (list pkg : String) : Option String :=
  (Text.beforeTail? ".js" list).map fun stem =>
    Path.join (Path.join (stem ++ ".d") pkg) "exclude-paths.txt"

/-- The filters for the lines of a file of path exclusions. -/
def exclusionFilters (content : String) : List String :=
  (((Text.lines content).map Text.trim).filter (· ≠ "")).map pathFilter

/-- Installs the filters for known false positives; the answer is the plan with them. The filters
installed before an error stay in the plan. -/
def installKnown {η : Type} (plan : Plan η) : StateM Bench (Except ScanError Unit × Plan η) := do
  match plan.knownFalsePositives with
  | none => return (.ok (), plan)
  | some list =>
    match ← (putMetadata "known-false-positives" list).run with
    | .error e => return (.error e, plan)
    | .ok () =>
      let plan := { plan with resultFilters := plan.resultFilters ++ [knownFilter list] }
      match plan.pkg.bind (exclusionsFile? list) with
      | none => return (.ok (), plan)
      | some file =>
        if !(← files).isFile file then return (.ok (), plan)
        match (← files).readText file with
        | .error e => return (.error (.system e), plan)
        | .ok content =>
          return (.ok (),
            { plan with resultFilters := plan.resultFilters ++ exclusionFilters content })

/-- Renders findings; the answer is the path of the text. -/
def transform (js : String) : Scan String := do
  (transformCmds js).forM fun command => do
    let _ ← runShell command
  return sibling js ".err"

/-- Shows findings on standard output. -/
def showText (text : String) : Scan Unit := do
  match ← (onMachine fun m => m.runInherited ["csgrep", text] :
      StateM Bench (Except SystemError Ending)) with
  | .ok _ => pure ()
  | .error e => error ("failed to print defects: " ++ e.message) 0

/-- Tags important findings, if any checker has them, and renders the reports. -/
def finalize {η : Type} (plan : Plan η) (js : String) : Scan Unit := do
  let checkers := plan.importantCheckers.keys
  if !checkers.isEmpty then
    let _ ← runShell (importantCmd js checkers plan.importantFilters)
    let code ← runShell (linkCmd js)
    if code ≠ 0 then error "failed to tag important findings in the full results" 0
    let _ ← transform (sibling js "-all.js")
  let text ← transform js
  if plan.printDefects then showText text

/-- Links a report under the name for important findings. -/
def linkImportant (ending : String) : Scan Unit := do
  let r ← getRecord
  let _ ← exec (.argv ["ln", "-s", "scan-results" ++ ending,
    Path.join r.resdir ("scan-results-imp" ++ ending)])

/-- Filters and sorts the findings, and keeps those left out in a file of their own. -/
def apply {η : Type} (plan : Plan η) (suppressed : List String) : Scan Unit := do
  let r ← getRecord
  let js := Path.join r.resdir "scan-results.js"
  let all := Path.join r.debugDir "scan-results-all.js"
  let _ ← runShell (filteredCmd all plan.resultFilters ("cssort --key=path" ++ redirect js))
  let left := Path.join r.debugDir "suppressed-results.js"
  let _ ← runShell (filteredCmd all suppressed
    ("csdiff --show-internal" ++ operand js ++ " - | cssort" ++ redirect left))
  finalize plan left
  finalize plan js
  if !plan.importantCheckers.keys.isEmpty then
    [".err", ".html", ".js", "-summary.txt"].forM linkImportant

end ChrootScan.Findings
