import ChrootScan.Analyzer.Steps

/-!
# Smatch

Called beside the compiler by a wrapper of its own. It has no options.
-/

namespace ChrootScan.Smatch

open Setup

def configure {σ : Type} : Setup Hook σ Unit := do
  enableWrap
  limitTime ["smatch"]
  filterCapture "csgrep --mode=json --invert-match --checker SMATCH_WARNING --event error"
  install ["smatch"]
  let _ ← wrapCompiler "csmatch"
  recordVersion "smatch"

def analyzer {σ : Type} : Analyzer Hook σ where
  name := "smatch"
  description := "Source code analysis for C, based on sparse."
  stability := .experimental
  priority := 0x38
  configure := configure

end ChrootScan.Smatch
