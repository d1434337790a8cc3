import ChrootScan.Analyzer.Steps

/-!
# Clang

The static analyzer of Clang, called beside the compiler by a wrapper of its own.
-/

namespace ChrootScan.Clang

open Setup

structure Options where
  addFlags : List String := []
deriving DecidableEq, Repr

/-- The wrapper of the C++ compiler, which not every host has. -/
def wrapCxx : String := "/usr/bin/csclng++"

def configure {σ : Type} (o : Options) : Setup Hook σ Unit := do
  enableWrap
  limitTime ["clang", "clang++"]
  setFlagsVar "CSCLNG_ADD_OPTS" o.addFlags
  filterCapture "csgrep --mode=json --invert-match --checker CLANG_WARNING --event error"
  install ["clang"]
  let _ ← wrapCompiler "csclng"
  if ← ask fun host s => host.exists? s wrapCxx then copyIn [wrapCxx]
  recordVersion "clang"

def analyzer {σ : Type} (o : Options) : Analyzer Hook σ where
  name := "clang"
  description := "Source code analysis tool that finds bugs in C, C++, and Objective-C programs."
  priority := 0x30
  configure := configure o

end ChrootScan.Clang
