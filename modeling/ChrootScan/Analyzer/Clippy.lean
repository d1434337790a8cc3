import ChrootScan.Analyzer.Steps
import ChrootScan.Report.Clippy

/-!
# Clippy as an analyzer

A helper script makes the build of a package call it; its messages are converted once they are
copied out. It has no options.
-/

namespace ChrootScan.Clippy

open Setup

def capture : String := "/builddir/clippy-output.txt"

/-- The conversion of the messages into findings. -/
def conversion : Conversion where
  capture := capture
  output := "clippy-capture.err"
  reader := "csgrep --remove-duplicates"
  convert := fun bytes => let (text, result) := convert bytes; (text, result.map fun _ => ())

def configure {σ : Type} : Setup Hook σ Unit := do
  let script ← helper "inject-clippy.sh"
  addHook .postDepinst (.chrootCmd "inject-clippy" script false)
  install ["clippy"]
  copyOut capture
  recordVersion "clippy"
  addHook .postProcess (.convert "clippy-convert" conversion)

def analyzer {σ : Type} : Analyzer Hook σ where
  name := "clippy"
  description := "Rust source code analyzer which looks for programming errors."
  configure := configure

end ChrootScan.Clippy
