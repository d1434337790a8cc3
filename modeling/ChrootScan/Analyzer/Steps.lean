import ChrootScan.Analyzer
import ChrootScan.Hook

/-!
# Hooks that several analyzers schedule
-/

namespace ChrootScan.Setup

variable {σ : Type}

/-- Records the version of a tool once the packages are installed. -/
def recordVersion (tool : String) : Setup Hook σ Unit :=
  addHook .postDepinst (.toolVersion tool)

/-- Creates the directory that a dynamic analyzer writes into. -/
def createCaptureDir (tool dir : String) : Setup Hook σ Unit :=
  addHook .postDepinst (.chrootCmd (tool ++ "-capture-dir") ("mkdir -pv '" ++ dir ++ "'") true)

/-- The command that reads a capture, passes it through a filter and writes it to the findings. -/
def captureFilterCmd (capture filter : String) (r : Record) : String :=
  "csgrep --quiet" ++ Findings.operand (r.rawPath capture) ++ " | " ++ filter
    ++ Findings.redirect (Path.join r.uniDir ((Path.fileName? capture).getD ""))

/-- Passes a capture through a filter into the findings. -/
def filterRaw (name capture filter : String) : Setup Hook σ Unit :=
  addHook .postProcess
    (.hostCmd name fun bench => some (captureFilterCmd capture filter bench.record))

/-- Runs a command rendered from the raw path of a capture and the path of its findings. -/
def convertRaw (name capture output : String) (command : String → String → String) :
    Setup Hook σ Unit :=
  addHook .postProcess (.hostCmd name fun bench =>
    some (command (bench.record.rawPath capture) (Path.join bench.record.uniDir output)))

/-- What dynamic analyzers have in common: the binaries of the build run under a command, and what
it writes is copied out. -/
def runUnder (tool captureDir : String) (argv : List String) : Setup Hook σ Unit := do
  enableExec
  createCaptureDir tool captureDir
  setExecWrap argv

end ChrootScan.Setup
