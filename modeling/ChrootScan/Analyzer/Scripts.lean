import ChrootScan.Analyzer.Steps

/-!
# Analyzers of scripts

ShellCheck, Pylint and Bandit look at files, not at compiler calls. A helper script finds the files
in the directories that the options choose, and what it writes is filtered once it is copied out.
-/

namespace ChrootScan

open Setup

/-- Which directories are scanned, where an option says so. -/
structure ScanDirs where
  build : Option Bool := none
  install : Option Bool := none
deriving DecidableEq, Repr

/-- What an analyzer of scripts is made of. -/
structure ScriptAnalyzer where
  name : String
  /-- The package that installs it. -/
  pkg : String
  /-- The helper script that calls it. -/
  helper : String
  /-- What stands before the directories on the command line of the helper script. -/
  args : List String := []
  /-- What stands before the call of the helper script. -/
  preamble : String := ""
  capture : String
  /-- The filter for what was captured. -/
  filter : String

namespace ScriptAnalyzer

/-- The command that runs the helper script on directories. -/
def command (a : ScriptAnalyzer) (script dirs : String) : String :=
  a.preamble ++ Text.join " " (script :: a.args ++ [dirs]) ++ " > " ++ a.capture

def configure {σ : Type} (a : ScriptAnalyzer) (dirs : ScanDirs) : Setup Hook σ Unit := do
  let dirs ← dirsToScan a.name dirs.build dirs.install
  install [a.pkg]
  let script ← Setup.helper a.helper
  afterBuild (a.command script dirs)
  copyOut a.capture
  recordVersion a.pkg
  filterRaw (a.name ++ "-filter") a.capture a.filter

end ScriptAnalyzer

/-- Patterns that match no file are to vanish from the command line. -/
def dropUnmatched : String := "shopt -s nullglob && "

/-- The filter that keeps findings with an event. -/
def eventFilter (expression : String) : String :=
  "csgrep --event '" ++ expression ++ "'"

/-! ## ShellCheck -/

namespace Shellcheck

structure Options where
  dirs : ScanDirs := {}
deriving DecidableEq, Repr

def script : ScriptAnalyzer where
  name := "shellcheck"
  pkg := "ShellCheck"
  helper := "run-shellcheck.sh"
  capture := "/builddir/shellcheck-capture.err"
  filter := "csgrep --invert-match --event '^note|warning\\[SC1090\\]'"

def analyzer {σ : Type} (o : Options) : Analyzer Hook σ where
  name := script.name
  description :=
    "A static analysis tool that gives warnings and suggestions for bash/sh shell scripts."
  priority := 0x58
  configure := script.configure o.dirs

end Shellcheck

/-! ## Pylint -/

namespace Pylint

structure Options where
  dirs : ScanDirs := {}
  eventFilter : String := "^W[0-9]+"
deriving DecidableEq, Repr

def script (o : Options) : ScriptAnalyzer where
  name := "pylint"
  pkg := "pylint"
  helper := "run-pylint.sh"
  preamble := dropUnmatched
  capture := "/builddir/pylint-capture.err"
  filter := ChrootScan.eventFilter o.eventFilter

def analyzer {σ : Type} (o : Options) : Analyzer Hook σ where
  name := (script o).name
  description := "Python source code analyzer which looks for programming errors."
  priority := 0x50
  configure := (script o).configure o.dirs

end Pylint

/-! ## Bandit -/

namespace Bandit

/-- The least severity that is reported. -/
inductive Severity
  | low
  | medium
  | high
deriving DecidableEq, Repr

def Severity.flag : Severity → String
  | low => "-l"
  | medium => "-ll"
  | high => "-lll"

structure Options where
  dirs : ScanDirs := {}
  eventFilter : String := "^B[0-9]+"
  severity : Severity := .low
deriving DecidableEq, Repr

def script (o : Options) : ScriptAnalyzer where
  name := "bandit"
  pkg := "bandit"
  helper := "run-bandit.sh"
  args := [o.severity.flag]
  preamble := dropUnmatched
  capture := "/builddir/bandit-capture.err"
  filter := ChrootScan.eventFilter o.eventFilter

def analyzer {σ : Type} (o : Options) : Analyzer Hook σ where
  name := (script o).name
  description := "A tool designed to find common security issues in Python code."
  configure := (script o).configure o.dirs

end Bandit

end ChrootScan
