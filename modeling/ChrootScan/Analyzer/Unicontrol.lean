import ChrootScan.Analyzer.Steps
import ChrootScan.Hook.Basic
import ChrootScan.Report.UnicodeControl

/-!
# The search for Unicode control characters as an analyzer

It reads the unpacked sources from the host, through the directory of the chroot.
-/

namespace ChrootScan.Unicontrol

open Setup

structure Options where
  bidiOnly : Bool := false
  noTests : Bool := false
deriving DecidableEq, Repr

def version : String := "0.0.1"
def capture : String := "/builddir/unicontrol-capture.err"
def captureLog : String := "/builddir/unicontrol-capture.log"

/-- The scanner that options choose. -/
def Options.scanner (o : Options) : UnicodeControl.Scanner :=
  { chars := if o.bidiOnly then .bidi else .format, skipTests := o.noTests }

/-- Creates an empty file among the raw results, with the directories above it. -/
def createRaw (path : String) : Work Hook Unit := do
  let target ← Hook.rawPath path
  match Path.parent? target with
  | none => pure ()
  | some parent =>
    Work.within ("Failed to create " ++ parent) (Work.changingFiles fun t => t.createDirs parent)
  Work.within ("Failed to create " ++ target)
    (Work.changingFiles fun t => t.writeBytes target .empty)

/-- Scans the sources in the chroot, whose directory must be known. -/
def runScan (scanner : UnicodeControl.Scanner) : Work Hook Int := do
  match (← get).bench.chroot.hostPath Plan.buildDir with
  | none =>
    Hook.print "unicontrol: mock root path is not known"
    return 1
  | some dir =>
    createRaw capture
    createRaw captureLog
    let report := scanner.scan (← Work.getFiles) dir Plan.buildDir
    let out ← Hook.rawPath capture
    let log ← Hook.rawPath captureLog
    Work.changingFiles fun t => t.writeBytes out (Text.encode report.out)
    Work.changingFiles fun t => t.writeBytes log (Text.encode report.log)
    return 0

def configure {σ : Type} (o : Options) : Setup Hook σ Unit := do
  addHook .preMock (.metadata "analyzer-version-unicontrol" version)
  addHook .postInstall (.unicontrolScan o.scanner)
  convertRaw "unicontrol-filter" capture "unicontrol-capture.js" fun source target =>
    "csgrep --mode=json" ++ Findings.operand source ++ Findings.redirect target

def analyzer {σ : Type} (o : Options) : Analyzer Hook σ where
  name := "unicontrol"
  description := "Looks for Unicode control characters that can hide code from review."
  stability := .experimental
  configure := configure o

end ChrootScan.Unicontrol
