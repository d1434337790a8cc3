import ChrootScan.Analyzer.Steps
import ChrootScan.Hook.Download

/-!
# Gitleaks

The executable is downloaded on the host and copied into the chroot, where it scans the unpacked
sources after the build.
-/

namespace ChrootScan.Gitleaks

open Setup

/-- Where the executable comes from unless an option says otherwise. -/
def releaseUrl : String :=
  "https://github.com/zricethezav/gitleaks/releases/download/v8.15.1/"
    ++ "gitleaks_8.15.1_linux_x64.tar.gz"

structure Options where
  binUrl : String := releaseUrl
  cacheDir : Option String := none
  /-- A configuration file of the host. -/
  config : Option String := none
  /-- The findings of one kind are dropped if there are more. -/
  rateLimit : Nat := 1024
  /-- Longer messages are cut off. -/
  messageLimit : Nat := 512
  refresh : Bool := false
deriving DecidableEq, Repr

def capture : String := "/builddir/gitleaks-capture.sarif"
def captureLog : String := "/builddir/gitleaks-capture.log"

/-- Scans the sources; `config` is the configuration file in the chroot. -/
def scanCmd (program : String) (config : Option String) : String :=
  program ++ " detect --no-git --source=" ++ Plan.buildDir ++ " --report-path=" ++ capture
    ++ " --report-format=sarif" ++ (config.map (" --config-path=" ++ ·)).getD ""
    ++ " 2>" ++ captureLog

/-- Unpacks the executable into the temporary directory; if that fails, the error is on record. -/
def unpack (d : Download) (tarball : String) : Work Hook (Option String) := do
  let (result, tree) :=
    Archive.extractMember (← Work.getFiles) tarball "gitleaks" (← Work.getRecord).tmpdir
  Work.changingFiles fun _ => .ok tree
  match result with
  | .ok program => return some program
  | .error e =>
    Hook.error ("failed to extract gitleaks binary executable from .tar.gz: " ++ d.url ++ ": "
      ++ e.full) 1
    return none

/-- Takes the configuration file along; the answer is its path in the chroot. -/
def copyConfig (config : String) : Work Hook String := do
  let target ← Hook.tmpPath "gitleaks-config.js"
  Work.changingFiles fun t => t.copyFile config target
  Work.modifyPlan fun p => { p with copyInFiles := p.copyInFiles ++ [target] }
  return target

/-- Provides the executable, records its version and schedules the scan. -/
def runFetch (d : Download) (config : Option String) : Work Hook Int := do
  let some tarball ← d.fetch | return 1
  let some program ← unpack d tarball | return 1
  Download.makeExecutable program
  let (code, out) ← Download.versionOf program
  if code ≠ 0 then return code
  Work.scan (Scan.putVersion "gitleaks" (Text.dropLeading 'v' (Text.trim out)))
  Work.modifyPlan fun p =>
    { p with
      copyInFiles := p.copyInFiles ++ [program]
      copyOutFiles := p.copyOutFiles ++ [capture, captureLog] }
  let inside ← match config with
    | some file => do pure (some (← copyConfig file))
    | none => pure none
  Work.modifyPlan fun p => { p with postBuildCmds := p.postBuildCmds ++ [scanCmd program inside] }
  return 0

/-- Reads the report into the findings. -/
def filterCmd (o : Options) (source target : String) : String :=
  "csgrep" ++ Findings.operand source ++ " --mode=json --warning-rate-limit="
    ++ toString o.rateLimit ++ " --limit-msg-len=" ++ toString o.messageLimit
    ++ Findings.redirect target

def configure {σ : Type} (o : Options) : Setup Hook σ Unit := do
  let config ← match o.config with
    | some path => do
      let path ← expandTilde path
      requireFile path
      pure (some path)
    | none => pure none
  let cacheDir := o.cacheDir.getD (Path.join (← read).settings.cacheDir "gitleaks")
  addHook .preMock (.gitleaksFetch
    { tool := "gitleaks", url := o.binUrl, cacheDir, refresh := o.refresh } config)
  convertRaw "gitleaks-filter" capture "gitleaks-capture.js" (filterCmd o)

def analyzer {σ : Type} (o : Options) : Analyzer Hook σ where
  name := "gitleaks"
  description := "Tool for finding secrets in source code."
  stability := .stable
  autoEnabled := o.config.isSome
  configure := configure o

end ChrootScan.Gitleaks
