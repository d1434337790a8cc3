import ChrootScan.Analyzer.Steps
import ChrootScan.Hook.Basic
import ChrootScan.Shell.Words

/-!
# Semgrep

The program and its rules are put into the temporary directory of the scan; it reads the unpacked
sources from the host, through the directory of the chroot.
-/

namespace ChrootScan.Semgrep

open Setup

structure Options where
  /-- Whether metrics are sent. -/
  metrics : String := "off"
  rulesRepo : Option String := none
  verbose : Bool := false
  scanOptions : Option String := none
deriving DecidableEq, Repr

def programVersion : String := "1.56.0"
def capture : String := "/builddir/semgrep-scan-results.sarif"
def captureLog : String := "/builddir/semgrep-scan.log"

def libDir (tmpdir : String) : String := Path.join tmpdir "semgrep_lib"
def rulesDir (tmpdir : String) : String := Path.join tmpdir "semgrep_rules"

/-- Runs the program from the temporary directory. -/
def programCmd (tmpdir : String) : String :=
  "env PATH=" ++ libDir tmpdir ++ "/bin:$PATH PYTHONPATH=" ++ libDir tmpdir ++ " semgrep"

/-! ## Preparation -/

/-- A step that failed is an error. -/
def expect (command : Shell.Command) (text : String) : Work Hook Int := do
  let code ← Hook.exec command
  if code ≠ 0 then Hook.error text 1
  return code

/-- Installs the program from the package index. -/
def installCmd (tmpdir : String) : String :=
  "python3 -m pip install --target=" ++ libDir tmpdir ++ " semgrep==" ++ programVersion

/-- Records the version of the program. -/
def recordProgramVersion (tmpdir : String) : Work Hook Int := do
  let (code, out) ← Work.scan (Scan.output (.shell (programCmd tmpdir ++ " --version")))
  if code ≠ 0 then
    Hook.error "failed to query semgrep cli version" code
  else
    Work.scan (Scan.putVersion "semgrep-cli" (Text.trimEnd out))
  return code

/-- Installs the program and fetches the rules. -/
def runPrepare (rules : String) : Work Hook Int := do
  let tmpdir := (← Work.getRecord).tmpdir
  match (← Work.getFiles).createDirs (libDir tmpdir) with
  | .error e =>
    Hook.error ("failed to create semgrep lib directory: " ++ e.message) 1
    return 1
  | .ok tree =>
    Work.changingFiles fun _ => .ok tree
    if (← expect (.shell (installCmd tmpdir)) "failed to install semgrep cli using pip") ≠ 0 then
      return 1
    let code ← expect (.argv ["git", "clone", "--depth", "1", rules, rulesDir tmpdir])
      "failed to download semgrep rules"
    if code ≠ 0 then return code
    let code ← recordProgramVersion tmpdir
    if code ≠ 0 then return code
    Work.modifyPlan fun p => { p with copyOutFiles := p.copyOutFiles ++ [capture, captureLog] }
    return 0

/-! ## The scan -/

/-- Scans the sources below the directory of the chroot. -/
def scanCmd (s : RulesScan) (tmpdir root : String) : String :=
  programCmd tmpdir ++ " scan --metrics=" ++ s.metrics ++ " --sarif --config="
    ++ Path.join (rulesDir tmpdir) "rules" ++ (if s.verbose then " --verbose" else "")
    ++ (s.options.map (" " ++ ·)).getD ""
    ++ " --output=" ++ root ++ capture ++ " " ++ root ++ Plan.buildDir ++ " 2>" ++ root
    ++ captureLog

/-- What an exit code of the program means, unless it is zero. -/
def failureText? (code : Int) : Option String :=
  if code = 0 then none
  else if code = 123 then some "Indiscriminate errors reported on standard error."
  else if code = 124 then some "Command line parsing errors."
  else if code = 125 then some "Unexpected internal errors (bugs)."
  else some ("Scan failed with exit code " ++ toString code ++ ".")

/-- Scans the sources in the chroot, whose directory must be known. -/
def runScan (s : RulesScan) : Work Hook Int := do
  match (← get).bench.chroot.root with
  | none => Hook.error "semgrep: mock root path is not known" 1
  | some root =>
    let command := scanCmd s (← Work.getRecord).tmpdir root
    match failureText? (← Hook.exec (.shell command)) with
    | some text => Hook.error ("semgrep: " ++ text ++ " Command: " ++ command) 1
    | none => pure ()
  return 0

/-! ## Findings -/

/-- The expression for the path of the rules, which the names of rules carry with dots in place of
slashes. -/
def rulesExpression (tmpdir : String) : String :=
  Text.join "\\." (Text.splitAt '/' ((Path.fileName? tmpdir).getD "" ++ "/semgrep_rules/"))

/-- Reads the report into the findings, if there is one and the chroot is known. -/
def filterCmd? (bench : Bench) : Option String := do
  let r := bench.record
  let source := r.rawPath capture
  if !bench.machine.tree.exists? source then none
  let root ← bench.chroot.root
  return "csgrep" ++ Findings.operand source ++ " --mode=json --strip-path-prefix '" ++ root
    ++ Plan.buildDir ++ "/' | sed 's|[^\\[]*" ++ rulesExpression r.tmpdir ++ "||'"
    ++ Findings.redirect (Path.join r.uniDir "semgrep-scan-results.json")

/-! ## Configuration -/

def configure {σ : Type} (o : Options) : Setup Hook σ Unit := do
  let rules ← match o.rulesRepo with
    | some rules => pure rules
    | none => reject "'--semgrep-rules-repo' is required to run semgrep scan"
  let options ← match o.scanOptions with
    | some value => do pure (some (← Shell.sanitize "--semgrep-scan-opts" value))
    | none => pure none
  addHook .preMock (.semgrepPrepare rules)
  addHook .postInstall (.semgrepScan { metrics := o.metrics, verbose := o.verbose, options })
  addHook .postProcess (.hostCmd "semgrep-filter" filterCmd?)

def analyzer {σ : Type} (o : Options) : Analyzer Hook σ where
  name := "semgrep"
  description := "A fast, open-source, static analysis engine for finding bugs, detecting "
    ++ "dependency vulnerabilities, and enforcing code standards."
  configure := configure o

end ChrootScan.Semgrep
