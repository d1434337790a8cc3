import ChrootScan.Analyzer.Steps
import ChrootScan.Hook.Download
import ChrootScan.Json.Reader
import ChrootScan.Shell.Words

/-!
# Snyk

The program scans the unpacked sources in the chroot, with network. It needs an authentication
token, which is in the chroot only while it runs.
-/

namespace ChrootScan.Snyk

open Setup

/-- Where the executable comes from unless an option says otherwise. -/
def releaseUrl : String := "https://static.snyk.io/cli/latest/snyk-linux"

structure Options where
  binUrl : Option String := none
  /-- An executable of the host. -/
  bin : Option String := none
  /-- The file with the authentication token. -/
  token : String := "~/.config/configstore/snyk.json"
  cacheDir : Option String := none
  refresh : Bool := false
  /-- In seconds. -/
  timeout : Nat := 18000
  codeTestOptions : Option String := none
deriving DecidableEq, Repr

def capture : String := "/builddir/snyk-results.sarif"
def captureLog : String := "/builddir/snyk-scan.log"
def tokenDir : String := "/builddir/.config/configstore"
def tokenFile : String := tokenDir ++ "/snyk.json"
def checker : String := "SNYK_CODE_WARNING"

/-! ## Providing the program -/

/-- The path of the program on the host. -/
def Source.path : Source → String
  | .installed path => path
  | .download d => d.path

/-- Provides the program, if it can be had. -/
def provide (source : Source) : Work Hook (Option String) := do
  match source with
  | .installed path =>
    Hook.print ("using local snyk executable: " ++ path)
    return some path
  | .download d =>
    let some program ← d.fetch | return none
    Download.makeExecutable program
    return some program

/-- What is wrong with the program, if anything. -/
def programFault? (t : FileTree) (program : String) : Option String :=
  if !t.exists? program then some ("snyk binary does not exist: " ++ program)
  else if !t.isExecutable program then some ("snyk binary is not executable: " ++ program)
  else none

/-- Provides the program, records its version and takes it along. -/
def runFetch (source : Source) : Work Hook Int := do
  let some program ← provide source | return 1
  match programFault? (← Work.getFiles) program with
  | some fault =>
    Hook.error fault 2
    return 2
  | none =>
    let (code, out) ← Download.versionOf program
    if code ≠ 0 then
      Hook.error "failed to query snyk version" code
      return code
    Work.scan (Scan.putVersion "snyk-code" (Text.trim ((Text.splitAt ' ' out).headD "")))
    Work.modifyPlan fun p =>
      { p with
        copyInFiles := p.copyInFiles ++ [program]
        copyOutFiles := p.copyOutFiles ++ [capture, captureLog] }
    return 0

/-- Makes name resolution work for the scan. -/
def runResolvConf : Work Hook Int := do
  Work.scan Chroot.copyInResolvConf
  return 0

/-! ## The scan -/

/-- Scans the sources in the chroot. -/
def scanCmd (s : OnlineScan) : String :=
  (if s.timeout > 0 then "/usr/bin/timeout " ++ toString s.timeout ++ " " else "")
    ++ s.program ++ " code test -d " ++ Plan.buildDir ++ (s.options.map (" " ++ ·)).getD ""
    ++ " --sarif-file-output=" ++ capture ++ " >/dev/null 2>" ++ captureLog

def removeTokenCmd : String := "/bin/rm -fv " ++ tokenFile

/-- The exit code for sources that the program cannot analyze. -/
def noSupportedProject : Int := 3

/-- There is no report, so it is neither copied out nor evaluated. -/
def dropReport (p : Plan Hook) : Plan Hook :=
  { p with
    copyOutFiles := p.copyOutFiles.filter (· ≠ capture)
    postProcessHooks := p.postProcessHooks.filter (·.name ≠ Hook.snykStats.name) }

/-- Takes account of how the program ended. -/
def settle (code : Int) : Work Hook Unit := do
  if code = 0 ∨ code = 1 then pure ()
  else if code = noSupportedProject then
    Hook.print "snyk-code: no supported project for Snyk"
    Work.modifyPlan dropReport
  else Hook.error ("snyk code returned unexpected exit status: " ++ toString code) code

/-- Puts the token into the chroot, scans, and removes it again. -/
def runScan (s : OnlineScan) : Work Hook Int := do
  let _ ← Work.scan (Chroot.execRoot ("mkdir -p " ++ tokenDir))
  let code ← Work.scan (Chroot.exec ["--copyin", s.token, tokenFile])
  if code ≠ 0 then
    Hook.error "failed to copy snyk authentication token" code
    return code
  let code ← Work.scan (Chroot.execOnline (scanCmd s))
  let _ ← Work.scan (Chroot.execRoot removeTokenCmd)
  settle code
  return 0

/-! ## Coverage -/

/-- How many files the program has analyzed. -/
structure Coverage where
  /-- In percent, rounded down. -/
  ratio : Nat
  supported : Nat
  total : Nat
deriving DecidableEq, Repr

namespace Coverage

/-- The number of files of an entry, and whether its language is supported. -/
def entry? (entry : Json) : Option (Nat × Bool) := do
  let files ← (← entry.get? "files").natural?
  let type ← (← entry.get? "type").string?
  return (files, type == "SUPPORTED")

/-- The number of files of all entries together. -/
def files (entries : List (Nat × Bool)) : Nat :=
  entries.foldr (fun entry n => entry.1 + n) 0

/-- The quotient of two numbers, rounded down. There is none by zero. -/
def quotient? (a b : Nat) : Option Nat :=
  if b = 0 then none else some (a / b)

/-- The coverage of entries. Without files there is nothing to divide by, and the ratio is zero. -/
def ofEntries? (entries : List (Nat × Bool)) : Option Coverage := do
  let total := files entries
  let supported := files (entries.filter (·.2))
  let ratio ← if total > 0 then quotient? (supported * 100) total else some 0
  return { ratio, supported, total }

/-- The entries that a report lists for its first run. -/
def listed? (report : Json) : Option (List Json) := do
  let run ← (← report.get? "runs").item? 0
  (← (← run.get? "properties").get? "coverage").array?

/-- The coverage that a report states for its first run. -/
def ofReport? (report : Json) : Option Coverage := do
  ofEntries? (← (← listed? report).mapM entry?)

end Coverage

/-- Records the coverage of the report. -/
def runStats : Work Hook Int := do
  let source ← Hook.rawPath capture
  match (← Work.getFiles).readBytes source with
  | .error e =>
    Hook.error ("snyk-scan: failed to read " ++ source ++ ": " ++ e.message) 1
    return 1
  | .ok bytes =>
    match Json.parseBytes? bytes with
    | none =>
      Hook.error ("snyk-scan: failed to read " ++ source ++ ": not a JSON document") 1
      return 1
    | some report =>
      match Coverage.ofReport? report with
      | none =>
        Hook.error "snyk-scan: error parsing results from snyk-results.sarif file" 1
        return 1
      | some c =>
        Work.scan (Scan.putMetadata "snyk-scanned-files-coverage" (toString c.ratio))
        Work.scan (Scan.putMetadata "snyk-scanned-files-success" (toString c.supported))
        Work.scan (Scan.putMetadata "snyk-scanned-files-total" (toString c.total))
        return 0

/-! ## Configuration -/

/-- Reads the report into the findings, if there is one. -/
def filterCmd? (bench : Bench) : Option String :=
  let source := bench.record.rawPath capture
  if bench.machine.tree.exists? source then
    some ("csgrep" ++ Findings.operand source ++ " --mode=json --prepend-path-prefix="
      ++ Plan.buildDir ++ "/ --remove-duplicates"
      ++ Findings.redirect (Path.join bench.record.uniDir "snyk-results.json"))
  else none

/-- Where options take the program from. -/
def source {σ : Type} (o : Options) : Setup Hook σ Source := do
  match o.bin with
  | some path => return .installed (← expandTilde path)
  | none =>
    return .download
      { tool := "snyk", url := o.binUrl.getD releaseUrl
        cacheDir := o.cacheDir.getD (Path.join (← read).settings.cacheDir "snyk")
        refresh := o.refresh }

def configure {σ : Type} (o : Options) : Setup Hook σ Unit := do
  let token ← expandTilde o.token
  if !(← ask fun host s => host.isReadable s token) then
    reject ("unable to read snyk authentication token: " ++ token)
  let options ← match o.codeTestOptions with
    | some value => do pure (some (← Shell.sanitize "--snyk-code-test-opts" value))
    | none => pure none
  modifyPlan fun p =>
    { p with
      importantCheckers := p.importantCheckers.insert checker ()
      importantFilters := p.importantFilters ++ [(checker, "--event=^error")] }
  let source ← source o
  addHook .preMock (.snykFetch source)
  addHook .postDepinst .snykResolvConf
  addHook .postInstall (.snykScan
    { program := Source.path source, token, options, timeout := o.timeout })
  addHook .postProcess .snykStats
  addHook .postProcess (.hostCmd "snyk-filter" filterCmd?)

def analyzer {σ : Type} (o : Options) : Analyzer Hook σ where
  name := "snyk"
  description := "Tool to find vulnerabilities in source code."
  configure := configure o

end ChrootScan.Snyk
