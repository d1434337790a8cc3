import ChrootScan.Analyzer.Registry
import ChrootScan.CommandLine.Grammar

/-!
# The command line of the program

The options of every command, and what a command line asks for.
-/

namespace ChrootScan

namespace CommandLine

/-! ## Options of the analyzers -/

/-- A number of at most 32 bits. -/
def number32 : ValueForm := .number Text.bound32 true

/-- A number of at most 64 bits. -/
def number64 : ValueForm := .number Text.bound64 false

/-- Flags for a tool, which begin with a dash. -/
def flags (long : String) : OptionSpec :=
  (OptionSpec.repeated long).withDashValues

/-- The options that choose the directories of an analyzer of scripts. -/
def scanDirSpecs (tool : String) : List OptionSpec :=
  OptionSpec.opposites (tool ++ "-scan-build") ("no-" ++ tool ++ "-scan-build")
    ++ OptionSpec.opposites (tool ++ "-scan-install") ("no-" ++ tool ++ "-scan-install")

def gccSpecs : List OptionSpec :=
  [.single "gcc-warning-level" (.number 3 true) (some 'w'), .flag "gcc-analyze",
    .single "gcc-analyzer-bin", flags "gcc-analyze-add-flag", .flag "gcc-set-env",
    { long := "gcc-sanitize-address"
      conflicts := ["gcc-sanitize-leak", "gcc-sanitize-thread"] },
    { long := "gcc-sanitize-leak", conflicts := ["gcc-sanitize-thread"] },
    .flag "gcc-sanitize-thread", .flag "gcc-sanitize-undefined", flags "gcc-add-flag",
    flags "gcc-add-c-only-flag", flags "gcc-add-cxx-only-flag", flags "gcc-del-flag"]

/-- The settings of the filters for Infer, each with the name of its option. -/
def inferSwitches : List String :=
  ["infer-filter", "infer-biabduction-filter", "infer-inferbo-filter", "infer-uninit-filter",
    "infer-dead-store-severity"]

/-- The option that switches another one off. -/
def negation (long : String) : String := "no-" ++ long

def analyzerSpecs : List OptionSpec :=
  gccSpecs
    ++ [flags "clang-add-flag", .flag "use-host-cppcheck", flags "cppcheck-add-flag"]
    ++ scanDirSpecs "shellcheck" ++ scanDirSpecs "pylint" ++ [.single "pylint-evt-filter"]
    ++ scanDirSpecs "bandit"
    ++ [.single "bandit-evt-filter",
      .single "bandit-severity-filter" (.choice ["LOW", "MEDIUM", "HIGH"] true),
      .flag "unicontrol-bidi-only", .flag "unicontrol-notests", flags "infer-analyze-add-flag",
      .single "infer-archive-path"]
    ++ inferSwitches.flatMap (fun long => OptionSpec.opposites long (negation long))
    ++ [flags "valgrind-add-flag", flags "strace-add-flag", flags "divine-add-flag",
      .single "divine-timeout" number32, flags "symbiotic-add-flag",
      .single "symbiotic-timeout" number32, flags "cbmc-add-flag",
      .single "cbmc-timeout" number32, .single "gitleaks-bin-url",
      .single "gitleaks-cache-dir" .path, .single "gitleaks-config",
      .single "gitleaks-rate-limit" number32, .single "gitleaks-limit-msg-len" number32,
      .flag "gitleaks-refresh", .single "semgrep-metrics", .single "semgrep-rules-repo",
      .flag "semgrep-verbose", (OptionSpec.single "semgrep-scan-opts").withDashValues,
      { OptionSpec.single "snyk-bin-url" with conflicts := ["snyk-bin"] }, .single "snyk-bin",
      .single "snyk-auth", .single "snyk-cache-dir" .path, .flag "snyk-refresh",
      .single "snyk-timeout" number64,
      (OptionSpec.single "snyk-code-test-opts").withDashValues]

/-- What a pair of opposite options says. -/
def switch (m : Matches) (long : String) : Option Bool :=
  Setup.paired (m.has long) (m.has (negation long))

/-- The directories that the options of an analyzer of scripts choose. -/
def scanDirs (m : Matches) (tool : String) : ScanDirs :=
  { build := switch m (tool ++ "-scan-build"), install := switch m (tool ++ "-scan-install") }

def gccOptions (m : Matches) : Gcc.Options :=
  { warningLevel :=
      if m.has "gcc-warning-level" then some (m.number "gcc-warning-level" 0) else none
    analyze := m.has "gcc-analyze"
    analyzerBin := m.value? "gcc-analyzer-bin"
    analyzeAddFlags := m.values "gcc-analyze-add-flag"
    setEnv := m.has "gcc-set-env"
    sanitizeAddress := m.has "gcc-sanitize-address"
    sanitizeLeak := m.has "gcc-sanitize-leak"
    sanitizeThread := m.has "gcc-sanitize-thread"
    sanitizeUndefined := m.has "gcc-sanitize-undefined"
    custom :=
      { add := m.values "gcc-add-flag"
        addCOnly := m.values "gcc-add-c-only-flag"
        addCxxOnly := m.values "gcc-add-cxx-only-flag"
        del := m.values "gcc-del-flag" } }

/-- The least severity that a name stands for. -/
def severity (name : String) : Bandit.Severity :=
  match Text.lowercase name with
  | "medium" => .medium
  | "high" => .high
  | _ => .low

def inferOptions (m : Matches) : Infer.Options :=
  { analyzeAddFlags := m.values "infer-analyze-add-flag"
    archivePath := m.value? "infer-archive-path"
    filter := switch m "infer-filter"
    biabductionFilter := switch m "infer-biabduction-filter"
    inferboFilter := switch m "infer-inferbo-filter"
    uninitFilter := switch m "infer-uninit-filter"
    deadStoreSeverity := switch m "infer-dead-store-severity" }

def gitleaksOptions (m : Matches) : Gitleaks.Options :=
  { binUrl := (m.value? "gitleaks-bin-url").getD Gitleaks.releaseUrl
    cacheDir := m.value? "gitleaks-cache-dir"
    config := m.value? "gitleaks-config"
    rateLimit := m.number "gitleaks-rate-limit" 1024
    messageLimit := m.number "gitleaks-limit-msg-len" 512
    refresh := m.has "gitleaks-refresh" }

def snykOptions (m : Matches) : Snyk.Options :=
  let standard : Snyk.Options := {}
  { binUrl := m.value? "snyk-bin-url"
    bin := m.value? "snyk-bin"
    token := (m.value? "snyk-auth").getD standard.token
    cacheDir := m.value? "snyk-cache-dir"
    refresh := m.has "snyk-refresh"
    timeout := m.number "snyk-timeout" standard.timeout
    codeTestOptions := m.value? "snyk-code-test-opts" }

def analyzerOptions (m : Matches) : AnalyzerOptions :=
  let standard : AnalyzerOptions := {}
  { gcc := gccOptions m
    clang := { addFlags := m.values "clang-add-flag" }
    cppcheck := { useHost := m.has "use-host-cppcheck", addFlags := m.values "cppcheck-add-flag" }
    shellcheck := { dirs := scanDirs m "shellcheck" }
    pylint :=
      { dirs := scanDirs m "pylint"
        eventFilter := (m.value? "pylint-evt-filter").getD standard.pylint.eventFilter }
    bandit :=
      { dirs := scanDirs m "bandit"
        eventFilter := (m.value? "bandit-evt-filter").getD standard.bandit.eventFilter
        severity := ((m.value? "bandit-severity-filter").map severity).getD .low }
    unicontrol :=
      { bidiOnly := m.has "unicontrol-bidi-only", noTests := m.has "unicontrol-notests" }
    infer := inferOptions m
    valgrind := { addFlags := m.values "valgrind-add-flag" }
    strace := { addFlags := m.values "strace-add-flag" }
    divine :=
      { addFlags := m.values "divine-add-flag"
        timeout := m.number "divine-timeout" standard.divine.timeout }
    symbiotic :=
      { addFlags := m.values "symbiotic-add-flag"
        timeout := m.number "symbiotic-timeout" standard.symbiotic.timeout }
    cbmc :=
      { addFlags := m.values "cbmc-add-flag"
        timeout := m.number "cbmc-timeout" standard.cbmc.timeout }
    gitleaks := gitleaksOptions m
    semgrep :=
      { metrics := (m.value? "semgrep-metrics").getD standard.semgrep.metrics
        rulesRepo := m.value? "semgrep-rules-repo"
        verbose := m.has "semgrep-verbose"
        scanOptions := m.value? "semgrep-scan-opts" }
    snyk := snykOptions m }

end CommandLine

/-! ## Commands -/

/-- What a scan is asked for. -/
structure ScanArgs where
  srpm : String
  output : Option String := none
  selection : ToolSelection := {}
  mockProfile : Option String := none
  addRepos : List String := []
  keepGoing : Bool := false
  noClean : Bool := false
  shellCmd : Option String := none
  /-- The packages to install, between blanks. -/
  install : Option String := none
  knownFalsePositives : Option String := none
  printDefects : Bool := false
  wrapTimeout : Option Nat := none
  analyzers : AnalyzerOptions := {}
deriving DecidableEq, Repr

/-- The names of the packages to install. -/
def ScanArgs.installPkgs (a : ScanArgs) : List String :=
  (a.install.map Text.words).getD []

/-- How the list of the analyzers is written. -/
inductive ListFormat
  | json
  | human
deriving DecidableEq, Repr

/-- What the conversion of an Infer report is asked for. -/
structure FilterInferArgs where
  onlyTransform : Bool := false
  noBiabduction : Bool := false
  noInferbo : Bool := false
  noUninit : Bool := false
  noDeadStore : Bool := false
deriving DecidableEq, Repr

/-- The filters that run. -/
def FilterInferArgs.filters (a : FilterInferArgs) : Infer.Filters :=
  if a.onlyTransform then .off
  else
    { biabduction := !a.noBiabduction
      inferbo := !a.noInferbo
      uninit := !a.noUninit
      deadStore := !a.noDeadStore }

/-- What the search for Unicode control characters is asked for. -/
structure FindUnicodeArgs where
  paths : List String
  chars : Option UnicodeControl.CharSet := none
  verbose : Bool := false
  noTests : Bool := false
  exclude : List String := []
  excludeMime : List String := []
deriving DecidableEq, Repr

/-- A command of the program. -/
inductive Request
  | scan (args : ScanArgs)
  | listTools (format : ListFormat)
  | convertClippy
  | filterInfer (args : FilterInferArgs)
  | findUnicodeControl (args : FindUnicodeArgs)
deriving DecidableEq, Repr

/-- A whole command line. -/
structure CommandLine where
  request : Request
  logLevel : Option String := none
  verbose : Bool := false
  quiet : Bool := false
deriving DecidableEq, Repr

namespace CommandLine

/-! ## Grammars of the commands -/

def scanGrammar : Grammar where
  options :=
    [.single "output" .path (some 'o'),
      { long := "tools", short := some 't', arity := .repeated, delimiter := some ',' },
      .flag "all-tools" (some 'a'), .single "root" .text (some 'r'), .repeated "addrepo",
      .flag "keep-going" (some 'k'), .flag "no-clean", .single "shell-cmd", .single "install",
      .single "known-false-positives" .path, .flag "print-defects",
      .single "cswrap-timeout" number64] ++ analyzerSpecs
  positional := some { name := "SRPM" }

def listToolsGrammar : Grammar where
  options := [.single "format" (.choice ["json", "human"] false) (some 'f')]

def filterInferGrammar : Grammar where
  options :=
    [.flag "only-transform", .flag "no-biabduction", .flag "no-inferbo", .flag "no-uninit",
      .flag "no-dead-store"]

def findUnicodeGrammar : Grammar where
  options :=
    [.single "nonprint" (.choice ["all", "bidi"] false) (some 'p'), .flag "verbose" (some 'v'),
      .flag "notests" (some 't'), .repeated "exclude", .repeated "exclude-mime"]
  positional := some { name := "PATHS", multiple := true }

/-- The grammar of a command. -/
def commandGrammars : List (String × Grammar) :=
  [("scan", scanGrammar), ("list-tools", listToolsGrammar), ("convert-clippy", {}),
    ("filter-infer", filterInferGrammar), ("find-unicode-control", findUnicodeGrammar)]

/-- The grammar of what stands before the command. -/
def grammar : Grammar where
  options :=
    [.single "log-level", .flag "verbose" (some 'v'),
      { long := "quiet", short := some 'q', conflicts := ["verbose"] }]
  commands := commandGrammars.map (·.1)
  hasVersion := true

/-! ## Requests -/

def scanArgs (m : Matches) : ScanArgs :=
  { srpm := (m.value? "SRPM").getD ""
    output := m.value? "output"
    selection :=
      { tools := if m.has "tools" then some (m.values "tools") else none
        allTools := m.has "all-tools" }
    mockProfile := m.value? "root"
    addRepos := m.values "addrepo"
    keepGoing := m.has "keep-going"
    noClean := m.has "no-clean"
    shellCmd := m.value? "shell-cmd"
    install := m.value? "install"
    knownFalsePositives := m.value? "known-false-positives"
    printDefects := m.has "print-defects"
    wrapTimeout := if m.has "cswrap-timeout" then some (m.number "cswrap-timeout" 0) else none
    analyzers := analyzerOptions m }

def filterInferArgs (m : Matches) : FilterInferArgs :=
  { onlyTransform := m.has "only-transform"
    noBiabduction := m.has "no-biabduction"
    noInferbo := m.has "no-inferbo"
    noUninit := m.has "no-uninit"
    noDeadStore := m.has "no-dead-store" }

def findUnicodeArgs (m : Matches) : FindUnicodeArgs :=
  { paths := m.values "PATHS"
    chars := (m.value? "nonprint").map .ofName
    verbose := m.has "verbose"
    noTests := m.has "notests"
    exclude := m.values "exclude"
    excludeMime := m.values "exclude-mime" }

/-- What a command asks for, given its options. -/
def requestOf (name : String) (m : Matches) : Request :=
  match name with
  | "scan" => .scan (scanArgs m)
  | "list-tools" => .listTools (if m.value? "format" == some "json" then .json else .human)
  | "convert-clippy" => .convertClippy
  | "filter-infer" => .filterInfer (filterInferArgs m)
  | _ => .findUnicodeControl (findUnicodeArgs m)

/-- Reads a command line, the name of the program left out. The command is read before what stands
in front of it is checked. -/
def read (words : List String) : Except Fault CommandLine := do
  let parsed ← readWords grammar {} words
  match parsed.command with
  | none =>
    let _ ← finish grammar parsed
    .error .missingSubcommand
  | some ("help", rest) => .error (readHelp grammar rest)
  | some (name, rest) =>
    let m ← readAll ((commandGrammars.lookup name).getD {}) rest
    let outer ← finish grammar parsed
    return {
      request := requestOf name m
      logLevel := outer.value? "log-level"
      verbose := outer.has "verbose"
      quiet := outer.has "quiet" }

/-! ## Diagnostics of the program itself -/

/-- How the program reports on its own work, given what the environment asks for. -/
def logging (c : CommandLine) (l : Logging) : Logging :=
  match c.logLevel with
  | some name => { l with level := .ofName name }
  | none =>
    if c.verbose then { l with level := .debug }
    else if c.quiet then { l with level := .error }
    else l

end CommandLine

end ChrootScan
