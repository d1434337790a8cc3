import ChrootScan.Analyzer.Steps
import ChrootScan.Hook.Basic

/-!
# Dynamic analyzers

They watch the binaries of the build while the tests of the package run, so only one of them can be
enabled at a time. Valgrind and strace run the binaries as they are; Divine, Symbiotic and CBMC
need them compiled by compilers of their own, without optimization.
-/

namespace ChrootScan

open Setup

/-! ## Valgrind -/

namespace Valgrind

structure Options where
  addFlags : List String := []
deriving DecidableEq, Repr

def captureDir : String := "/builddir/valgrind-capture"

/-- The command that binaries run under. -/
def Options.wrapCmd (o : Options) : List String :=
  ["valgrind", "--xml=yes", "--xml-file=" ++ captureDir ++ "/pid-%p-%n.xml",
    "--log-file=" ++ captureDir ++ "/pid-%p-%n.log", "--child-silent-after-fork=yes"] ++ o.addFlags

/-- Deletes the logs of processes that had nothing to say. -/
def runCleanup : Work Hook Int := do
  let dir ← Hook.rawPath captureDir
  Hook.exec (.argv ["find", dir, "-name", "pid-*.log", "-empty", "-delete"])

def configure {σ : Type} (o : Options) : Setup Hook σ Unit := do
  install ["valgrind"]
  recordVersion "valgrind"
  runUnder "valgrind" captureDir o.wrapCmd
  runCheck
  copyOut captureDir
  addHook .postProcess .valgrindCleanup
  convertRaw "valgrind-filter" captureDir "valgrind-capture.js" fun source target =>
    "csgrep --mode=json --quiet --remove-duplicates" ++ Findings.operand source ++ "/*.xml"
      ++ Findings.redirect target

def analyzer {σ : Type} (o : Options) : Analyzer Hook σ where
  name := "valgrind"
  description := "A dynamic analysis tool for finding memory management bugs in programs."
  priority := 0x01
  configure := configure o

end Valgrind

/-! ## strace -/

namespace Strace

structure Options where
  addFlags : List String := []
deriving DecidableEq, Repr

def captureDir : String := "/builddir/strace-capture"

/-- The command that binaries run under. -/
def Options.wrapCmd (o : Options) : List String :=
  ["strace", "--output=" ++ captureDir ++ "/trace", "--output-separately"] ++ o.addFlags

/-- Traces are copied out, nothing converts them. -/
def configure {σ : Type} (o : Options) : Setup Hook σ Unit := do
  install ["strace"]
  recordVersion "strace"
  runUnder "strace" captureDir o.wrapCmd
  runCheck
  copyOut captureDir

def analyzer {σ : Type} (o : Options) : Analyzer Hook σ where
  name := "strace"
  description :=
    "A dynamic analysis tool that records system calls associated with a running process."
  stability := .experimental
  priority := 0x02
  configure := configure o

end Strace

/-! ## Compilers of their own -/

/-- The filter for warnings of a compiler that are about its call alone. -/
def compilerFilter (checker : String) : String :=
  "csgrep --mode=json --invert-match --checker " ++ checker ++ " --event error"

/-- The flags of binaries that a verifier runs. -/
def verifierFlags : List String :=
  ["-Wno-unknown-warning-option", "-O0", "-g", Plan.execLinkFlag]

/-! ## Divine -/

namespace Divine

structure Options where
  addFlags : List String := []
  /-- For a single process, in seconds. -/
  timeout : Nat := 150
deriving DecidableEq, Repr

def captureDir : String := "/builddir/divine-capture"

def repo : String :=
  "https://download.copr.fedorainfracloud.org/results/@aufover/divine/fedora-$releasever-$basearch/"

/-- The command that binaries run under. -/
def Options.wrapCmd (o : Options) : List String :=
  appendToLast ["--skip-ld-linux", "csexec-divine", "-l", captureDir, "-d",
    "check --max-time " ++ toString o.timeout] o.addFlags

def configure {σ : Type} (o : Options) : Setup Hook σ Unit := do
  addRepos [repo]
  install ["divine"]
  enableWrap
  filterCapture (compilerFilter "CLANG_WARNING")
  useCompiler "dioscc" "diosc++"
  defineNoOptimization true
  recordVersion "divine"
  runUnder "divine" captureDir o.wrapCmd
  writeUnoptimizedFlags verifierFlags
  runCheck
  copyOut captureDir
  convertRaw "divine-filter" captureDir "divine-capture.js" fun source target =>
    "csgrep --mode=json --remove-duplicates" ++ Findings.operand source ++ "/pid-*.conv"
      ++ Findings.redirect target

def analyzer {σ : Type} (o : Options) : Analyzer Hook σ where
  name := "divine"
  description := "A formal verification tool based on explicit-state model checking."
  before := ["gcc"]
  configure := configure o

end Divine

/-! ## Symbiotic -/

namespace Symbiotic

structure Options where
  addFlags : List String := []
  /-- For a single process, in seconds. -/
  timeout : Nat := 30
deriving DecidableEq, Repr

def captureDir : String := "/builddir/symbiotic-capture"

def repos : List String :=
  ["https://download.copr.fedorainfracloud.org/results/@aufover/symbiotic/"
      ++ "fedora-$releasever-$basearch/",
    "https://download.copr.fedorainfracloud.org/results/@aufover/gllvm/"
      ++ "fedora-$releasever-$basearch/"]

def flags : List String :=
  ["-Wno-unused-command-line-argument", "-Wno-unused-parameter", "-Wno-unknown-attributes",
    "-Wno-unused-label", "-Wno-unknown-pragmas", "-fsanitize-address-use-after-scope", "-O0",
    "-Xclang", "-disable-llvm-passes", "-D__inline=", "-g", Plan.execLinkFlag]

/-- The command that binaries run under. -/
def Options.wrapCmd (o : Options) : List String :=
  let t := toString o.timeout
  appendToLast ["--skip-ld-linux", "/usr/bin/csexec-symbiotic", "-l", captureDir, "-s",
    "--prp=memsafety --timeout=" ++ t ++ " --instrumentation-timeout=" ++ t
      ++ " --slicer-timeout=" ++ t] o.addFlags

def configure {σ : Type} (o : Options) : Setup Hook σ Unit := do
  addRepos repos
  install ["symbiotic", "gllvm"]
  enableWrap
  filterCapture (compilerFilter "CLANG_WARNING")
  useCompiler "gclang" "gclang++"
  addHook .postDepinst (.chrootCmd "gllvm-sanity-check" "gsanity-check" true)
  defineNoOptimization true
  recordVersion "symbiotic"
  runUnder "symbiotic" captureDir o.wrapCmd
  writeUnoptimizedFlags flags
  runCheck
  copyOut captureDir
  convertRaw "symbiotic-filter" captureDir "symbiotic-capture.js" fun source target =>
    "chmod -R +r" ++ Findings.operand source ++ " && cd" ++ Findings.operand source ++ " && "
      ++ "csgrep --mode=json --remove-duplicates pid-*.conv" ++ Findings.redirect target

def analyzer {σ : Type} (o : Options) : Analyzer Hook σ where
  name := "symbiotic"
  description := "A formal verification tool based on instrumentation, program slicing and KLEE."
  before := ["gcc"]
  configure := configure o

end Symbiotic

/-! ## CBMC -/

namespace Cbmc

structure Options where
  addFlags : List String := []
  /-- For a single process, in seconds. -/
  timeout : Nat := 42
deriving DecidableEq, Repr

def captureDir : String := "/builddir/cbmc-capture"

/-- What the checker is called with in any case. -/
def baseArgs : String :=
  "--unwind 1 --json-ui --verbosity 4 --pointer-overflow-check --memory-leak-check"

/-- The command that binaries run under. -/
def Options.wrapCmd (o : Options) : List String :=
  appendToLast ["--skip-ld-linux", "/usr/bin/csexec-cbmc", "-t", toString o.timeout, "-l",
    captureDir, "-c", baseArgs] o.addFlags

/-- Converts the output of every process, then collects the findings. -/
def convertCmd (source target : String) : String :=
  "set -ex\n"
    ++ "chmod -R +r" ++ Findings.operand source ++ "\n"
    ++ "cd" ++ Findings.operand source ++ "\n"
    ++ "for file in pid-*.out; do\n"
    ++ "    cbmc-convert-output -a < \"$file\" > \"$file.conv\"\n"
    ++ "done\n"
    ++ "csgrep --mode=json --remove-duplicates pid-*.out.conv" ++ Findings.redirect target ++ "\n"

def configure {σ : Type} (o : Options) : Setup Hook σ Unit := do
  install ["cbmc", "cbmc-utils"]
  recordVersion "cbmc"
  enableWrap
  filterCapture (compilerFilter "GCC_WARNING")
  useCompiler "goto-gcc" "goto-gcc"
  defineNoOptimization false
  runUnder "cbmc" captureDir o.wrapCmd
  writeUnoptimizedFlags verifierFlags
  runCheck
  copyOut captureDir
  convertRaw "cbmc-filter" captureDir "cbmc-capture.js" convertCmd

def analyzer {σ : Type} (o : Options) : Analyzer Hook σ where
  name := "cbmc"
  description := "Bounded Model Checker for C and C++ programs."
  before := ["gcc"]
  configure := configure o

end Cbmc

end ChrootScan
