import ChrootScan.Analyzer.Steps
import ChrootScan.Hook.Basic

/-!
# GCC

The compiler's own warnings, which the build gives anyway, with flags of the user's choice; its
sanitizers, which need the tests of the package; and the analyzer inside it, run in a process of its
own through one more wrapper.
-/

namespace ChrootScan.Gcc

open Setup

structure Options where
  /-- 0, 1 or 2. -/
  warningLevel : Option Nat := none
  analyze : Bool := false
  /-- The compiler that analyzes, if it is not that of the chroot. -/
  analyzerBin : Option String := none
  analyzeAddFlags : List String := []
  setEnv : Bool := false
  sanitizeAddress : Bool := false
  sanitizeLeak : Bool := false
  sanitizeThread : Bool := false
  sanitizeUndefined : Bool := false
  custom : CustomFlags := {}
deriving DecidableEq, Repr

namespace Options

def anySanitizer (o : Options) : Bool :=
  o.sanitizeAddress || o.sanitizeLeak || o.sanitizeThread || o.sanitizeUndefined

/-- The options say something that only this analyzer can do. -/
def anyGiven (o : Options) : Bool :=
  o.warningLevel.isSome || o.analyze || o.analyzerBin.isSome || o.setEnv || o.anySanitizer
    || !o.custom.isEmpty

end Options

/-! ## Sanitizers -/

/-- A sanitizer of the compiler. -/
structure Sanitizer where
  pkgs : List String
  flag : String
  /-- Variables that the sanitizer reads. -/
  vars : List (String × String) := []
  /-- The package cannot be linked statically with it. -/
  needsSharedLinking : Bool := true

def addressSanitizer : Sanitizer :=
  { pkgs := ["libasan"], flag := "-fsanitize=address", vars := [("ASAN_OPTIONS", "detect_leaks=0")] }

def leakSanitizer : Sanitizer := { pkgs := ["liblsan"], flag := "-fsanitize=leak" }

def threadSanitizer : Sanitizer := { pkgs := ["libtsan"], flag := "-fsanitize=thread" }

def undefinedSanitizer : Sanitizer :=
  { pkgs := ["libubsan", "libubsan-static"], flag := "-fsanitize=undefined"
    needsSharedLinking := false }

/-- The sanitizers that were chosen. -/
def Options.sanitizers (o : Options) : List Sanitizer :=
  (if o.sanitizeAddress then [addressSanitizer] else [])
    ++ (if o.sanitizeLeak then [leakSanitizer] else [])
    ++ (if o.sanitizeThread then [threadSanitizer] else [])
    ++ (if o.sanitizeUndefined then [undefinedSanitizer] else [])

/-- The flags with those of a sanitizer. -/
def Sanitizer.addTo (flags : FlagMatrix) (s : Sanitizer) : FlagMatrix :=
  let flags := flags.append [s.flag]
  if s.needsSharedLinking then flags.remove ["-static"] else flags

def valgrindPackage : String := "valgrind"

/-- Prepares the build for a sanitizer, which does not go together with Valgrind. -/
def Sanitizer.prepare {η σ : Type} (s : Sanitizer) : Setup η σ Unit := do
  runCheck
  install s.pkgs
  modifyPlan fun p => { p with installBlacklist := p.installBlacklist ++ [valgrindPackage] }
  s.vars.forM fun (name, value) => setVar name value

/-! ## The analyzer inside the compiler -/

def analyzerWrap : String := "/usr/bin/csgcca"

/-- The directory of the wrapper that calls the analyzer, if it is wanted. -/
def analyzerDir? {η σ : Type} (o : Options) : Setup η σ (Option String) := do
  if !(o.analyze || o.analyzerBin.isSome || (← read).allTools) then return none
  match o.analyzerBin.filter fun path => !Path.isAbsolute path with
  | some path =>
    reject ("--gcc-analyzer-bin should be an absolute path. Found value: '" ++ path ++ "'.")
  | none =>
    match ← commandOutput (wrapQuery analyzerWrap) with
    | none => reject ("--gcc-analyze requires " ++ analyzerWrap ++ " to be available")
    | some dir =>
      copyIn [analyzerWrap, dir]
      return some dir

/-- The name of the wrapper around another compiler, and its path in the chroot. -/
def wrapperName : String := "csmock-gcc-wrapper"
def wrapperPath : String := "/usr/bin/" ++ wrapperName

/-- Compiles a trivial program under the analyzer. -/
def probeCmd (compiler : String) : String :=
  "echo 'int main() \x7b\x7d' | " ++ compiler ++ " -xc - -c -o /dev/null "
    ++ "-fanalyzer -fdiagnostics-path-format=separate-events"

/-- Writes a script that calls another compiler. -/
def wrapperCmd (compiler : String) : String :=
  "echo '#!/bin/bash\nexec " ++ compiler ++ " \"$@\"' > " ++ wrapperPath ++ " && chmod 755 "
    ++ wrapperPath

/-- Sends calls of that script through the compiler wrapper. -/
def wrapperLinkCmd (wrapDir : String) : String :=
  "ln -sf ../../bin/cswrap " ++ wrapDir ++ "/" ++ wrapperName

/-- The version on the first line of what the compiler says about itself: its third word. -/
def versionOf (out : String) : String :=
  let first := Text.trim ((Text.lines out).headD "")
  ((Text.splitAt ' ' first)[2]?).getD first

/-- Puts the wrapper of the analyzer right before the compiler wrapper, so that no other wrapper
calls the analyzer. -/
def enterPath (a : InlineAnalyzer) (p : Plan Hook) : Plan Hook :=
  let p := p.insertPathBeforeWrap a.wrapPath
  let p := p.addWrapTimeoutFor [if a.compiler.isSome then wrapperName else "gcc"]
  if a.addFlags.isEmpty then p
  else { p with env := p.env.insert "CSGCCA_ADD_OPTS" (Text.join ":" a.addFlags) }

/-- Makes another compiler callable through the compiler wrapper; the answer is the exit code of
the first step that failed, or zero. -/
def installWrapper (compiler : String) : Work Hook Int := do
  let code ← Hook.runChrootCmd (wrapperCmd compiler) false
  if code ≠ 0 then
    Hook.error "failed to create csmock gcc wrapper script" 1
    return code
  let dir := ((← Work.getPlan).wrapPath).getD ""
  let code ← Hook.runChrootCmd (wrapperLinkCmd dir) false
  if code ≠ 0 then
    Hook.error "failed to create csmock gcc wrapper symlink" 1
    return code
  Work.modifyPlan fun p => { p with env := p.env.insert "CSGCCA_ANALYZER_BIN" wrapperName }
  return 0

/-- Records the version of the compiler that analyzes. -/
def recordAnalyzerVersion (compiler : String) : Work Hook Int := do
  let (code, out) ← Work.scan (Chroot.outputOf (compiler ++ " --version"))
  if code ≠ 0 then return code
  Work.scan (Scan.putVersion "gcc-analyzer" (versionOf out))
  return 0

/-- Checks that the analyzer works in the chroot and makes the build call it. -/
def runAnalyzer (a : InlineAnalyzer) : Work Hook Int := do
  let compiler := a.compiler.getD "gcc"
  if (← Hook.runChrootCmd (probeCmd compiler) true) ≠ 0 then
    Hook.error ("\x60" ++ compiler ++ " -fanalyzer\x60 does not seem to work, disabling the tool") 0
    return 0
  let code ← match a.compiler with
    | some other => installWrapper other
    | none => pure 0
  if code ≠ 0 then return code
  Work.modifyPlan (enterPath a)
  recordAnalyzerVersion compiler

/-! ## Configuration -/

def configure {σ : Type} (o : Options) : Setup Hook σ Unit := do
  let analyzerDir ← analyzerDir? o
  if o.setEnv then
    setVar "CC" "gcc"
    setVar "CXX" "g++"
  o.sanitizers.forM Sanitizer.prepare
  let level := FlagMatrix.ofWarningLevel (o.warningLevel.getD 0)
  let flags := (o.sanitizers.foldl Sanitizer.addTo level).appendCustom o.custom
  if o.anySanitizer && (← getPlan).installs valgrindPackage then
    reject "GCC sanitizers are not compatible with valgrind"
  install ["gcc"]
  enableWrap
  filterCapture "csgrep --mode=json --invert-match --checker COMPILER_WARNING --event error"
  writeFlags flags
  recordVersion "gcc"
  match analyzerDir with
  | none => pure ()
  | some dir =>
    addHook .postDepinst (.gccAnalyzer
      { wrapPath := dir, compiler := o.analyzerBin, addFlags := o.analyzeAddFlags })

def analyzer {σ : Type} (o : Options) : Analyzer Hook σ where
  name := "gcc"
  description := "Plugin capturing GCC warnings, optionally with customized compiler flags."
  stability := .stable
  autoEnabled := o.anyGiven
  configure := configure o
  configureDisabled :=
    filterCapture "csgrep --mode=json --invert-match --checker COMPILER_WARNING"

end ChrootScan.Gcc
