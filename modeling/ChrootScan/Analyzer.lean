import ChrootScan.Host
import ChrootScan.Plan
import ChrootScan.Settings

/-!
# Analyzers

An analyzer owns the options of one analysis. While a scan is configured it edits the plan, asking
the host where it must. The kind `η` of hooks and the state `σ` of the host are parameters.
-/

namespace ChrootScan

/-- How far an analyzer can be relied on. -/
inductive Stability
  /-- Enabled when all analyzers are asked for. -/
  | stable
  | normal
  | experimental
deriving DecidableEq, Repr

def Stability.name : Stability → String
  | stable => "stable"
  | normal => "normal"
  | experimental => "experimental"

/-- What analyzers see while they are configured. -/
structure Surroundings (σ : Type) where
  host : Host σ
  settings : Settings := {}
  /-- All analyzers were asked for. -/
  allTools : Bool := false
  /-- The working directory. -/
  cwd : String := "/"

/-- A plan under configuration, and the host as the questions asked have left it. -/
structure Draft (η σ : Type) where
  plan : Plan η
  host : σ

/-- Configuration of a plan. It may fail; the edits made before a failure stay. -/
abbrev Setup (η σ α : Type) :=
  ReaderT (Surroundings σ) (ExceptT ScanError (StateM (Draft η σ))) α

/-- An analyzer with its options. -/
structure Analyzer (η σ : Type) where
  name : String
  description : String
  stability : Stability := .normal
  /-- Lower is configured first, where no constraint decides. -/
  priority : Nat := 0x10
  /-- The analyzers that this one has to be configured before. -/
  before : List String := []
  /-- Its options enable it on their own. -/
  autoEnabled : Bool := false
  /-- Edits the plan when the analyzer is enabled. -/
  configure : Setup η σ Unit
  /-- Edits the plan when it is not. -/
  configureDisabled : Setup η σ Unit := pure ()

namespace Setup

variable {η σ : Type}

/-! ## The plan -/

def getPlan : Setup η σ (Plan η) := do
  return (← get).plan

def modifyPlan (f : Plan η → Plan η) : Setup η σ Unit :=
  modify fun d => { d with plan := f d.plan }

/-- Fails because of how the analyzer is used. -/
def reject {α : Type} (text : String) : Setup η σ α :=
  throw (.usage text)

/-- Schedules a hook. -/
def addHook (phase : HookPhase) (hook : η) : Setup η σ Unit :=
  modifyPlan fun p => p.addHook phase hook

/-- Packages to install in the chroot. -/
def install (pkgs : List String) : Setup η σ Unit :=
  modifyPlan fun p => { p with installPkgs := p.installPkgs ++ pkgs }

/-- Files to copy from the host into the chroot. -/
def copyIn (files : List String) : Setup η σ Unit :=
  modifyPlan fun p => { p with copyInFiles := p.copyInFiles ++ files }

/-- A file or directory to copy out of the chroot. -/
def copyOut (path : String) : Setup η σ Unit :=
  modifyPlan fun p => { p with copyOutFiles := p.copyOutFiles ++ [path] }

/-- A variable of the build. -/
def setVar (name value : String) : Setup η σ Unit :=
  modifyPlan fun p => { p with env := p.env.insert name value }

/-- A command to run in the chroot after the build. -/
def afterBuild (command : String) : Setup η σ Unit :=
  modifyPlan fun p => { p with postBuildCmds := p.postBuildCmds ++ [command] }

/-- A filter for the capture of the compiler wrapper. -/
def filterCapture (filter : String) : Setup η σ Unit :=
  modifyPlan fun p => { p with wrapFilters := p.wrapFilters ++ [filter] }

/-- The tests of the package are to be run. -/
def runCheck : Setup η σ Unit :=
  modifyPlan fun p => { p with runCheck := true }

/-- A repository for the chroot. -/
def addRepos (urls : List String) : Setup η σ Unit :=
  modifyPlan fun p => { p with addRepos := p.addRepos ++ urls }

/-! ## The host -/

/-- Asks the host a question about its files. -/
def ask {α : Type} (question : Host σ → σ → α) : Setup η σ α := do
  return question (← read).host (← get).host

/-- Asks for the trimmed output of a command that succeeds. -/
def commandOutput (argv : List String) : Setup η σ (Option String) := do
  let host := (← read).host
  modifyGet fun d => let (out, s) := host.commandOutput argv d.host; (out, { d with host := s })

/-- Asks whether a shell command succeeds. -/
def shellSucceeds (command : String) : Setup η σ Bool := do
  let host := (← read).host
  modifyGet fun d => let (ok, s) := host.shellSucceeds command d.host; (ok, { d with host := s })

/-- A path with the home directory put in. -/
def expandTilde (path : String) : Setup η σ String :=
  ask fun host s => host.expandTilde s path

/-- A file that has to be there. -/
def requireFile (path : String) : Setup η σ Unit := do
  if !(← ask fun host s => host.isFile s path) then reject ("'" ++ path ++ "' is not a file")

/-- The path of a helper script, which is copied to the same place in the chroot. -/
def copyInScript (script : String) : Setup η σ String := do
  if !(← ask fun host s => host.isFile s script) then
    reject ("helper script not found: " ++ script)
  copyIn [script]
  return script

/-- The path of a helper script of the settings, copied to the same place in the chroot. -/
def helper (name : String) : Setup η σ String := do
  copyInScript ((← read).settings.script name)

/-! ## Wrappers -/

/-- The program that prints the directory with the links of a wrapper. -/
def wrapQuery (wrapper : String) : List String :=
  [wrapper, "--print-path-to-wrap"]

/-- Sends the compiler calls of the build through the compiler wrapper. -/
def enableWrap : Setup η σ Unit := do
  if !(← getPlan).wrapEnabled then
    match ← commandOutput (wrapQuery "cswrap") with
    | none => reject "cswrap does not seem to be installed on the host"
    | some dir => modifyPlan fun p => p.withWrap dir

/-- Links the binaries of the build so that they can be run under a command. -/
def enableExec : Setup η σ Unit := do
  if !(← getPlan).execEnabled then
    enableWrap
    modifyPlan Plan.withExec

/-- Sets the command that the binaries of the build are run under. -/
def setExecWrap (argv : List String) : Setup η σ Unit := do
  match (← getPlan).setExecWrap argv with
  | .ok p => modifyPlan fun _ => p
  | .error e => throw e

/-- Tools whose run the compiler wrapper times out. -/
def limitTime (tools : List String) : Setup η σ Unit :=
  modifyPlan fun p => p.addWrapTimeoutFor tools

/-- Puts the wrapper of another compiler in front of the path; the answer is its directory. -/
def wrapCompiler (wrapper : String) : Setup η σ String := do
  match ← commandOutput (wrapQuery wrapper) with
  | none => reject (wrapper ++ " does not seem to be installed on the host")
  | some dir =>
    modifyPlan fun p => { p with path := dir :: p.path }
    copyIn ["/usr/bin/" ++ wrapper, dir]
    return dir

/-! ## Compilers and flags -/

/-- Definitions for `rpmbuild`. -/
def define (definitions : List String) : Setup η σ Unit :=
  modifyPlan fun p =>
    { p with rpmOpts := p.rpmOpts ++ definitions.flatMap fun d => ["--define", d] }

/-- Builds the package with another compiler. -/
def useCompiler (cc cxx : String) : Setup η σ Unit := do
  setVar "CC" cc
  setVar "CXX" cxx
  define ["__cc " ++ cc, "__cxx " ++ cxx, "__cpp " ++ cc ++ " -E"]

/-- Builds the package without optimization, whatever the distribution sets. -/
def defineNoOptimization (clangToolchain : Bool) : Setup η σ Unit :=
  define ((if clangToolchain then ["toolchain clang"] else [])
    ++ ["optflags -O0", "build_ldflags -O0"])

/-- Writes flags for the compiler calls of the build. -/
def writeFlags (flags : FlagMatrix) : Setup η σ Unit :=
  modifyPlan fun p => { p with env := flags.writeTo p.env }

def optimizationFlags : List String := ["-O1", "-O2", "-O3", "-Os", "-Ofast", "-Og"]

/-- Writes flags on top of the lowest warning level, and takes optimization away. -/
def writeUnoptimizedFlags (extra : List String) : Setup η σ Unit :=
  writeFlags (((FlagMatrix.ofWarningLevel 0).append extra).remove optimizationFlags)

/-- Sets a variable to flags, if there are any. -/
def setFlagsVar (name : String) (flags : List String) : Setup η σ Unit := do
  if !flags.isEmpty then setVar name (Text.join ":" flags)

/-- Appends flags to the last word of a command. -/
def appendToLast (argv extra : List String) : List String :=
  match argv.reverse with
  | [] => []
  | last :: before => (before.reverse ++ [last ++ " " ++ Text.join " " extra])

/-! ## Directories to scan -/

/-- What a pair of opposite options says, if one of them was given. -/
def paired (yes no : Bool) : Option Bool :=
  if yes then some true else if no then some false else none

/-- The directories that an analyzer of scripts looks at. Without options it is the directory of the
build when a shell command builds the package, and that of the installation otherwise, which then
has to be filled. -/
def dirsToScan (tool : String) (scanBuild scanInstall : Option Bool) : Setup η σ String := do
  let byShell := (← getPlan).shellCmd.isSome
  let build := scanBuild.getD byShell
  let installed := scanInstall.getD !byShell
  if !build && !installed then
    reject ("either --" ++ tool ++ "-scan-build or --" ++ tool ++ "-scan-install must be enabled")
  if installed && byShell then
    reject ("--shell-cmd and --" ++ tool ++ "-scan-install cannot be used together")
  if installed then modifyPlan fun p => { p with needInstall := true }
  return Text.join " " ((if build then [Plan.buildDir] else [])
    ++ (if installed then [Plan.buildRootDir] else []))

end Setup

end ChrootScan
