import ChrootScan.Shell.Quote
import ChrootScan.CompilerFlags
import ChrootScan.Host

/-!
# The build plan

Analyzers never talk to each other. Each edits the `Plan` while a scan is configured, and the
pipeline then reads it to drive the build in the chroot. The type `η` of hooks is a parameter, so
that what a plan says does not depend on what hooks do.
-/

namespace ChrootScan

/-- The points of a scan at which hooks run. -/
inductive HookPhase
  | preMock
  | postDepinst
  | postInstall
  | postProcess
deriving DecidableEq, Repr

namespace HookPhase

def name : HookPhase → String
  | preMock => "pre-mock"
  | postDepinst => "post-depinst"
  | postInstall => "post-install"
  | postProcess => "post-process"

/-- The exit code recorded when a hook of the phase fails. -/
def errorCode : HookPhase → Int
  | postProcess => 0
  | _ => 1

/-- All phases, in the order of a scan. -/
def all : List HookPhase := [preMock, postDepinst, postInstall, postProcess]

/-- The phase with a name. -/
def ofName? (name : String) : Option HookPhase :=
  all.find? (·.name == name)

end HookPhase

/-- The configuration of one build. -/
structure Plan (η : Type) where
  /-- The name of the scanned package. -/
  pkg : Option String := none
  srpm : Option String := none
  env : Env := .empty
  /-- Directories in front of `$PATH` for the build. -/
  path : List String := []
  installPkgs : List String := []
  installBlacklist : List String := []
  copyInFiles : List String := []
  copyOutFiles : List String := []
  rpmOpts : List String := []
  addRepos : List String := []
  runCheck : Bool := false
  /-- The install stage of the build is needed. -/
  needInstall : Bool := false
  /-- The command that builds the package instead of `rpmbuild -bc`. -/
  shellCmd : Option String := none
  wrapEnabled : Bool := false
  wrapPath : Option String := none
  wrapTimeout : Nat := 0
  execEnabled : Bool := false
  /-- Shell filters for the capture of the compiler wrapper. -/
  wrapFilters : List String := []
  /-- Shell filters for the merged results. -/
  resultFilters : List String := []
  /-- The checkers that have important findings. -/
  importantCheckers : Dict Unit := .empty
  /-- Checkers with the arguments that select their important findings. -/
  importantFilters : List (String × String) := []
  knownFalsePositives : Option String := none
  printDefects : Bool := false
  preMockHooks : List η := []
  postDepinstHooks : List η := []
  postInstallHooks : List η := []
  postProcessHooks : List η := []
  postBuildCmds : List String := []

namespace Plan

variable {η : Type}

/-- The plan before anything is configured. -/
def start (wrapTimeout : Nat) : Plan η :=
  { wrapTimeout }

instance : Inhabited (Plan η) := ⟨{}⟩

/-! ## Hooks -/

/-- The hooks registered in a phase. -/
def hooks (p : Plan η) : HookPhase → List η
  | .preMock => p.preMockHooks
  | .postDepinst => p.postDepinstHooks
  | .postInstall => p.postInstallHooks
  | .postProcess => p.postProcessHooks

/-- The plan with the hooks of a phase replaced. -/
def setHooks (p : Plan η) (phase : HookPhase) (hooks : List η) : Plan η :=
  match phase with
  | .preMock => { p with preMockHooks := hooks }
  | .postDepinst => { p with postDepinstHooks := hooks }
  | .postInstall => { p with postInstallHooks := hooks }
  | .postProcess => { p with postProcessHooks := hooks }

/-- Registers a hook behind those of the phase. -/
def addHook (p : Plan η) (phase : HookPhase) (hook : η) : Plan η :=
  p.setHooks phase (p.hooks phase ++ [hook])

/-! ## The compiler wrapper -/

def wrapBin : String := "/usr/bin/cswrap"
def wrapCaptureFile : String := "/builddir/cswrap-capture.err"
def wrapCaptureVar : String := "CSWRAP_CAP_FILE"
def wrapTimeoutVar : String := "CSWRAP_TIMEOUT"
def wrapTimeoutForVar : String := "CSWRAP_TIMEOUT_FOR"

/-- The plan with the compiler wrapper in front of the path, whose directory is `dir`. -/
def withWrap (p : Plan η) (dir : String) : Plan η :=
  { p with
    copyInFiles := p.copyInFiles ++ [wrapBin, dir]
    path := dir :: p.path
    wrapPath := some dir
    env := (p.env.insert wrapCaptureVar wrapCaptureFile).insert wrapTimeoutVar
      (toString p.wrapTimeout)
    copyOutFiles := p.copyOutFiles ++ [wrapCaptureFile]
    wrapEnabled := true }

/-- Appends tools whose run the compiler wrapper times out. -/
def addWrapTimeoutFor (p : Plan η) (tools : List String) : Plan η :=
  let grow (value tool : String) : String := if value.isEmpty then tool else value ++ ":" ++ tool
  let value := tools.foldl grow ((p.env.get? wrapTimeoutForVar).getD "")
  { p with env := p.env.insert wrapTimeoutForVar value }

/-! ## The wrapper of built binaries -/

def execLoader : String := "/usr/bin/csexec-loader"
def execPackage : String := "csexec"
def execWrapVar : String := "CSEXEC_WRAP_CMD"

/-- The flag that links binaries against the loader. -/
def execLinkFlag : String := "-Wl,--dynamic-linker," ++ execLoader

/-- The plan with built binaries linked against the loader. -/
def withExec (p : Plan η) : Plan η :=
  { p with
    installPkgs := p.installPkgs ++ [execPackage]
    env := (({} : FlagMatrix).append [execLinkFlag]).writeTo p.env
    execEnabled := true }

/-- What stands between the words of the command that built binaries run under. -/
def execSeparator : String := "\\a"

/-- Sets the command that built binaries run under; only one analyzer can own it. -/
def setExecWrap (p : Plan η) (argv : List String) : Except ScanError (Plan η) :=
  if p.env.contains execWrapVar then
    .error (.usage "only one dynamic analyzer can wrap the execution of built binaries")
  else .ok { p with env := p.env.insert execWrapVar (Text.join execSeparator argv) }

/-! ## Packages and the path -/

/-- Puts a directory right before that of the compiler wrapper, or first. -/
def insertPathBeforeWrap (p : Plan η) (dir : String) : Plan η :=
  let before := p.path.takeWhile fun d => !Text.endsWith "/cswrap" d
  if before.length < p.path.length then
    { p with path := before ++ dir :: p.path.drop before.length }
  else { p with path := dir :: p.path }

/-- The package is going to be installed. -/
def installs (p : Plan η) (pkg : String) : Bool :=
  p.installPkgs.contains pkg

/-- A list without its later repetitions. -/
def distinct : List String → List String
  | [] => []
  | x :: rest => x :: (distinct rest).filter (· ≠ x)

/-- The packages to install: each once, the blacklisted ones left out. -/
def pkgsToInstall (p : Plan η) : List String :=
  distinct (p.installPkgs.filter fun pkg => !p.installBlacklist.contains pkg)

/-- The value of `PATH` for the build. -/
def buildPath (p : Plan η) : String :=
  Text.join ":" (p.path ++ ["$PATH"])

/-! ## Build commands -/

def specGlob : String := "/builddir/build/SPECS/*.spec"
def buildDir : String := "/builddir/build/BUILD"
def buildRootDir : String := "/builddir/build/BUILDROOT"

/-- The assignments that export the environment of the build. -/
def envPrefix (p : Plan η) : String :=
  Text.join " "
    (p.env.entries.map (fun (k, v) => k ++ "=" ++ Shell.quote v) ++ ["PATH=" ++ p.buildPath])

/-- The `rpmbuild` call for one stage of the build. -/
def rpmbuildCmd (p : Plan η) (stage : String) : String :=
  p.envPrefix ++ " rpmbuild " ++ stage ++ " --nodeps --short-circuit"
    ++ (if stage == "-bi" && !p.runCheck then " --nocheck" else "")
    ++ (if p.rpmOpts.isEmpty then "" else " " ++ Shell.commandLine .escaped p.rpmOpts)
    ++ " " ++ specGlob

/-- The call of a build command given by the user. -/
def shellBuildCmd (p : Plan η) (command : String) : String :=
  "cd " ++ buildDir ++ " && " ++ p.envPrefix ++ " sh -c " ++ Shell.quote command

/-- The command that builds the package. -/
def buildCmd (p : Plan η) : String :=
  match p.shellCmd with
  | some command => p.shellBuildCmd command
  | none => p.rpmbuildCmd "-bc"

end Plan

end ChrootScan
