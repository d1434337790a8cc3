import ChrootScan.Chroot.Run
import ChrootScan.Findings
import ChrootScan.Rpm

/-!
# The pipeline of a scan

A scan runs the hooks of four phases around the build of a package in a chroot. What hooks do is a
parameter (`HookModel`): a hook may look at and change the record, the plan and the chroot, so it may
schedule further hooks into any phase, also into the one that is running. Every run leaves a trail
of `Event`s.
-/

namespace ChrootScan

/-- What a scan reports about its progress. -/
inductive Event
  | started (pkg profile : String)
  | configured (analyzers : List String)
  | phaseStarted (phase : String)
  | phaseComplete (phase : String)
  /-- A hook returned `code`. -/
  | hookComplete (phase hook : String) (code : Int)
  | completed (ec : Int)
  | failed (text : String)
deriving DecidableEq, Repr

/-- A scan under way. -/
structure Job (η : Type) where
  bench : Bench
  plan : Plan η
  /-- What was reported so far, in order. -/
  events : List Event := []

/-- Work on a scan under way; what was done before a failure stays. -/
abbrev Work (η α : Type) := ExceptT Failure (StateM (Job η)) α

/-- What hooks are called and what they do. -/
structure HookModel (η : Type) where
  name : η → String
  /-- More than the rank of every hook that this one schedules into the phase it runs in. -/
  rank : η → Nat
  /-- Runs a hook; a value other than zero is reported as an error of the scan. -/
  run : η → Work η Int

namespace Work

variable {η : Type}

/-- Work on the record alone. -/
def scan {α : Type} (x : Scan α) : Work η α := do
  let job ← get
  match x.run.run job.bench with
  | (.ok a, bench) =>
    set { job with bench := bench }
    return a
  | (.error e, bench) =>
    set { job with bench := bench }
    throw (Failure.ofScan e)

def getPlan : Work η (Plan η) := do
  return (← get).plan

def modifyPlan (f : Plan η → Plan η) : Work η Unit :=
  modify fun job => { job with plan := f job.plan }

def getRecord : Work η Record := do
  return (← get).bench.record

def getFiles : Work η FileTree := do
  return (← get).bench.machine.tree

/-- A change of the files; a refusal fails. -/
def changingFiles (f : FileTree → Except SystemError FileTree) : Work η Unit := do
  match f (← getFiles) with
  | .ok tree =>
    modify fun job =>
      { job with bench := { job.bench with machine := { job.bench.machine with tree := tree } } }
  | .error e => throw (Failure.ofSystem e)

/-- Asks the network for what is at a URL. -/
def request (url : String) : Work η Reply :=
  modifyGet fun job =>
    let (reply, machine) := job.bench.machine.request url
    (reply, { job with bench := { job.bench with machine := machine } })

/-- Puts a context around a failure of `x`. -/
def within {α : Type} (context : String) (x : Work η α) : Work η α :=
  ExceptT.adapt (Failure.within context) x

/-- Reports progress. -/
def notify (event : Event) : Work η Unit :=
  modify fun job => { job with events := job.events ++ [event] }

/-- Work between the events that begin and end a phase. -/
def phase {α : Type} (name : String) (x : Work η α) : Work η α := do
  notify (.phaseStarted name)
  let a ← x
  notify (.phaseComplete name)
  return a

end Work

namespace Pipeline

open Work

variable {η : Type}

/-! ## Hooks -/

/-- Runs one hook and reports how it went. -/
def runHook (model : HookModel η) (phase : HookPhase) (hook : η) : Work η Unit := do
  let code ← within ("Hook " ++ model.name hook ++ " failed") (model.run hook)
  notify (.hookComplete phase.name (model.name hook) code)
  if code ≠ 0 then
    scan (Scan.error
      (phase.name ++ " hook " ++ model.name hook ++ " failed (rv = " ++ toString code ++ ")")
      phase.errorCode)

/-- Takes the hooks registered in a phase, which has none then. -/
def takeHooks (phase : HookPhase) : Work η (List η) := do
  let hooks := (← getPlan).hooks phase
  modifyPlan fun p => p.setHooks phase []
  return hooks

/-- Runs the hooks of a phase generation by generation, a generation being what the one before has
scheduled into the phase; at most `fuel` of them. -/
def runGenerations (model : HookModel η) (phase : HookPhase) : Nat → Work η Unit
  | 0 => pure ()
  | fuel + 1 => do
    let hooks ← takeHooks phase
    if !hooks.isEmpty then
      hooks.forM (runHook model phase)
      runGenerations model phase fuel

/-- How many generations the hooks of a phase can have. -/
def generations (model : HookModel η) (hooks : List η) : Nat :=
  (hooks.map fun h => model.rank h + 1).foldl max 0

/-- Runs the hooks of a phase until it has none left. -/
def runHooks (model : HookModel η) (phase : HookPhase) : Work η Unit :=
  Work.phase phase.name do
    runGenerations model phase (generations model ((← getPlan).hooks phase))

/-! ## The phases between them -/

def builderHome : String := "/builddir"

/-- The file with the list of the packages installed in the chroot. -/
def packageList (r : Record) : String :=
  Path.join r.debugDir "rpm-list-mock.txt"

/-- Lists the installed packages into a file. -/
def listPackagesCmd (c : Chroot) (file : String) : String :=
  Shell.commandLine .escaped (c.call ["--quiet", "--chroot", "rpm -qa"]) ++ " | sort -V >"
    ++ Findings.operand file

/-- Creates the chroot and puts everything but the package into it. -/
def initChroot (srpm nvr : String) (plan : Plan η) : Scan Unit := do
  Chroot.init
  Chroot.findRoot
  Chroot.install plan.pkgsToInstall
  if (← Chroot.exec ["--installdeps", srpm]) ≠ 0 then
    Scan.failFatal "failed to install build dependencies" 1
  let file := packageList (← Scan.getRecord)
  if (← Scan.exec (.shell (listPackagesCmd (← get).chroot file))) ≠ 0 then
    Scan.error "failed to list packages installed in the chroot" 0
  Scan.putMetadata "mock-config" (← get).chroot.profile
  Scan.putMetadata "project-name" nvr
  Chroot.copyIn plan.copyInFiles

/-- Unpacks the source package in the chroot. -/
def prepareCmd (srpm : String) : String :=
  "rpm -Uvh --nodeps '" ++ srpm ++ "' && rpmbuild -bp --nodeps " ++ Plan.specGlob

/-- Copies the source package into the chroot and builds it. -/
def build (srpm nvr : String) (plan : Plan η) : Scan Unit := do
  let inside := builderHome ++ "/" ++ nvr ++ ".src.rpm"
  if (← Chroot.exec ["--copyin", srpm, inside]) ≠ 0 then
    Scan.failFatal "failed to copy the SRPM into the chroot" 1
  if (← Chroot.execBuilder (prepareCmd inside)) ≠ 0 then
    Scan.failFatal "failed to unpack the sources" 1
  let code ← Chroot.execBuilder plan.buildCmd
  if code ≠ 0 then Scan.error "%build failed" code

/-- Runs one command in the chroot after the build. -/
def afterBuild (command : String) : Scan Unit := do
  if (← Chroot.execBuilder command) ≠ 0 then
    Scan.error ("post-build command failed: " ++ command) 1

/-- Runs the install stage of the build. -/
def installStage (plan : Plan η) : Scan Unit := do
  let code ← Chroot.execBuilder (plan.rpmbuildCmd "-bi")
  if code ≠ 0 then Scan.error "%install or %check failed" code

/-- Copies one path out of the chroot. -/
def copyOut (path : String) : Scan Unit := do
  if (← Chroot.copyOut path) ≠ 0 then
    Scan.print ("no results to copy out: " ++ path)

/-- Merges and filters what was found. -/
def collect : Work η Unit := do
  scan (Findings.processCapture (← getPlan))
  let job ← get
  let ((outcome, plan), bench) := (Findings.installKnown job.plan).run job.bench
  set { job with bench := bench, plan := plan }
  match outcome with
  | .error e => throw (Failure.ofScan e)
  | .ok () =>
    let _ ← scan Findings.merge
    scan (Findings.apply (← getPlan) [])

/-- The source package of the plan and its `NAME-VERSION-RELEASE`. -/
def source : Work η (String × String) := do
  match (← getPlan).srpm with
  | none => throw (Failure.ofScan (.usage "no SRPM given"))
  | some srpm =>
    match Rpm.nvr? srpm with
    | none => throw (Failure.ofScan (.usage ("not a source RPM: " ++ srpm)))
    | some nvr => return (srpm, nvr)

/-- All phases of a scan in order. -/
def runPhases (model : HookModel η) : Work η Unit := do
  let (srpm, nvr) ← source
  runHooks model .preMock
  phase "chroot-init" do scan (initChroot srpm nvr (← getPlan))
  runHooks model .postDepinst
  phase "build" do scan (build srpm nvr (← getPlan))
  phase "post-build" do scan ((← getPlan).postBuildCmds.forM afterBuild)
  let plan ← getPlan
  if plan.needInstall || plan.runCheck then
    phase "install" do scan (installStage plan)
  runHooks model .postInstall
  phase "copy-out" do scan ((← getPlan).copyOutFiles.forM copyOut)
  runHooks model .postProcess
  phase "results" collect

/-! ## A whole scan -/

/-- The outcome of work, as a value. -/
def outcome {α : Type} (x : Work η α) : StateM (Job η) (Except Failure α) :=
  x.run

/-- Cleans the chroot away, if it was begun and is not to stay. -/
def cleanUp (noClean : Bool) : Work η Unit := do
  if !noClean && (← get).bench.chroot.initialized then scan Chroot.clean

/-- Scans the package of the plan. The chroot is cleaned away afterwards, also when the scan failed;
a failure of the scan counts before one of cleaning up, and only the former is reported as event. -/
def execute (model : HookModel η) (noClean : Bool) : Work η Unit := do
  let job ← get
  notify (.started (job.plan.pkg.getD "") job.bench.chroot.profile)
  match ← liftM (outcome (runPhases model)) with
  | .ok () => do
    cleanUp noClean
    notify (.completed (← getRecord).ec)
  | .error e => do
    let _ ← liftM (outcome (cleanUp (η := η) noClean))
    notify (.failed e.full)
    throw e

end Pipeline

end ChrootScan
