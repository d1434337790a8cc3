import ChrootScan.Analyzer.Listing
import ChrootScan.CommandLine
import ChrootScan.Hook.Run

/-!
# The program

What every command does on a machine, and the exit code it ends with.
-/

namespace ChrootScan.Program

def version : String := "0.1.0"
def name : String := "csmock"

/-! ## Preparing a scan -/

/-- The settings of a scan: those of the environment, changed by its options. -/
def settings (a : ScanArgs) (vars : Dict String) : Except ScanError Settings := do
  let s := Settings.ofEnvironment vars
  let s :=
    { s with
      mockProfile := a.mockProfile.getD s.mockProfile
      wrapTimeout := a.wrapTimeout.getD s.wrapTimeout }
  match s.validate with
  | .ok () => return s
  | .error fault => throw (.usage fault.message)

/-- The working directory. -/
def cwd (m : Machine) : String :=
  FileTree.pathOf m.tree.cwd

/-- The plan before the analyzers edit it. The package must be there. -/
def startPlan (a : ScanArgs) (s : Settings) (m : Machine) : Except ScanError (Plan Hook) := do
  if !m.tree.isFile a.srpm then throw (.usage ("SRPM not found: " ++ a.srpm))
  match Rpm.name? a.srpm with
  | none => throw (.usage ("not a source RPM: " ++ a.srpm))
  | some pkg =>
    return { Plan.start s.wrapTimeout with
      pkg := some pkg
      srpm := some (Path.absolute (cwd m) a.srpm)
      shellCmd := a.shellCmd
      installPkgs := a.installPkgs
      addRepos := a.addRepos
      knownFalsePositives := a.knownFalsePositives
      printDefects := a.printDefects }

/-- Lets the analyzers edit a plan; the answer is the names of those enabled. -/
def configure {σ : Type} (a : ScanArgs) (around : Surroundings σ) (draft : Draft Hook σ) :
    Except ScanError (List String) × Draft Hook σ :=
  let around := { around with allTools := a.selection.allTools }
  (((Registry.ofOptions a.analyzers).configure a.selection).run around).run.run draft

/-- A scan that is ready to run. -/
structure Prepared where
  settings : Settings
  plan : Plan Hook
  /-- The analyzers enabled, in the order of their configuration. -/
  analyzers : List String

/-- Prepares a scan on a machine, `host` answering what the analyzers ask out of a state of its own.
They are given the first plan as `edit` changes it. -/
def prepare {σ : Type} (a : ScanArgs) (host : Host σ) (edit : Plan Hook → Plan Hook) (m : Machine)
    (answers : σ) : Except ScanError Prepared × σ :=
  match settings a m.vars with
  | .error e => (.error e, answers)
  | .ok s =>
    match startPlan a s m with
    | .error e => (.error e, answers)
    | .ok plan =>
      match configure a { host, settings := s, cwd := cwd m } ⟨edit plan, answers⟩ with
      | (.error e, draft) => (.error e, draft.host)
      | (.ok analyzers, draft) => (.ok ⟨s, draft.plan, analyzers⟩, draft.host)

/-- The output of a scan: the one given, or a tarball named like the package. -/
def output (a : ScanArgs) : String :=
  a.output.getD ((Rpm.nvr? a.srpm).getD "csmock" ++ ".tar.xz")

/-- What the results of a scan are started with; `words` is the whole command line. -/
def recordOptions (a : ScanArgs) (words : List String) : Record.Options :=
  { output := output a, tool := name, toolVersion := version, toolArgs := words
    keepGoing := a.keepGoing, noClean := a.noClean }

/-- The chroot of a scan. -/
def chroot (p : Prepared) : Chroot :=
  { program := p.settings.mockBin, profile := p.settings.mockProfile, addRepos := p.plan.addRepos }

/-! ## Scanning -/

/-- Records why the pipeline failed, unless that is on record already. -/
def recordFailure (e : Failure) : StateM Bench Unit := do
  if !e.isFatal then
    let _ ← Scan.fatal e.full 1

/-- Runs the pipeline and finishes the results; the answer is the exit code. -/
def conclude {η : Type} (model : HookModel η) (noClean : Bool) (job : Job η) :
    Except ScanError Int × Bench :=
  let (result, job) := (Pipeline.execute model noClean).run.run job
  let bench := match result with
    | .ok () => job.bench
    | .error e => ((recordFailure e).run job.bench).2
  Record.finish.run.run bench

/-- Scans a package; `words` is the whole command line. -/
def scan (a : ScanArgs) (words : List String) (m : Machine) : Except Failure Int × Machine :=
  match prepare a Host.machine id m m with
  | (.error e, m) => (.error (.ofScan e), m)
  | (.ok p, m) =>
    match Record.create (recordOptions a words) m with
    | (.error e, m) => (.error (.ofScan e), m)
    | (.ok bench, m) =>
      let entry := Scan.putMetadata "enabled-plugins" (Text.join ", " p.analyzers)
      match entry.run.run { bench with chroot := chroot p } with
      | (.error e, b) =>
        (.error (.ofScan e),
          { m with tree := Record.discard b.machine.tree b.record.tmpdir })
      | (.ok (), bench) =>
        let job := { bench, plan := p.plan, events := [.configured p.analyzers] }
        let (result, bench) := conclude Hook.model a.noClean job
        (result.mapError .ofScan, bench.machine)

/-! ## The other commands -/

/-- The analyzers that there are, by name. -/
def tools : List ToolInfo :=
  let all : Registry Hook Machine := Registry.ofOptions {}
  (all.map ToolInfo.ofAnalyzer).mergeSort fun a b => a.name ≤ b.name

/-- Prints the list of the analyzers. -/
def listTools (format : ListFormat) (m : Machine) : Int × Machine :=
  (0, m.print (match format with
    | .json => ToolInfo.document tools ++ "\n"
    | .human => ToolInfo.table tools))

/-- Converts what Clippy says on standard input. -/
def convertClippy (input : ByteArray) (m : Machine) : Except Failure Int × Machine :=
  let (text, result) := Clippy.convert input
  (result.map fun _ => 0, m.print text)

/-- Filters and converts the Infer report on standard input. -/
def filterInfer (a : FilterInferArgs) (input : ByteArray) (m : Machine) :
    Except Failure Int × Machine :=
  match Infer.convert a.filters input with
  | .ok (text, _) => (.ok 0, m.print text)
  | .error e => (.error e, m)

/-- Searches files for Unicode control characters. -/
def findUnicodeControl (a : FindUnicodeArgs) (m : Machine) : Except Failure Int × Machine :=
  match UnicodeControl.Scanner.ofPatterns (a.chars.getD .format) a.noTests a.exclude a.excludeMime with
  | .error e => (.error e, m)
  | .ok scanner =>
    (.ok 0, a.paths.foldl (fun m path => m.print (scanner.scan m.tree path path).out) m)

/-- Carries a request out; `words` is the whole command line. -/
def serve (r : Request) (words : List String) (input : ByteArray) (m : Machine) :
    Except Failure Int × Machine :=
  match r with
  | .scan a => scan a words m
  | .listTools format => let (code, m) := listTools format m; (.ok code, m)
  | .convertClippy => convertClippy input m
  | .filterInfer a => filterInfer a input m
  | .findUnicodeControl a => findUnicodeControl a m

/-! ## The whole program -/

/-- How a run of the program ends. -/
inductive Ended
  | served (code : Int)
  | failed (e : Failure)
  /-- The command line was not read to a request. -/
  | refused (fault : CommandLine.Fault)
deriving DecidableEq, Repr

namespace Ended

def exitCode : Ended → Int
  | served code => code
  | failed e => e.exitCode
  | refused fault => fault.exitCode

/-- What goes to standard error. -/
def complaint : Ended → String
  | failed e => name ++ ": error: " ++ e.full ++ "\n"
  | _ => ""

end Ended

/-- Runs the program with the words of its command line, its own name first. -/
def run (words : List String) (input : ByteArray) (m : Machine) : Ended × Machine :=
  match CommandLine.read words.tail with
  | .error .displayVersion => (.refused .displayVersion, m.print (name ++ " " ++ version ++ "\n"))
  | .error fault => (.refused fault, m)
  | .ok line =>
    match serve line.request words input m with
    | (.ok code, m) => (.served code, m)
    | (.error e, m) => (.failed e, m)

end ChrootScan.Program
