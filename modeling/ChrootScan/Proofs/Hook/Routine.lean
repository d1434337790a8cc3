import ChrootScan.Hook.Run
import ChrootScan.Proofs.Pipeline.Routine

/-!
# Hooks are routine

What the hooks of the analyzers do is routine work that leaves the chroot alone. So they report
nothing themselves, take back nothing that a scan has done, and if one of them is given up for good,
then with the code on record.
-/

namespace ChrootScan

open Effect Work

variable {marks : Prop}

/-! ## Steps of hooks -/

namespace Chroot

theorem routine_outputOf (command : String) : Scan.Routine marks (outputOf command) :=
  .bind .get fun _ => .output _

end Chroot

namespace Hook

theorem routine_exec (command : Shell.Command) : Work.Routine marks (exec command) :=
  .scan (.exec command)

theorem routine_error (text : String) (ec : Int) : Work.Routine marks (error text ec) :=
  .scan (.error text ec)

theorem routine_print (text : String) : Work.Routine marks (print text) :=
  .scan (.print text)

theorem routine_rawPath (path : String) : Work.Routine marks (rawPath path) :=
  Work.Routine.getRecord.bind fun _ => .pure _

theorem routine_uniPath (name : String) : Work.Routine marks (uniPath name) :=
  Work.Routine.getRecord.bind fun _ => .pure _

theorem routine_tmpPath (name : String) : Work.Routine marks (tmpPath name) :=
  Work.Routine.getRecord.bind fun _ => .pure _

/-- The version of an analyzer goes among the properties of the scan. -/
theorem routine_putVersion (analyzer version : String) :
    Work.Routine marks (scan (Scan.putVersion analyzer version) : Work Hook Unit) :=
  Work.Routine.scan (.putMetadata _ _)

/-! ## Common hooks -/

/-- A tool that is not in the list of packages is an error, and the scan goes on with it on record.
-/
theorem routine_runToolVersion (tool : String) : Work.Routine marks (runToolVersion tool) := by
  refine Work.Routine.getRecord.bind fun r => Work.Routine.getFiles.bind fun t => ?_
  dsimp only
  rcases Rpm.installedVersion? ((t.readText (Pipeline.packageList r)).toOption.getD "") tool with
    _ | version
  · exact (routine_error _ _).bind fun _ => .pure _
  · exact (routine_putVersion _ _).bind fun _ => .pure _

theorem routine_runChrootCmd (command : String) (asBuilder : Bool) :
    Work.Routine marks (runChrootCmd command asBuilder) :=
  .scan (.ite (Chroot.routine_execBuilder _) (Chroot.routine_exec _))

/-- A command that cannot be rendered is not run, which is no failure. -/
theorem routine_runHostCmd (render : Bench → Option String) :
    Work.Routine marks (runHostCmd render) := by
  refine .bind .get fun job => ?_
  rcases render job.bench with _ | command
  · exact .pure _
  · exact routine_exec _

theorem routine_runMetadata (key value : String) : Work.Routine marks (runMetadata key value) :=
  (Work.Routine.scan (.putMetadata _ _)).bind fun _ => .pure _

/-- A conversion reads one file and writes another; where either fails, nothing is changed. -/
theorem routine_convertInto (c : Conversion) (source target : String) :
    Work.Routine marks (convertInto c source target) := by
  refine Work.Routine.getFiles.bind fun t => ?_
  rcases t.readBytes source with e | bytes
  · exact .pure _
  · refine Work.Routine.getFiles.bind fun t => ?_
    rcases t.writeBytes target (Text.encode (c.convert bytes).1) with e | tree
    · exact .pure _
    · exact (Work.Routine.changingFiles _).bind fun _ => .pure _

/-- Capturing the reports of a tool goes on when there are none, or when they cannot be read. -/
theorem routine_runConvert (name : String) (c : Conversion) :
    Work.Routine marks (runConvert name c) := by
  refine (routine_rawPath _).bind fun source => Work.Routine.getFiles.bind fun t => ?_
  refine .ite ((routine_print _).bind fun _ => .pure _) ?_
  refine (routine_tmpPath _).bind fun converted => (routine_convertInto _ _ _).bind fun answer => ?_
  rcases answer with e | ⟨⟩
  · exact (routine_print _).bind fun _ => .pure _
  · exact (routine_uniPath _).bind fun _ => routine_exec _

end Hook

open Hook

/-! ## Downloads -/

namespace Download

/-- Whatever the network answers, a download is routine. -/
theorem routine_download (d : Download) : Work.Routine marks d.download := by
  refine .bind (.request d.url) fun reply => ?_
  rcases content d.url reply with e | bytes
  · exact .pure _
  · refine Work.Routine.getFiles.bind fun t => ?_
    rcases save t d.path bytes with ⟨result, tree⟩
    exact (Work.Routine.changingFiles _).bind fun _ => .pure _

/-- A file is fetched into the cache or from it, and what goes wrong is an error on record. -/
theorem routine_fetch (d : Download) : Work.Routine marks d.fetch := by
  refine Work.Routine.getFiles.bind fun t => ?_
  rcases t.createDirs d.cacheDir with e | tree
  · exact (routine_error _ _).bind fun _ => .pure _
  · refine (Work.Routine.changingFiles _).bind fun _ => .ite ?_ ?_
    · exact (routine_print _).bind fun _ => .pure _
    · refine d.routine_download.bind fun result => ?_
      rcases result with e | ⟨⟩
      · exact (routine_error _ _).bind fun _ => .pure _
      · exact .pure _

/-- A file that cannot be made executable gives the hook up, with the context of the step. -/
theorem routine_makeExecutable (path : String) : Work.Routine marks (makeExecutable path) :=
  Work.Routine.within _ (.changingFiles _)

theorem routine_versionOf (program : String) : Work.Routine marks (versionOf program) :=
  Work.Routine.scan (.output _)

end Download

/-! ## Hooks of single analyzers -/

/-- A program that does not tell its version is an error, and one of the host makes a second error,
which says why. -/
theorem Cppcheck.routine_runVersion (onHost : Bool) :
    Work.Routine marks (Cppcheck.runVersion onHost) := by
  refine (Work.Routine.scan (Chroot.routine_outputOf _)).bind fun ⟨code, out⟩ => .ite ?_ ?_
  · refine .ite ((routine_error _ _).bind fun _ => ?query) ?query
    exact (routine_error _ _).bind fun _ => .pure _
  · exact (routine_putVersion _ _).bind fun _ => .pure _

theorem Valgrind.routine_runCleanup : Work.Routine marks Valgrind.runCleanup :=
  (routine_rawPath _).bind fun _ => routine_exec _

namespace Gcc

/-- The wrapper of the analyzer is put in place by two commands, and what fails is on record. -/
theorem routine_installWrapper (compiler : String) :
    Work.Routine marks (installWrapper compiler) := by
  refine (routine_runChrootCmd _ _).bind fun _ =>
    .ite ((routine_error _ _).bind fun _ => .pure _) (Work.Routine.getPlan.bind fun _ => ?_)
  refine (routine_runChrootCmd _ _).bind fun _ =>
    .ite ((routine_error _ _).bind fun _ => .pure _) ?_
  exact (Work.Routine.modifyPlan _).bind fun _ => .pure _

/-- Without an answer of the compiler no version is recorded. -/
theorem routine_recordAnalyzerVersion (compiler : String) :
    Work.Routine marks (recordAnalyzerVersion compiler) := by
  refine (Work.Routine.scan (Chroot.routine_outputOf _)).bind fun ⟨code, out⟩ => .ite (.pure _) ?_
  exact (routine_putVersion _ _).bind fun _ => .pure _

/-- The analyzer inside the compiler is turned on only if it works in the chroot and its wrapper is
in place. -/
theorem routine_runAnalyzer (a : InlineAnalyzer) : Work.Routine marks (runAnalyzer a) := by
  have hrest (compiler : String) (code : Int) : Work.Routine marks (do
      if code ≠ 0 then return code
      Work.modifyPlan (enterPath a)
      recordAnalyzerVersion compiler : Work Hook Int) :=
    .ite (.pure _) ((Work.Routine.modifyPlan _).bind fun _ => routine_recordAnalyzerVersion _)
  unfold runAnalyzer
  refine (routine_runChrootCmd _ _).bind fun _ =>
    .ite ((routine_error _ _).bind fun _ => .pure _) ?_
  rcases a.compiler with _ | other
  · exact .bind (.pure _) fun _ => hrest _ _
  · exact (routine_installWrapper other).bind fun _ => hrest _ _

end Gcc

namespace Gitleaks

/-- A program that cannot be unpacked is an error, and what was unpacked stays. -/
theorem routine_unpack (d : Download) (tarball : String) :
    Work.Routine marks (unpack d tarball) := by
  refine Work.Routine.getFiles.bind fun t => Work.Routine.getRecord.bind fun r => ?_
  rcases Archive.extractMember t tarball "gitleaks" r.tmpdir with ⟨e | program, tree⟩
  · exact (Work.Routine.changingFiles _).bind fun _ => (routine_error _ _).bind fun _ => .pure _
  · exact (Work.Routine.changingFiles _).bind fun _ => .pure _

theorem routine_copyConfig (config : String) : Work.Routine marks (copyConfig config) :=
  (routine_tmpPath _).bind fun _ => (Work.Routine.changingFiles _).bind fun _ =>
    (Work.Routine.modifyPlan _).bind fun _ => .pure _

/-- Fetching gitleaks stops at the first step that goes wrong, each of them with its own error. -/
theorem routine_runFetch (d : Download) (config : Option String) :
    Work.Routine marks (runFetch d config) := by
  refine d.routine_fetch.bind fun tarball => ?_
  rcases tarball with _ | tarball
  · exact .pure _
  refine (routine_unpack d tarball).bind fun program => ?_
  rcases program with _ | program
  · exact .pure _
  refine (Download.routine_makeExecutable _).bind fun _ => ?_
  refine (Download.routine_versionOf _).bind fun ⟨code, out⟩ => .ite (.pure _) ?_
  refine (routine_putVersion _ _).bind fun _ => (Work.Routine.modifyPlan _).bind fun _ => ?_
  rcases config with _ | file
  · exact .bind (.pure _) fun _ => (Work.Routine.modifyPlan _).bind fun _ => .pure _
  · refine (routine_copyConfig _).bind fun _ => .bind (.pure _) fun _ => ?_
    exact (Work.Routine.modifyPlan _).bind fun _ => .pure _

end Gitleaks

namespace Semgrep

/-- A command that has to succeed is an error on record if it does not. -/
theorem routine_expect (command : Shell.Command) (text : String) :
    Work.Routine marks (expect command text) :=
  (routine_exec _).bind fun _ => .ite ((routine_error _ _).bind fun _ => .pure _) (.pure _)

theorem routine_recordProgramVersion (tmpdir : String) :
    Work.Routine marks (recordProgramVersion tmpdir) :=
  (Work.Routine.scan (.output _)).bind fun _ =>
    .ite ((routine_error _ _).bind fun _ => .pure _) ((routine_putVersion _ _).bind fun _ => .pure _)

/-- The program is installed and the rules are fetched before its version is recorded. -/
theorem routine_runPrepare (rules : String) : Work.Routine marks (runPrepare rules) := by
  refine Work.Routine.getRecord.bind fun r => Work.Routine.getFiles.bind fun t => ?_
  rcases t.createDirs (libDir r.tmpdir) with e | tree
  · exact (routine_error _ _).bind fun _ => .pure _
  · refine (Work.Routine.changingFiles _).bind fun _ => (routine_expect _ _).bind fun _ => ?_
    refine .ite (.pure _) ((routine_expect _ _).bind fun _ => .ite (.pure _) ?_)
    refine (routine_recordProgramVersion _).bind fun _ => .ite (.pure _) ?_
    exact (Work.Routine.modifyPlan _).bind fun _ => .pure _

/-- A scan for rules is an error if the chroot is not known, or if it does not end with zero. -/
theorem routine_runScan (s : RulesScan) : Work.Routine marks (runScan s) := by
  refine .bind .get fun job => ?_
  rcases job.bench.chroot.root with _ | root
  · exact (routine_error _ _).bind fun _ => .pure _
  · refine Work.Routine.getRecord.bind fun _ => (routine_exec _).bind fun code => ?_
    rcases failureText? code with _ | text
    · exact .pure _
    · exact (routine_error _ _).bind fun _ => .pure _

end Semgrep

namespace Snyk

/-- A program that is installed is announced; another one is fetched. -/
theorem routine_provide (source : Source) : Work.Routine marks (provide source) := by
  cases source with
  | installed path => exact (routine_print _).bind fun _ => .pure _
  | download d =>
    refine d.routine_fetch.bind fun program => ?_
    rcases program with _ | program
    · exact .pure _
    · exact (Download.routine_makeExecutable _).bind fun _ => .pure _

/-- A program that cannot be run is an error, and so is one that does not tell its version. -/
theorem routine_runFetch (source : Source) : Work.Routine marks (runFetch source) := by
  refine (routine_provide source).bind fun program => ?_
  rcases program with _ | program
  · exact .pure _
  refine Work.Routine.getFiles.bind fun t => ?_
  rcases programFault? t program with _ | fault
  · refine (Download.routine_versionOf _).bind fun ⟨code, out⟩ => .ite ?_ ?_
    · exact (routine_error _ _).bind fun _ => .pure _
    · exact (routine_putVersion _ _).bind fun _ => (Work.Routine.modifyPlan _).bind fun _ => .pure _
  · exact (routine_error _ _).bind fun _ => .pure _

theorem routine_runResolvConf : Work.Routine marks runResolvConf :=
  (Work.Routine.scan (Chroot.routine_copyIn _)).bind fun _ => .pure _

/-- The exit code of a scan over the network is fine, worth a line, or an error. -/
theorem routine_settle (code : Int) : Work.Routine marks (settle code) :=
  .ite (.pure _) (.ite ((routine_print _).bind fun _ => .modifyPlan _) (routine_error _ _))

/-- A scan over the network is not started without its token, which is removed once the scan has
ended. -/
theorem routine_runScan (s : OnlineScan) : Work.Routine marks (runScan s) := by
  have hexec (args : List String) : Work.Routine marks (scan (Chroot.exec args) : Work Hook Int) :=
    .scan (Chroot.routine_exec args)
  refine (hexec _).bind fun _ => (hexec _).bind fun _ => .ite ?_ ?_
  · exact (routine_error _ _).bind fun _ => .pure _
  · refine (hexec _).bind fun _ => (hexec _).bind fun _ => ?_
    exact (routine_settle _).bind fun _ => .pure _

/-- A report that cannot be read, or states no coverage, is an error; otherwise its three numbers
are recorded. -/
theorem routine_runStats : Work.Routine marks runStats := by
  have hput (key value : String) :
      Work.Routine marks (scan (Scan.putMetadata key value) : Work Hook Unit) :=
    .scan (.putMetadata key value)
  refine (routine_rawPath _).bind fun source => Work.Routine.getFiles.bind fun t => ?_
  rcases t.readBytes source with e | bytes
  · exact (routine_error _ _).bind fun _ => .pure _
  dsimp only
  rcases Json.parseBytes? bytes with _ | report
  · exact (routine_error _ _).bind fun _ => .pure _
  dsimp only
  rcases Coverage.ofReport? report with _ | c
  · exact (routine_error _ _).bind fun _ => .pure _
  · exact (hput _ _).bind fun _ => (hput _ _).bind fun _ => (hput _ _).bind fun _ => .pure _

end Snyk

namespace Unicontrol

/-- A file for results is made together with the directory that it is in. -/
theorem routine_createRaw (path : String) : Work.Routine marks (createRaw path) := by
  refine (routine_rawPath _).bind fun target => ?_
  dsimp only
  rcases Path.parent? target with _ | parent
  · exact Work.Routine.within _ (.changingFiles _)
  · exact (Work.Routine.within _ (.changingFiles _)).bind fun _ =>
      Work.Routine.within _ (.changingFiles _)

/-- A scan for control characters writes its findings and its log next to each other, if the chroot
is known. -/
theorem routine_runScan (scanner : UnicodeControl.Scanner) :
    Work.Routine marks (runScan scanner) := by
  refine .bind .get fun job => ?_
  rcases job.bench.chroot.hostPath Plan.buildDir with _ | dir
  · exact (routine_print _).bind fun _ => .pure _
  · refine (routine_createRaw _).bind fun _ => (routine_createRaw _).bind fun _ => ?_
    refine Work.Routine.getFiles.bind fun _ => (routine_rawPath _).bind fun _ => ?_
    refine (routine_rawPath _).bind fun _ => (Work.Routine.changingFiles _).bind fun _ => ?_
    exact (Work.Routine.changingFiles _).bind fun _ => .pure _

end Unicontrol

/-! ## All hooks -/

/-- The hooks of the analyzers are routine, and they leave the chroot alone. -/
theorem Hook.routine_run (hook : Hook) : Work.Routine False hook.run := by
  cases hook with
  | toolVersion tool => exact routine_runToolVersion tool
  | chrootCmd name command asBuilder => exact routine_runChrootCmd command asBuilder
  | hostCmd name render => exact routine_runHostCmd render
  | metadata key value => exact routine_runMetadata key value
  | convert name conversion => exact routine_runConvert name conversion
  | gccAnalyzer a => exact Gcc.routine_runAnalyzer a
  | cppcheckVersion onHost => exact Cppcheck.routine_runVersion onHost
  | valgrindCleanup => exact Valgrind.routine_runCleanup
  | unicontrolScan scanner => exact Unicontrol.routine_runScan scanner
  | gitleaksFetch tarball config => exact Gitleaks.routine_runFetch tarball config
  | semgrepPrepare rules => exact Semgrep.routine_runPrepare rules
  | semgrepScan scan => exact Semgrep.routine_runScan scan
  | snykFetch source => exact Snyk.routine_runFetch source
  | snykResolvConf => exact Snyk.routine_runResolvConf
  | snykScan scan => exact Snyk.routine_runScan scan
  | snykStats => exact Snyk.routine_runStats

/-- No hook of the analyzers takes back what was done. -/
theorem Hook.model_goesOnward : Hook.model.GoesOnward :=
  fun hook => hook.routine_run.keeps (Onward.routineKept.mono fun h => h.elim)

/-- The hooks of the analyzers are confined. -/
theorem Hook.model_confined : Hook.model.Confined where
  silent hook := hook.routine_run.events_eq
  goesOnward := Hook.model_goesOnward
  chroot hook job :=
    congrArg Chroot.initialized (hook.routine_run.keeps SameChroot.routineKept job)

end ChrootScan
