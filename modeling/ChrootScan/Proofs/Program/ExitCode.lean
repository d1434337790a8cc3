import ChrootScan.Program
import ChrootScan.Proofs.Machine.Scripted
import ChrootScan.Proofs.Pipeline.Accounts
import ChrootScan.Proofs.Setup.Configuration

/-!
# The exit code of a scan

A scan that has begun its pipeline ends with the code on record, and with nothing else: a failure
that is not for good is recorded late (`Program.recordFailure`), and one that is for good has been
recorded before. The results are finished with that code, whatever became of the pipeline.
-/

namespace ChrootScan

open Effect

/-! ## Machines that answer for themselves -/

namespace Host

/-- Asking the host for the output of a command leaves the programs as they are. -/
theorem samePrograms_machineOutput (argv : List String) (m : Machine) :
    m.SamePrograms (machineOutput argv m).2 := by
  have hrun := m.samePrograms_runToEnd argv
  unfold machineOutput
  split
  · exact refl_of Machine.SamePrograms m
  · split
    · next h => rwa [h] at hrun
    · next h => rwa [h] at hrun

/-- Asking the host whether a command succeeds leaves the programs as they are. -/
theorem samePrograms_machineSucceeds (command : String) (m : Machine) :
    m.SamePrograms (machineSucceeds command m).2 := by
  have hrun := m.samePrograms_runToEnd ["sh", "-c", command]
  unfold machineSucceeds
  split
  · next h => rwa [h] at hrun
  · next h => rwa [h] at hrun

end Host

namespace Program

/-! ## What a scan begins its pipeline with -/

/-- The job that a scan begins its pipeline with, if it gets that far. -/
def started? (a : ScanArgs) (words : List String) (m : Machine) : Option (Job Hook) :=
  match prepare a Host.machine id m m with
  | (.error _, _) => none
  | (.ok p, m) =>
    match Record.create (recordOptions a words) m with
    | (.error _, _) => none
    | (.ok bench, _) =>
      let entry := Scan.putMetadata "enabled-plugins" (Text.join ", " p.analyzers)
      match eval entry { bench with chroot := chroot p } with
      | (.error _, _) => none
      | (.ok (), bench) => some { bench, plan := p.plan, events := [.configured p.analyzers] }

variable {a : ScanArgs} {words : List String} {m m' : Machine} {job : Job Hook}

/-- A scan that gets that far has been prepared, and its results are there. -/
theorem exists_of_started (h : started? a words m = some job) :
    ∃ p m' bench m'', prepare a Host.machine id m m = (.ok p, m') ∧
      Record.create (recordOptions a words) m' = (.ok bench, m'') ∧
      eval (Scan.putMetadata "enabled-plugins" (Text.join ", " p.analyzers))
        { bench with chroot := chroot p } = (.ok (), job.bench) ∧
      job.plan = p.plan ∧ job.events = [.configured p.analyzers] := by
  -- each of the three steps fails with an error, and then no scan has started
  unfold started? at h
  rcases hprepare : prepare a Host.machine id m m with ⟨e | p, m'⟩
  · rw [hprepare] at h
    cases h
  rw [hprepare] at h
  dsimp only at h
  rcases hcreate : Record.create (recordOptions a words) m' with ⟨e | bench, m''⟩
  · rw [hcreate] at h
    cases h
  rw [hcreate] at h
  dsimp only at h
  rcases hentry : eval (Scan.putMetadata "enabled-plugins" (Text.join ", " p.analyzers))
      { bench with chroot := chroot p } with ⟨e | ⟨⟩, begun⟩
  · rw [hentry] at h
    cases h
  rw [hentry] at h
  obtain rfl := Option.some.inj h
  exact ⟨p, m', bench, m'', rfl, hcreate, hentry, rfl, rfl⟩

/-- From there on a scan is its pipeline, and finishing the results. -/
theorem scan_of_started (h : started? a words m = some job) :
    scan a words m = ((conclude Hook.model a.noClean job).1.mapError .ofScan,
      (conclude Hook.model a.noClean job).2.machine) := by
  obtain ⟨p, m', bench, m'', hprepare, hcreate, hentry, hplan, hevents⟩ := exists_of_started h
  have hjob : ({ bench := job.bench, plan := p.plan, events := [.configured p.analyzers] } :
      Job Hook) = job := by
    rw [← hplan, ← hevents]
  rw [scan, hprepare]
  dsimp only
  rw [hcreate]
  dsimp only
  have hrun : (Scan.putMetadata "enabled-plugins" (Text.join ", " p.analyzers)).run.run
      { bench with chroot := chroot p } = (.ok (), job.bench) := hentry
  rw [hrun]
  dsimp only
  rw [hjob]

/-- A machine that answers for itself, among those with the same programs. -/
def machineScope (around : Surroundings Machine) (hhost : around.host = Host.machine)
    (m : Machine) : Scope Machine where
  around
  states m' := m.SamePrograms m'
  commandOutput argv m' h := by
    rw [hhost]
    exact trans_of Machine.SamePrograms h (Host.samePrograms_machineOutput argv m')
  shellSucceeds command m' h := by
    rw [hhost]
    exact trans_of Machine.SamePrograms h (Host.samePrograms_machineSucceeds command m')

/-- Whatever the analyzers ask, the programs of the machine are the same. -/
theorem samePrograms_of_prepare {p : Prepared} (h : prepare a Host.machine id m m = (.ok p, m')) :
    m.SamePrograms m' := by
  unfold prepare at h
  rcases hsettings : settings a m.vars with e | s
  · rw [hsettings] at h
    cases h
  rw [hsettings] at h
  dsimp only at h
  rcases hplan : startPlan a s m with e | plan
  · rw [hplan] at h
    cases h
  rw [hplan] at h
  dsimp only at h
  rcases hrun : configure a { host := Host.machine, settings := s, cwd := cwd m } ⟨id plan, m⟩ with
    ⟨e | names, draft⟩
  · rw [hrun] at h
    cases h
  rw [hrun] at h
  cases h
  let scope := machineScope
    { host := Host.machine, settings := s, allTools := a.selection.allTools, cwd := cwd m } rfl
    m
  -- the analyzers are visited one by one, and none of them leads out of the scope
  obtain ⟨visits, -, -, hvisited, hall⟩ := Registry.visits_ofOptions hrun
  have hscope : Visited scope.around ⟨id plan, m⟩ visits (.ok ()) draft := hvisited
  exact (hscope.edited hall (refl_of Machine.SamePrograms m)).1

/-- A scan that has started begins on a sound bench. -/
theorem sound_of_started (hexits : m.Exits) (h : started? a words m = some job) :
    job.bench.Sound := by
  obtain ⟨p, m', bench, m'', hprepare, hcreate, hentry, -, -⟩ := exists_of_started h
  have hexits' : m'.Exits := hexits.of_same (samePrograms_of_prepare hprepare)
  have hsound : Bench.Sound { bench with chroot := chroot p } := by
    have hcreated := Record.sound_of_create hexits' hcreate
    exact ⟨hcreated.exits, hcreated.nonneg, hcreated.metadataOpen⟩
  have hroutine : Scan.Routine False
      (Scan.putMetadata "enabled-plugins" (Text.join ", " p.analyzers)) := .putMetadata _ _
  have hbegun := hroutine.sound hsound
  rwa [hentry] at hbegun

/-! ## How a scan ends -/

section
variable {η : Type}

/-- The bench that the results are finished on, once the pipeline has ended so. -/
def concluded (ran : Except Failure Unit × Job η) : Bench :=
  match ran.1 with
  | .ok () => ran.2.bench
  | .error e => (act (recordFailure e) ran.2.bench).2

/-- Concluding a scan is finishing the record that its run has left. -/
theorem conclude_eq (model : HookModel η) (noClean : Bool) (job : Job η) :
    conclude model noClean job =
      eval Record.finish (concluded (eval (Pipeline.execute model noClean) job)) := by
  have hrun : (Pipeline.execute model noClean).run.run job =
      eval (Pipeline.execute model noClean) job := rfl
  rw [conclude, hrun]
  rcases eval (Pipeline.execute model noClean) job with ⟨e | ⟨⟩, job'⟩
  · rfl
  · rfl

/-- A failure that is not for good is put on record, and nothing on record is lost. -/
theorem steady_recordFailure (e : Failure) (b : Bench) :
    Steady b (act (recordFailure e) b).2 ∧ b.record.ec ≤ (act (recordFailure e) b).2.record.ec ∧
      (e.isFatal = false → 1 ≤ (act (recordFailure e) b).2.record.ec) := by
  rw [recordFailure]
  rcases hfatal : e.isFatal
  · obtain ⟨b', hrun, hcode, hle, -, -⟩ := Scan.act_fatal e.full 1 b
    have hsteady : Steady b b' := by
      have hkept := Steady.routineKept.fatal e.full 1 b
      rwa [hrun] at hkept
    have hact : (act (if !false then (do let _ ← Scan.fatal e.full 1; pure ()) else pure ()) b).2 =
        (act (Scan.fatal e.full 1) b).2 := rfl
    rw [hact, hrun]
    exact ⟨hsteady, hle, fun _ => hcode⟩
  · exact ⟨refl_of Steady b, le_rfl, nofun⟩

/-- The results of a scan whose pipeline ended as `ran` were finished with the exit code `n`, `left`
being what they were left as. -/
structure Finished (ran : Except Failure Unit × Job η) (n : Int) (left : Bench) : Prop where
  /-- The last entry of the metadata is the exit code. -/
  entry : left.record.entries.getLast? = some ("exit-code", toString n)
  /-- Nothing can be written behind it any more. -/
  closed : ∀ key value, (eval (Scan.putMetadata key value) left).2 = left
  /-- It is the last line of the file by the time the results are packed. -/
  line : ∀ old, (concluded ran).MetadataHolds old → ∃ lines, (concluded ran).closed.MetadataHolds
    (old ++ lines ++ Text.encode (Record.metadataLine "exit-code" (toString n)))
  /-- A failure has an exit code that is not zero, nor less than the one that it carries. -/
  failed : ∀ e, ran.1 = .error e → 1 ≤ n ∧ ∀ code, e.scanError? = some (.fatal code) → code ≤ n
  /-- Success was reported with the exit code. -/
  completed : ran.1 = .ok () → ran.2.events.getLast? = some (.completed n)

theorem sound_concluded {ran : Except Failure Unit × Job η} (h : ran.2.bench.Sound) :
    (concluded ran).Sound := by
  rcases ran with ⟨e | ⟨⟩, job'⟩
  · obtain ⟨hsteady, hle, -⟩ := steady_recordFailure e job'.bench
    exact h.of_steady hsteady hle
  · exact h

variable {model : HookModel η} {noClean : Bool} {job : Job η}

/-- What a failure carries is on record in the end. -/
theorem le_ec_concluded (hmodel : model.Accounts) (h : job.bench.Sound) {e : Failure}
    (he : (eval (Pipeline.execute model noClean) job).1 = .error e) :
    1 ≤ (concluded (eval (Pipeline.execute model noClean) job)).record.ec ∧
      ∀ code, e.scanError? = some (.fatal code) →
        code ≤ (concluded (eval (Pipeline.execute model noClean) job)).record.ec := by
  have haccounted := Pipeline.accounted_execute hmodel noClean h he
  rcases hran : eval (Pipeline.execute model noClean) job with ⟨e' | ⟨⟩, job'⟩
  · rw [hran] at he haccounted
    cases he
    obtain ⟨-, hle, hrecorded⟩ := steady_recordFailure e job'.bench
    -- a failure that is for good is on record already, any other one was recorded with the code 1
    rcases hfatal : e.isFatal
    · refine ⟨hrecorded hfatal, fun code hcode => ?_⟩
      rw [Failure.isFatal, hcode] at hfatal
      cases hfatal
    · obtain ⟨code, hcode, hpos, hrecord⟩ := haccounted hfatal
      refine ⟨(hpos.trans hrecord).trans hle, fun code' hcode' => ?_⟩
      cases hcode.symm.trans hcode'
      exact hrecord.trans hle
  · rw [hran] at he
    cases he

/-- A scan that succeeds reports the code on record. -/
theorem completed_concluded (hok : (eval (Pipeline.execute model noClean) job).1 = .ok ()) :
    (eval (Pipeline.execute model noClean) job).2.events.getLast? =
      some (.completed (concluded (eval (Pipeline.execute model noClean) job)).record.ec) := by
  have hbench : concluded (eval (Pipeline.execute model noClean) job) =
      (eval (Pipeline.execute model noClean) job).2.bench := by
    rw [concluded, hok]
  obtain ⟨hphases, hclean⟩ := Pipeline.execute_eq_ok_iff.1 hok
  rw [hbench, Pipeline.eval_execute, Pipeline.bench_ending, Pipeline.events_ending, hphases, hclean]
  exact List.getLast?_concat

/-- Whatever becomes of the pipeline, the results are finished with an exit code that says so, if they
can be packed. -/
theorem finished_concluded (hmodel : model.Accounts) (h : job.bench.Sound)
    (hpacked : (act Record.pack
      (concluded (eval (Pipeline.execute model noClean) job)).closed).1 = .ok ()) :
    ∃ n left, conclude model noClean job = (.ok n, left) ∧
      Finished (eval (Pipeline.execute model noClean) job) n left := by
  have hopen := (sound_concluded (Pipeline.sound_execute hmodel noClean h)).metadataOpen
  obtain ⟨left, hfinish, hrecord⟩ := Record.eval_finish hopen hpacked
  obtain ⟨-, -, hlines⟩ := Record.eval_close hopen
  refine ⟨_, left, (conclude_eq model noClean job).trans hfinish, ?_⟩
  exact {
    entry := by
      rw [hrecord]
      exact Record.getLast?_entries_closedAt _ _
    closed := fun key value => by
      rw [Scan.eval_putMetadata_of_closed (by rw [hrecord]; rfl)]
    line := fun old hold => by
      have hholds := hlines old hold
      rw [Record.lastLines, ← ByteArray.append_assoc] at hholds
      exact ⟨_, hholds⟩
    failed := fun e he => le_ec_concluded hmodel h he
    completed := completed_concluded }

end

/-- A scan that has begun its pipeline and whose results can be packed ends with an exit code, the one
that its results were finished with, whatever became of the pipeline. Of the programs that it starts
nothing is known but that they end with no code below zero, and of the network nothing at all. -/
theorem scan_exitCode (hstarted : started? a words m = some job) (hexits : m.Exits)
    (hpacked : (act Record.pack
      (concluded (eval (Pipeline.execute Hook.model a.noClean) job)).closed).1 = .ok ()) :
    ∃ n left, scan a words m = (.ok n, left.machine) ∧
      conclude Hook.model a.noClean job = (.ok n, left) ∧
      Finished (eval (Pipeline.execute Hook.model a.noClean) job) n left := by
  obtain ⟨n, left, hconclude, hfinished⟩ :=
    finished_concluded Hook.model_accounts (sound_of_started hexits hstarted) hpacked
  refine ⟨n, left, ?_, hconclude, hfinished⟩
  rw [scan_of_started hstarted, hconclude]
  rfl

/-- The executable of an analyzer is downloaded into the cache and tells its version. Then a signal
ends the program that creates the chroot: the scan is given up with the code 143, and that is the last
line of its metadata. -/
theorem scan_exitCode_killed :
    let a : ScanArgs :=
      { srpm := "demo-1-1.src.rpm", output := some "out"
        selection := { tools := some ["snyk"] }, analyzers := { snyk := { token := "/token" } } }
    let words := ["csmock", "-t", "snyk", "demo-1-1.src.rpm"]
    let script := "#!/bin/sh\necho 1.1294.0\n"
    let m : Machine :=
      { tree := { nodes := [(["demo-1-1.src.rpm"], .file .empty 0o644), (["tmp"], .dir),
          (["token"], .file .empty 0o600), (["usr"], .dir), (["usr", "bin"], .dir),
          (["usr", "bin", "mock"], .file .empty 0o755)] }
        behaviour := Scripted.behaviour "/" "/usr/bin" [{ pattern := "--init", signal := some 15 }]
        network := fun _ _ => .received ⟨200, "OK"⟩ (.ok (Text.encode script)) }
    ∃ job left, started? a words m = some job ∧ m.Exits ∧
      (eval (Pipeline.execute Hook.model a.noClean) job).1 =
        .error (Failure.ofScan (.fatal 143)) ∧
      scan a words m = (.ok 143, left.machine) ∧
      left.machine.requests = ["https://static.snyk.io/cli/latest/snyk-linux"] ∧
      left.machine.tree.readText "/var/tmp/csmock/snyk/snyk-linux" = .ok script ∧
      ("analyzer-version-snyk-code", "1.1294.0") ∈ left.record.entries ∧
      Finished (eval (Pipeline.execute Hook.model a.noClean) job) 143 left ∧
      ∃ lines, (concluded (eval (Pipeline.execute Hook.model a.noClean) job)).closed.MetadataHolds
        (lines ++ Text.encode "exit-code = 143\n") := by
  intro a words script m
  have hexits : m.Exits := by
    refine Scripted.exits (fun rule hrule => ?_) rfl nofun
    obtain rfl := List.mem_singleton.1 hrule
    exact ⟨by decide, fun signal hsignal => by cases hsignal; decide⟩
  have hends : (started? a words m).any (fun job =>
      let ran := eval (Pipeline.execute Hook.model a.noClean) job
      let b := concluded ran
      let ended := conclude Hook.model a.noClean job
      ran.1 = .error (Failure.ofScan (.fatal 143)) ∧ (act Record.pack b.closed).1 = .ok () ∧
        (ended.1 = .ok 143 ∧
          ended.2.machine.requests = ["https://static.snyk.io/cli/latest/snyk-linux"] ∧
          ended.2.machine.tree.readText "/var/tmp/csmock/snyk/snyk-linux" = .ok script ∧
          ("analyzer-version-snyk-code", "1.1294.0") ∈ ended.2.record.entries) ∧
        (b.machine.tree.readBytes b.record.metadataPath).isOk = true ∧
        b.machine.tree.locate true b.record.metadataPath ≠
          b.machine.tree.locate true b.record.logPath) = true := by
    decide +kernel
  obtain ⟨job, hjob, hends⟩ := (Option.any_eq_true _ _).1 hends
  obtain ⟨hfails, hpacked, hended, hread, hapart⟩ := of_decide_eq_true hends
  obtain ⟨n, left, hscan, hconclude, hfinished⟩ := scan_exitCode hjob hexits hpacked
  rw [hconclude] at hended
  obtain ⟨hcode, hasked, hcached, hversion⟩ := hended
  obtain rfl : n = 143 := Except.ok.inj hcode
  refine ⟨job, left, hjob, hexits, hfails, hscan, hasked, hcached, hversion, hfinished, ?_⟩
  obtain ⟨old, hold⟩ : ∃ old, (concluded
      (eval (Pipeline.execute Hook.model a.noClean) job)).MetadataHolds old := by
    rcases hbytes : FileTree.readBytes _ _ with e | old
    · rw [hbytes] at hread
      cases hread
    · exact ⟨old, hbytes, hapart⟩
  obtain ⟨lines, hlines⟩ := hfinished.line old hold
  exact ⟨_, hlines⟩

end Program
end ChrootScan
