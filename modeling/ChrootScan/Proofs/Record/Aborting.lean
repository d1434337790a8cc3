import ChrootScan.Proofs.Record.Commands

/-!
# Signals stop the scan

Four operations look for signals: logging a line, recording an error, and the two ways of running a
command. A signal that such an operation sees, or that ends the child it starts, is to stop the scan
with a code of at least 128 more than the signal. It does exactly as long as the code on record is
below 192, since a checkpoint takes the greatest code so far for that of the signal.
-/

namespace ChrootScan

open Effect

/-- An operation of a scan that looks for signals. -/
inductive Operation
  | print (lead text : String)
  | error (text : String) (ec : Int)
  | exec (echo : Bool) (command : Shell.Command)
  | output (command : Shell.Command)
deriving DecidableEq, Repr

namespace Operation

def run : Operation → Scan Unit
  | print lead text => Scan.printLead lead text
  | error text ec => Scan.error text ec
  | exec echo command => do let _ ← Scan.execWith echo command
  | output command => do let _ ← Scan.output command

/-- The command that an operation runs. -/
def command? : Operation → Option (Manner × Shell.Command)
  | exec echo command => some (.logged echo, command)
  | output command => some (.captured, command)
  | _ => none

/-- The operation records an error. -/
def recordsError : Operation → Bool
  | error _ _ => true
  | _ => false

/-- An operation gives the scan up with a code that is not less than `least`. -/
def Aborts (op : Operation) (b : Bench) (least : Int) : Prop :=
  ∃ ec, least ≤ ec ∧ (eval op.run b).1 = .error (.fatal ec)

/-- An operation starts no program. -/
def StartsNothing (op : Operation) (b : Bench) : Prop :=
  (eval op.run b).2.machine.starts = b.machine.starts ∧
    (eval op.run b).2.machine.calls = b.machine.calls

/-- How the child that an operation starts ends, and the bench right then. -/
def childEnd? (op : Operation) (b : Bench) : Option (Ending × Bench) :=
  match op.command? with
  | none => none
  | some (manner, command) =>
    match eval (manner.approach command) b with
    | (.error _, _) => none
    | (.ok (), b') =>
      match act (Scan.start command) b' with
      | (.error _, _) => none
      | (.ok run, b'') => some (act (manner.attend run) b'')

/-! ## Operations as calls -/

variable {op : Operation} {b : Bench}

/-- An operation that runs a command ends as its call does. -/
theorem eval_run_of_command {manner : Manner} {command : Shell.Command}
    (h : op.command? = some (manner, command)) :
    eval op.run b = ((eval (manner.call command) b).1.map fun _ => (),
      (eval (manner.call command) b).2) := by
  cases op with
  | print => cases h
  | error => cases h
  | exec echo command =>
    cases h
    rw [run, eval_bind, Manner.eval_execWith]
    rcases eval ((Manner.logged echo).call command) b with ⟨e | code, b'⟩
    · rfl
    · rfl
  | output command =>
    cases h
    obtain ⟨out, hout⟩ := Manner.eval_output command b
    rw [run, eval_bind, hout]
    rcases eval (Manner.captured.call command) b with ⟨e | code, b'⟩
    · rfl
    · rfl

/-- A child that has ended was started after an approach without an error, and attended to. -/
theorem childEnd_cases {ending : Ending} {b' : Bench} (h : op.childEnd? b = some (ending, b')) :
    ∃ manner command run m, op.command? = some (manner, command) ∧
      eval (manner.approach command) b = (.ok (), b.ready manner command) ∧
      (b.ready manner command).machine.start command.program = (.ok run, m) ∧
      act (manner.attend run) ((b.ready manner command).withMachine m) = (ending, b') := by
  -- the child ends only if the operation is a command, gets to its start and is not refused
  unfold childEnd? at h
  rcases hcommand : op.command? with _ | ⟨manner, command⟩
  · rw [hcommand] at h
    cases h
  · rw [hcommand] at h
    dsimp only at h
    rcases happroach : eval (manner.approach command) b with ⟨e | ⟨⟩, b₁⟩
    · rw [happroach] at h
      cases h
    · obtain rfl := Manner.eq_ready_of_eval_approach manner command happroach
      rw [happroach] at h
      dsimp only at h
      rcases hstart : (b.ready manner command).machine.start command.program with ⟨cause | run, m⟩
      · rw [Scan.act_start, hstart] at h
        cases h
      · rw [Scan.act_start, hstart] at h
        exact ⟨manner, command, run, m, rfl, happroach, hstart, Option.some.inj h⟩

/-- Once its child has ended, an operation only takes account of the exit code. -/
theorem eval_run_of_childEnd {ending : Ending} {b' : Bench}
    (h : op.childEnd? b = some (ending, b')) :
    (eval op.run b).1 = (eval (Scan.noteStatus ending.code) b').1 := by
  obtain ⟨manner, command, run, m, hcommand, happroach, hstart, hattend⟩ := childEnd_cases h
  rw [eval_run_of_command hcommand, Manner.eval_call, happroach]
  dsimp only
  rw [Scan.act_start, hstart]
  dsimp only
  rw [hattend]
  dsimp only
  rcases eval (Scan.noteStatus ending.code) b' with ⟨e | ⟨⟩, c⟩
  · rfl
  · rfl

/-- A relation that elementary steps keep holds until a child has ended, if it only gets signals
that the relation allows for. -/
theorem childEnd_kept {R : Bench → Bench → Prop} [IsPreorder Bench R] {S : Int → Prop}
    (hR : StepKept R S) {ending : Ending} {b' : Bench} (h : op.childEnd? b = some (ending, b'))
    (hS : ∀ manner command run m,
      (b.ready manner command).machine.start command.program = (.ok run, m) →
        ∀ signal ∈ run.arrivals, S signal) : R b b' := by
  obtain ⟨manner, command, run, m, -, -, hstart, hattend⟩ := childEnd_cases h
  have hmoves := hR.attend manner (hS manner command run m hstart)
    ((b.ready manner command).withMachine m)
  have hstarted := hR.start (b.ready manner command) command.program
  rw [hattend] at hmoves
  rw [hstart] at hstarted
  exact trans_of R (hR.ready b manner command) (trans_of R hstarted hmoves)

/-! ## A look that stops the scan -/

/-- All operations begin with a look, so if that stops the scan, they start nothing. -/
theorem eval_run_of_stops (h : b.look.record.stops = true) :
    ∃ b', eval op.run b = (.error (.fatal b'.record.ec), b') ∧
      b.look.record.ec ≤ b'.record.ec ∧ Still b b' := by
  -- what is written into the log first has no influence on the look
  have hlog (t : FileTree) : (b.withTree t).look.record = b.look.record := by
    rw [Bench.record_look, Bench.record_look]
    rfl
  cases op with
  | print lead text =>
    obtain ⟨t, ht⟩ := Scan.eval_printLead lead text b
    obtain ⟨b', hrun, hle, -, hstill⟩ :=
      Scan.eval_checkpoint_of_stops (b := b.withTree t) (by rw [hlog]; exact h)
    rw [hlog] at hle
    exact ⟨b', ht.trans hrun, hle, (Still.withTree b t).trans hstill⟩
  | error text ec =>
    obtain ⟨t, ht⟩ := Scan.eval_error text ec b
    obtain ⟨b', hrun, hle, -, hstill⟩ :=
      Scan.eval_checkpoint_of_stops (b := b.withTree t) (by rw [hlog]; exact h)
    rw [hlog] at hle
    rw [hrun] at ht
    exact ⟨b', ht, hle, (Still.withTree b t).trans hstill⟩
  | exec echo command =>
    obtain ⟨b', hrun, hle, hstill⟩ :=
      Manner.eval_approach_of_stops (.logged echo) command (.inl h)
    refine ⟨b', ?_, hle, hstill⟩
    rw [eval_run_of_command rfl, Manner.eval_call, hrun]
    rfl
  | output command =>
    obtain ⟨b', hrun, hle, hstill⟩ := Manner.eval_approach_of_stops .captured command (.inl h)
    refine ⟨b', ?_, hle, hstill⟩
    rw [eval_run_of_command rfl, Manner.eval_call, hrun]
    rfl

/-! ## Codes of 192 and above -/

theorem stops_of_high {r : Record} (h : 192 ≤ r.ec) : r.stops = false :=
  Record.stops_eq_false_iff.2 (.inr (.inr h))

theorem high_look (h : 192 ≤ b.record.ec) : 192 ≤ b.look.record.ec :=
  h.trans (Onward.look b).ec

theorem eval_noteStatus_of_high (h : 192 ≤ b.record.ec) (code : Int) :
    ∃ b', eval (Scan.noteStatus code) b = (.ok (), b') := by
  unfold Scan.noteStatus
  split
  · set raised : Bench := { b with record := b.record.raiseCode code }
    have hraised : 192 ≤ raised.record.ec := h.trans (Onward.raiseCode b code).ec
    have hrun := Scan.eval_checkpoint_of_not_stops (stops_of_high (high_look hraised))
    exact ⟨raised.look, by rw [eval_liftM_bind]; exact hrun⟩
  · exact ⟨b, rfl⟩

/-- With such a code on record, commands are run as if no signal had come. -/
theorem eval_call_of_high (h : 192 ≤ b.record.ec) (manner : Manner) (command : Shell.Command) :
    ∃ code b', eval (manner.call command) b = (.ok code, b') := by
  have hready : 192 ≤ (b.ready manner command).record.ec :=
    h.trans (Onward.stepKept.ready b manner command).ec
  rw [Manner.eval_call, Manner.eval_approach_of_not_stops manner command
    (stops_of_high (high_look h)) (stops_of_high hready)]
  have hstart := Onward.stepKept.startCommand command (b.ready manner command)
  dsimp only
  rcases hact : act (Scan.start command) (b.ready manner command) with ⟨cause | run, b'⟩
  · exact ⟨_, _, rfl⟩
  · rw [hact] at hstart
    have hattend : Onward b' (act (manner.attend run) b').2 :=
      Onward.stepKept.attend manner (fun _ _ => trivial) b'
    obtain ⟨b'', hnote⟩ := eval_noteStatus_of_high
      (hready.trans (hstart.ec.trans hattend.ec)) (act (manner.attend run) b').1.code
    refine ⟨(act (manner.attend run) b').1.code, b'', ?_⟩
    dsimp only
    rw [hnote]

/-- With such a code on record, no operation stops the scan, but an error may. -/
theorem eval_run_of_high (h : 192 ≤ b.record.ec)
    (hop : op.recordsError = true → b.record.keepGoing = true) :
    (eval op.run b).1 = .ok () := by
  cases op with
  | print lead text =>
    obtain ⟨t, ht⟩ := Scan.eval_printLead lead text b
    have hlook : 192 ≤ (b.withTree t).look.record.ec := high_look h
    rw [run, ht, Scan.eval_checkpoint_of_not_stops (stops_of_high hlook)]
  | error text ec =>
    obtain ⟨t, ht⟩ := Scan.eval_error text ec b
    have hlook : 192 ≤ (b.withTree t).look.record.ec := high_look h
    rw [run, ht, Scan.eval_checkpoint_of_not_stops (stops_of_high hlook)]
    simp [hop rfl]
  | exec echo command =>
    obtain ⟨code, b', hcall⟩ := eval_call_of_high h (.logged echo) command
    rw [eval_run_of_command rfl, hcall]
    rfl
  | output command =>
    obtain ⟨code, b', hcall⟩ := eval_call_of_high h .captured command
    rw [eval_run_of_command rfl, hcall]
    rfl

/-- An error stops such a scan, unless errors do not. -/
theorem eval_error_of_high (h : 192 ≤ b.record.ec) (hdying : b.record.dying = false)
    (hkeep : b.record.keepGoing = false) (text : String) (ec : Int) :
    ∃ b', eval (Scan.error text ec) b = (.error (.fatal b'.record.ec), b') ∧
      192 ≤ b'.record.ec ∧ Still b b' := by
  obtain ⟨t, ht⟩ := Scan.eval_error text ec b
  set looked := (b.withTree t).look with hlooked
  have hawake : Awake b looked := trans_of Awake (Awake.stepKept.withTree b t) (Awake.look _)
  have hhigh : 192 ≤ looked.record.ec := @high_look (b.withTree t) h
  -- the code stays where it is or rises, so there is one to stop with
  have hnonzero : max looked.record.ec ec ≠ 0 := by omega
  rw [Scan.eval_checkpoint_of_not_stops (stops_of_high hhigh)] at ht
  refine ⟨{ looked with record := looked.record.raiseCode ec }, ?_, ?_, ?_⟩
  · rw [ht]
    simp [← hlooked, hawake.dying, hdying, hawake.keepGoing, hkeep, hnonzero]
  · simp [hhigh]
  · refine ((Still.withTree b t).trans (Bench.still_look _)).trans ⟨rfl, ?_, ⟨_, _, _, rfl⟩⟩
    exact ⟨_, _, Record.raiseCode_eq _ _⟩

/-! ## When signals stop the scan -/

/-- A handled signal is seen by a look, and the code on record is below 192: the look stops a scan
that is not dying. -/
theorem look_stops {signal : Int} (hsignal : signal ∈ Machine.handled)
    (htake : b.machine.takeSignal.1 = some signal) (hdying : b.record.dying = false)
    (hlow : b.record.ec < 192) :
    b.look.record.stops = true ∧ 128 + signal ≤ b.look.record.ec := by
  have hrange := Machine.lt_of_mem_handled hsignal
  rw [Record.stops_eq_true_iff, Bench.record_look, htake, Record.seen_some, Record.ec_raiseCode,
    Record.dying_raiseCode]
  refine ⟨⟨hdying, ?_, ?_⟩, ?_⟩
  · omega
  · omega
  · omega

/-- Whether a child that a signal has ended stops the scan depends on the code then on record, and
on what the last look sees. -/
theorem aborts_of_killed {signal : Int} {b' : Bench} (hpos : 1 ≤ signal)
    (hdying : b'.record.dying = false) (hend : op.childEnd? b = some (.killed signal, b')) :
    op.Aborts b (128 + signal) ↔ ((b'.caught signal).look.record.ec < 192) := by
  have hnote : eval (Scan.noteStatus (128 + signal)) b' =
      eval Scan.checkpoint (b'.caught signal) := by
    rw [Scan.noteStatus, if_pos (by omega)]
    rfl
  -- the child's code is on record before the look, so the look sees at least this code
  have hle : 128 + signal ≤ (b'.caught signal).look.record.ec := by
    refine le_trans ?_ (Onward.look _).ec
    simp [Bench.caught]
  unfold Aborts
  rw [eval_run_of_childEnd hend, Ending.code, hnote]
  rcases hstops : (b'.caught signal).look.record.stops
  · -- the code is above 128 by now, so only one of 192 or more lets the scan go on
    rw [Scan.eval_checkpoint_of_not_stops hstops]
    rw [Record.stops_eq_false_iff] at hstops
    have hawake : (b'.caught signal).look.record.dying = false := by
      rw [(Awake.look _).dying]
      simpa [Bench.caught] using hdying
    rw [hawake] at hstops
    constructor
    · rintro ⟨ec, -, hec⟩
      cases hec
    · intro hlow
      rcases hstops with hstops | hstops | hstops
      · cases hstops
      · omega
      · omega
  · obtain ⟨c, hrun, hlec, -, -⟩ := Scan.eval_checkpoint_of_stops hstops
    rw [hrun]
    exact ⟨fun _ => (Record.stops_eq_true_iff.1 hstops).2.2, fun _ => ⟨_, hle.trans hlec, rfl⟩⟩

/-- While only handled signals reach the scan, they do not lift the code of a child's end to 192. -/
theorem low_of_childEnd {ending : Ending} {b' : Bench} (h : op.childEnd? b = some (ending, b'))
    (hheeding : b.machine.Heeding) : Low b b' := by
  refine childEnd_kept Low.stepKept h fun manner command run m hstart => ?_
  exact ((Low.stepKept.ready b manner command).heeding hheeding).mem_of_start hstart

/-- A handled signal stops the scan at the next look, if the code on record is below 192. If it is
not, an error may still stop the scan. -/
theorem aborts_of_look_iff (hdying : b.record.dying = false) {signal : Int}
    (hsignal : signal ∈ Machine.handled) (htake : b.machine.takeSignal.1 = some signal) :
    op.Aborts b (128 + signal) ∧ op.StartsNothing b ↔
      b.record.ec < 192 ∨ op.recordsError = true ∧ b.record.keepGoing = false := by
  have hrange := Machine.lt_of_mem_handled hsignal
  by_cases hlow : b.record.ec < 192
  · obtain ⟨hstops, hle⟩ := look_stops hsignal htake hdying hlow
    obtain ⟨c, hrun, hlec, hstill⟩ := @eval_run_of_stops op b hstops
    refine ⟨fun _ => .inl hlow, fun _ => ⟨⟨c.record.ec, hle.trans hlec, by rw [hrun]⟩, ?_, ?_⟩⟩
    · rw [hrun, hstill.starts]
    · rw [hrun, hstill.calls]
  -- from 192 on the look is of no use, but the operation itself may be an error
  by_cases herror : op.recordsError = true ∧ b.record.keepGoing = false
  · obtain ⟨hop, hkeep⟩ := herror
    refine ⟨fun _ => .inr ⟨hop, hkeep⟩, fun _ => ?_⟩
    cases op with
    | error text ec =>
      obtain ⟨c, hrun, hhigh, hstill⟩ := eval_error_of_high (not_lt.1 hlow) hdying hkeep text ec
      have hrun' : eval (error text ec).run b = (.error (.fatal c.record.ec), c) := hrun
      refine ⟨⟨c.record.ec, by omega, by rw [hrun']⟩, ?_, ?_⟩
      · rw [hrun', hstill.starts]
      · rw [hrun', hstill.calls]
    | print => cases hop
    | exec => cases hop
    | output => cases hop
  · -- nothing is left to stop the scan
    have hok : (eval op.run b).1 = .ok () := by
      refine eval_run_of_high (not_lt.1 hlow) fun hop => ?_
      rw [← Bool.not_eq_false]
      exact fun hkeep => herror ⟨hop, hkeep⟩
    refine ⟨?_, fun h => absurd h (not_or.2 ⟨hlow, herror⟩)⟩
    rintro ⟨⟨ec, -, hrun⟩, -⟩
    rw [hok] at hrun
    cases hrun

/-- A signal that ends the child stops the scan, if neither the code then on record nor a further
signal nor this one is too high. -/
theorem aborts_of_childEnd_iff (hdying : b.record.dying = false) {signal : Int} {b' : Bench}
    (hpos : 1 ≤ signal) (hend : op.childEnd? b = some (.killed signal, b')) :
    op.Aborts b (128 + signal) ↔ b'.record.ec < 192 ∧ signal < 64 ∧
      ∀ next, b'.machine.takeSignal.1 = some next → next < 64 := by
  have hawake : Awake b b' := childEnd_kept Awake.stepKept hend fun _ _ _ _ _ _ _ => trivial
  have hlook : (b'.caught signal).look.record =
      (b'.record.raiseCode (128 + signal)).seen b'.machine.takeSignal.1 := Bench.record_look _
  rw [aborts_of_killed hpos (hawake.dying.trans hdying) hend, hlook]
  rcases b'.machine.takeSignal.1 with _ | next
  · simp
    omega
  · simp
    omega

/-- A scan that is not dying is stopped by a signal exactly as long as the code on record is below
192 and the signal below 64; but an error that no signal stops still stops a scan that does not keep
going. -/
theorem signal_stops_scan_iff (op : Operation) (b : Bench) (hdying : b.record.dying = false) :
    (∀ signal ∈ Machine.handled, b.machine.takeSignal.1 = some signal →
      (op.Aborts b (128 + signal) ∧ op.StartsNothing b ↔
        b.record.ec < 192 ∨ op.recordsError = true ∧ b.record.keepGoing = false)) ∧
    (∀ signal b', 1 ≤ signal → op.childEnd? b = some (.killed signal, b') →
      (op.Aborts b (128 + signal) ↔ b'.record.ec < 192 ∧ signal < 64 ∧
        ∀ next, b'.machine.takeSignal.1 = some next → next < 64)) ∧
    (b.machine.Heeding →
      ∀ signal b', 1 ≤ signal → op.childEnd? b = some (.killed signal, b') →
        (op.Aborts b (128 + signal) ↔ b.record.ec < 192 ∧ signal < 64)) := by
  refine ⟨fun signal hsignal htake => aborts_of_look_iff hdying hsignal htake,
    fun signal b' hpos hend => aborts_of_childEnd_iff hdying hpos hend,
    fun hheeding signal b' hpos hend => ?_⟩
  -- where only handled signals come, the code at the end of the child tells that at its start
  have hlow := low_of_childEnd hend hheeding
  rw [aborts_of_childEnd_iff hdying hpos hend, hlow.ec hheeding]
  constructor
  · rintro ⟨hec, hlt, -⟩
    exact ⟨hec, hlt⟩
  · rintro ⟨hec, hlt⟩
    refine ⟨hec, hlt, fun next hnext => ?_⟩
    exact (Machine.lt_of_mem_handled ((hlow.heeding hheeding).mem_of_takeSignal hnext)).2

/-- A pending termination stops a scan with code 7 on record before anything is started, and so
does the death of its child. -/
theorem signal_stops_scan_low :
    let b : Bench :=
      { machine :=
          { behaviour := fun _ _ _ _ =>
              .started { location := "/bin/sh", ending := fun _ => .killed 9 } }
        record := { output := "out", ec := 7 } }
    let raised := b.withMachine (b.machine.raise 15)
    let op := output (.argv ["sh"])
    (op.Aborts raised 143 ∧ op.StartsNothing raised) ∧ op.Aborts b 137 := by
  intro b raised op
  have hheeding : b.machine.Heeding := by
    refine ⟨.inl rfl, ?_, ?_, ?_⟩
    · intro n signal h
      cases h
    · intro signal h
      cases h
    · intro n t vars argv run h signal hsignal
      cases h
      cases hsignal
  constructor
  · exact ((signal_stops_scan_iff op raised rfl).1 15 (by decide) (by decide)).2 (.inl (by decide))
  · exact ((signal_stops_scan_iff op b rfl).2.2 hheeding 9 _ (by decide) rfl).2
      ⟨by decide, by decide⟩

theorem not_aborts_of_isOk (h : (eval op.run b).1.isOk = true) (least : Int) :
    ¬ op.Aborts b least := by
  rintro ⟨ec, -, hrun⟩
  rw [hrun] at h
  cases h

/-- Once a command of a new scan has exited with 255, a termination that is pending does not stop
the next command. -/
theorem signal_lost_after_high_code :
    let first := exec true (.argv ["sh", "first"])
    let second := exec true (.argv ["sh", "second"])
    let fresh : Bench :=
      { machine :=
          { behaviour := fun n _ _ _ => .started
              { location := "/bin/sh", ending := fun _ => .exited (if n = 0 then 255 else 0) } }
        record := Record.ofOptions { output := "out" } "/tmp/csmock" }
    let b := (eval first.run fresh).2
    let raised := b.withMachine (b.machine.raise 15)
    (eval first.run fresh).1.isOk = true ∧ raised.record.dying = false ∧
      raised.machine.takeSignal.1 = some 15 ∧ ¬ second.Aborts raised 143 ∧
      ¬ second.StartsNothing raised := by
  intro first second fresh b raised
  refine ⟨by decide +kernel, by decide +kernel, by decide +kernel, ?_, ?_⟩
  · exact not_aborts_of_isOk (by decide +kernel) 143
  · rintro ⟨hstarts, -⟩
    exact absurd hstarts (by decide +kernel)

end Operation
end ChrootScan
