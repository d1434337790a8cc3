import ChrootScan.Proofs.Machine
import ChrootScan.Proofs.Record.Signals

/-!
# Commands

A command is run in three steps: the scan approaches it, looking for signals and echoing it, starts
it, and attends to the child until it has ended. `Manner.call` puts the steps together, and both
ways of running a command are such calls. What holds across all of it is shown once for the
elementary steps, of a scan that is not given up (`StepKept`) or of any scan (`WorkKept`): a scan goes
`Onward`, it stays `Awake`, and handled signals leave its code in the range that signals have
(`Low`).
-/

namespace ChrootScan

open Effect

/-! ## Elementary steps -/

/-- The bench with another machine. -/
def Bench.withMachine (b : Bench) (m : Machine) : Bench :=
  { b with machine := m }

/-- The bench with a signal on record. -/
def Bench.caught (b : Bench) (signal : Int) : Bench :=
  { b with record := b.record.raiseCode (128 + signal) }

/-- A relation holds across every elementary step of a scan that is not given up, where the signals
that arrive while programs run are in `S`. -/
structure StepKept (R : Bench → Bench → Prop) (S : Int → Prop) : Prop where
  withTree : ∀ b t, R b (b.withTree t)
  look : ∀ b, R b b.look
  start : ∀ b argv, R b (b.withMachine (b.machine.start argv).2)
  forward : ∀ b signal process, R b (b.withMachine (b.machine.forward signal process).2)
  raise : ∀ b signal, S signal → R b (b.withMachine (b.machine.raise signal))
  caught : ∀ b signal, S signal → R b (b.caught signal)

/-- A relation holds across every elementary step of a scan, whether it is given up or not. -/
structure WorkKept (R : Bench → Bench → Prop) : Prop extends StepKept R fun _ => True where
  raiseCode : ∀ b ec, R b { b with record := b.record.raiseCode ec }
  dying : ∀ b, R b { b with record := { b.record with dying := true } }

/-- What no work on a bench can undo. -/
structure Onward (b b' : Bench) : Prop where
  calls : b.machine.calls <+: b'.machine.calls
  ec : b.record.ec ≤ b'.record.ec
  dying : b.record.dying = true → b'.record.dying = true

/-- Only the machine and the exit code differ. -/
structure Awake (b b' : Bench) : Prop where
  chroot : b'.chroot = b.chroot
  record : ∃ ec, b'.record = { b.record with ec := ec }

/-- As long as only handled signals reach the scan, the code is on the same side of 192. -/
structure Low (b b' : Bench) : Prop where
  heeding : b.machine.Heeding → b'.machine.Heeding
  ec : b.machine.Heeding → (b'.record.ec < 192 ↔ b.record.ec < 192)

namespace Onward

instance : IsPreorder Bench Onward where
  refl _ := ⟨List.prefix_rfl, le_refl _, id⟩
  trans _ _ _ h h' := ⟨h.calls.trans h'.calls, h.ec.trans h'.ec, h'.dying ∘ h.dying⟩

theorem raiseCode (b : Bench) (ec : Int) : Onward b { b with record := b.record.raiseCode ec } := by
  refine ⟨List.prefix_rfl, ?_, ?_⟩
  · simp
  · simp

theorem look (b : Bench) : Onward b b.look := by
  obtain ⟨t, ht⟩ := b.look_eq
  rw [ht]
  exact ⟨List.prefix_rfl, b.record.le_ec_seen _, by simp⟩

/-- No elementary step takes anything back. -/
theorem stepKept : StepKept Onward fun _ => True where
  withTree _ _ := ⟨List.prefix_rfl, le_refl _, id⟩
  look := look
  start b argv := ⟨b.machine.prefix_calls_start argv, le_refl _, id⟩
  forward b signal process := ⟨b.machine.prefix_calls_forward signal process, le_refl _, id⟩
  raise _ _ _ := ⟨List.prefix_rfl, le_refl _, id⟩
  caught b _ _ := raiseCode b _

/-- Not even giving up takes anything back: the code is only raised, and the scan stays a dying one.
-/
theorem workKept : WorkKept Onward where
  toStepKept := stepKept
  raiseCode := raiseCode
  dying _ := ⟨List.prefix_rfl, le_refl _, fun _ => rfl⟩

end Onward

namespace Awake

variable {b b' : Bench}

instance : IsPreorder Bench Awake where
  refl _ := ⟨rfl, _, rfl⟩
  trans := by
    rintro a b c ⟨hchroot, ec, hrecord⟩ ⟨hchroot', ec', hrecord'⟩
    exact ⟨hchroot'.trans hchroot, ec', by rw [hrecord', hrecord]⟩

theorem dying (h : Awake b b') : b'.record.dying = b.record.dying := by
  obtain ⟨ec, hrecord⟩ := h.record
  rw [hrecord]

theorem keepGoing (h : Awake b b') : b'.record.keepGoing = b.record.keepGoing := by
  obtain ⟨ec, hrecord⟩ := h.record
  rw [hrecord]

/-- A look for a signal changes the exit code alone. -/
theorem look (b : Bench) : Awake b b.look := by
  obtain ⟨t, ht⟩ := b.look_eq
  rw [ht]
  refine ⟨rfl, ?_⟩
  cases b.machine.takeSignal.1 with
  | none => exact ⟨_, rfl⟩
  | some signal => exact ⟨_, Record.raiseCode_eq _ _⟩

/-- A scan that is not given up stays awake. -/
theorem stepKept : StepKept Awake fun _ => True where
  withTree _ _ := ⟨rfl, _, rfl⟩
  look := look
  start _ _ := ⟨rfl, _, rfl⟩
  forward _ _ _ := ⟨rfl, _, rfl⟩
  raise _ _ _ := ⟨rfl, _, rfl⟩
  caught _ _ _ := ⟨rfl, _, Record.raiseCode_eq _ _⟩

end Awake

namespace Low

instance : IsPreorder Bench Low where
  refl _ := ⟨id, fun _ => Iff.rfl⟩
  trans _ _ _ h h' := ⟨h'.heeding ∘ h.heeding,
    fun hb => (h'.ec (h.heeding hb)).trans (h.ec hb)⟩

/-- The code of a handled signal is below 192. -/
theorem caught (b : Bench) {signal : Int} (hsignal : signal ∈ Machine.handled) :
    Low b (b.caught signal) := by
  have hlt := (Machine.lt_of_mem_handled hsignal).2
  refine ⟨id, fun _ => ?_⟩
  rw [Bench.caught, Record.ec_raiseCode]
  omega

theorem look (b : Bench) : Low b b.look := by
  obtain ⟨t, ht⟩ := b.look_eq
  rw [ht]
  refine ⟨fun h => h.takeSignal.withTree t, fun h => ?_⟩
  rcases hsignal : b.machine.takeSignal.1 with _ | signal
  · rfl
  · exact (caught b (h.mem_of_takeSignal hsignal)).ec h

/-- With handled signals alone the code stays on its side of 192. -/
theorem stepKept : StepKept Low (· ∈ Machine.handled) where
  withTree _ t := ⟨fun h => h.withTree t, fun _ => Iff.rfl⟩
  look := look
  start _ _ := ⟨fun h => h.start _, fun _ => Iff.rfl⟩
  forward _ _ _ := ⟨fun h => h.forward _ _, fun _ => Iff.rfl⟩
  raise _ _ hsignal := ⟨fun h => h.raise hsignal, fun _ => Iff.rfl⟩
  caught b _ := caught b

end Low

/-! ## Children -/

/-- How the scan waits for a child. -/
inductive Manner
  /-- Its output goes into the log, and signals are passed on to it. -/
  | logged (echo : Bool)
  /-- Its output is kept, and signals stay pending. -/
  | captured
deriving DecidableEq, Repr

namespace Manner

open Scan

/-- The command is echoed before it is started. -/
def echoes : Manner → Bool
  | logged echo => echo
  | captured => false

/-- Waits for a child to end. -/
def attend : Manner → ChildRun → StateM Bench Ending
  | logged _, run => do
    logBytes run.out
    logBytes run.err
    let delivered ← passOnAll none run.arrivals
    log "\n"
    return run.ending delivered
  | captured, run => do
    modifyMachine fun m => run.arrivals.foldl Machine.raise m
    logBytes run.err
    return run.ending none

/-- What comes before the start of a command. -/
def approach (manner : Manner) (command : Shell.Command) : Scan Unit := do
  checkpoint
  if manner.echoes then print command.display

/-- Runs a command for its exit code. -/
def call (manner : Manner) (command : Shell.Command) : Scan Int := do
  manner.approach command
  match ← start command with
  | .error cause => logRefusal cause
  | .ok run =>
    let ending ← manner.attend run
    noteStatus ending.code
    return ending.code

end Manner

namespace StepKept

open Scan

variable {R : Bench → Bench → Prop} [IsPreorder Bench R] {S : Int → Prop}

omit [IsPreorder Bench R] in
/-- What elementary steps keep, writing into the log keeps. -/
theorem logBytes (h : StepKept R S) (bytes : ByteArray) : Moves R (logBytes bytes) := by
  intro b
  obtain ⟨t, ht⟩ := act_logBytes bytes b
  rw [ht]
  exact h.withTree b t

omit [IsPreorder Bench R] in
theorem logStamped (h : StepKept R S) (lead text : String) : Moves R (logStamped lead text) := by
  intro b
  obtain ⟨t, ht⟩ := act_logStamped lead text b
  rw [ht]
  exact h.withTree b t

omit [IsPreorder Bench R] in
theorem startCommand (h : StepKept R S) (command : Shell.Command) : Moves R (Scan.start command) :=
  fun b => h.start b command.program

/-- A signal that is passed on is caught, logged and handed to the child. -/
theorem passOn (h : StepKept R S) {signal : Int} (hsignal : S signal) :
    Moves R (passOn signal) := by
  have habsorb : Moves R (absorb signal) :=
    (h.logStamped _ _).bind fun _ b => h.caught b signal hsignal
  refine habsorb.bind fun _ => .bind (fun b => h.forward b signal childName) fun answer => ?_
  cases answer with
  | ok => exact .pure _
  | error => exact (h.logStamped _ _).bind fun _ => .pure _

/-- Signals are passed on one by one, so what holds across one holds across all. -/
theorem passOnAll (h : StepKept R S) (delivered : Option Int) {signals : List Int}
    (hsignals : ∀ signal ∈ signals, S signal) : Moves R (passOnAll delivered signals) := by
  induction signals generalizing delivered with
  | nil => exact .pure _
  | cons signal signals ih =>
    obtain ⟨hsignal, hrest⟩ := List.forall_mem_cons.1 hsignals
    exact (h.passOn hsignal).bind fun _ => ih _ hrest

/-- Signals that arrive one by one keep what each single one keeps. -/
theorem raiseAll (h : StepKept R S) {signals : List Int} (hsignals : ∀ signal ∈ signals, S signal)
    (b : Bench) : R b (b.withMachine (signals.foldl Machine.raise b.machine)) := by
  induction signals generalizing b with
  | nil => exact refl_of R b
  | cons signal signals ih =>
    obtain ⟨hsignal, hrest⟩ := List.forall_mem_cons.1 hsignals
    exact trans_of R (h.raise b signal hsignal) (ih hrest _)

/-- The relation holds across the time that a child runs. -/
theorem attend (h : StepKept R S) (manner : Manner) {run : ChildRun}
    (hrun : ∀ signal ∈ run.arrivals, S signal) : Moves R (manner.attend run) := by
  cases manner with
  | logged echo =>
    refine (h.logBytes _).bind fun _ => (h.logBytes _).bind fun _ => ?_
    exact (h.passOnAll _ hrun).bind fun _ => (h.logBytes _).bind fun _ => .pure _
  | captured =>
    refine .bind (h.raiseAll hrun) fun _ => (h.logBytes _).bind fun _ => .pure _

end StepKept

/-! ## Work that may be given up -/

namespace Scan

/-- Starting a command is what the machine makes of its program. -/
theorem act_start (command : Shell.Command) (b : Bench) :
    act (start command) b = ((b.machine.start command.program).1,
      b.withMachine (b.machine.start command.program).2) :=
  rfl

/-- A checkpoint starts nothing, whether or not it stops the scan. -/
theorem still_checkpoint : Keeps Still checkpoint := by
  intro b
  rcases hstops : b.look.record.stops
  · rw [eval_checkpoint_of_not_stops hstops]
    exact b.still_look
  · obtain ⟨b', hrun, -, -, hstill⟩ := eval_checkpoint_of_stops hstops
    rw [hrun]
    exact hstill

/-- A line of the log starts nothing. -/
theorem still_logStamped (lead text : String) : Moves Still (logStamped lead text) := by
  intro b
  obtain ⟨t, ht⟩ := act_logStamped lead text b
  rw [ht]
  exact .withTree b t

theorem still_raiseCode (ec : Int) : Moves Still (raiseCode ec) :=
  fun _ => ⟨rfl, ⟨_, _, Record.raiseCode_eq _ _⟩, ⟨_, _, _, rfl⟩⟩

/-- Recording an error starts nothing. -/
theorem still_error (text : String) (ec : Int) : Keeps Still (error text ec) := by
  refine .bind (.liftM (still_logStamped _ _)) fun _ => still_checkpoint.bind fun _ => ?_
  refine .bind (.liftM (still_raiseCode ec)) fun _ => .bind (.liftM fun b => ?_) fun r => ?_
  · exact Still.refl b
  · exact .ite (.throw _) (.pure _)

end Scan

namespace WorkKept

open Scan

variable {R : Bench → Bench → Prop} [IsPreorder Bench R]

/-- A fatal error is made of elementary steps. -/
theorem fatal (h : WorkKept R) (text : String) (ec : Int) : Moves R (fatal text ec) := by
  refine .bind (fun b => h.dying b) fun _ => (h.logStamped _ _).bind fun _ => .bind h.look fun _ => ?_
  exact .bind (fun b => h.raiseCode b ec) fun _ => .bind (fun b => refl_of R b) fun _ => .pure _

/-- A checkpoint is made of elementary steps, whether or not it stops the scan. -/
theorem checkpoint (h : WorkKept R) : Keeps R checkpoint := by
  refine .bind (.liftM h.look) fun _ => .bind (.liftM fun b => refl_of R b) fun _ => ?_
  exact .ite (.bind (.liftM (h.fatal _ _)) fun _ => .throw _) (.pure _)

theorem printLead (h : WorkKept R) (lead text : String) : Keeps R (printLead lead text) :=
  .bind (.liftM (h.logStamped lead text)) fun _ => h.checkpoint

/-- An error is made of elementary steps, also where it ends the scan. -/
theorem error (h : WorkKept R) (text : String) (ec : Int) : Keeps R (error text ec) := by
  refine .bind (.liftM (h.logStamped _ _)) fun _ => h.checkpoint.bind fun _ => ?_
  refine .bind (.liftM fun b => h.raiseCode b ec) fun _ => ?_
  exact .bind (.liftM fun b => refl_of R b) fun _ => .ite (.throw _) (.pure _)

theorem noteStatus (h : WorkKept R) (code : Int) : Keeps R (noteStatus code) :=
  .ite (.bind (.liftM fun b => h.raiseCode b code) fun _ => h.checkpoint) (.pure _)

end WorkKept

/-! ## The approach -/

namespace Bench

/-- The bench when a command that nothing keeps from starting is started. -/
def ready (b : Bench) (manner : Manner) (command : Shell.Command) : Bench :=
  if manner.echoes then
    (act (Scan.logStamped Scan.infoLead command.display) b.look).2.look
  else b.look

/-- An echo brings a second look, at what has arrived since the first. -/
theorem record_ready (b : Bench) (manner : Manner) (command : Shell.Command) :
    (b.ready manner command).record =
      if manner.echoes then
        (b.record.seen b.machine.takeSignal.1).seen b.machine.takeSignal.2.takeSignal.1
      else b.record.seen b.machine.takeSignal.1 := by
  unfold ready
  split
  · obtain ⟨t, ht⟩ := Scan.act_logStamped Scan.infoLead command.display b.look
    obtain ⟨t', ht'⟩ := b.look_eq
    rw [ht, record_look, takeSignal_withTree, record_withTree, ht']
    rfl
  · exact b.record_look

/-- Up to the start of its program, a command leaves the bench still. -/
theorem still_ready (b : Bench) (manner : Manner) (command : Shell.Command) :
    Still b (b.ready manner command) := by
  unfold ready
  split
  · obtain ⟨t, ht⟩ := Scan.act_logStamped Scan.infoLead command.display b.look
    rw [ht]
    exact b.still_look.trans ((Still.withTree _ t).trans (still_look _))
  · exact b.still_look

end Bench

/-- A relation that elementary steps keep holds across the approach of a command. -/
theorem StepKept.ready {R : Bench → Bench → Prop} [IsPreorder Bench R] {S : Int → Prop}
    (h : StepKept R S) (b : Bench) (manner : Manner) (command : Shell.Command) :
    R b (b.ready manner command) := by
  unfold Bench.ready
  split
  · exact trans_of R (h.look b) (trans_of R (h.logStamped _ _ b.look) (h.look _))
  · exact h.look b

namespace Manner

open Scan

variable (manner : Manner) (command : Shell.Command) {b : Bench}

/-- If no look stops the scan, the command is about to be started. -/
theorem eval_approach_of_not_stops (h : b.look.record.stops = false)
    (h' : (b.ready manner command).record.stops = false) :
    eval (manner.approach command) b = (.ok (), b.ready manner command) := by
  rw [approach, eval_bind_ok (eval_checkpoint_of_not_stops h)]
  by_cases hechoes : manner.echoes = true
  · rw [Bench.ready, if_pos hechoes] at h' ⊢
    rw [if_pos hechoes, print, printLead, eval_liftM_bind]
    exact eval_checkpoint_of_not_stops h'
  · rw [Bench.ready, if_neg hechoes, if_neg hechoes]
    rfl

/-- If a look stops the scan, nothing is started. -/
theorem eval_approach_of_stops
    (h : b.look.record.stops = true ∨ (b.ready manner command).record.stops = true) :
    ∃ b', eval (manner.approach command) b = (.error (.fatal b'.record.ec), b') ∧
      b.look.record.ec ≤ b'.record.ec ∧ Still b b' := by
  rcases hfirst : b.look.record.stops
  · have hsecond := h.resolve_left (by rw [hfirst]; exact Bool.false_ne_true)
    rw [Bench.ready] at hsecond
    by_cases hechoes : manner.echoes = true
    · -- the first look lets the command pass, and the one behind the echo stops it
      rw [if_pos hechoes] at hsecond
      obtain ⟨b', hrun, hle, -, hstill⟩ := eval_checkpoint_of_stops hsecond
      obtain ⟨t, ht⟩ := act_logStamped infoLead command.display b.look
      rw [ht] at hle hstill
      refine ⟨b', ?_, ?_, b.still_look.trans ((Still.withTree _ t).trans hstill)⟩
      · rw [approach, eval_bind_ok (eval_checkpoint_of_not_stops hfirst), if_pos hechoes, print,
          printLead, eval_liftM_bind]
        exact hrun
      · exact (Onward.look (b.look.withTree t)).ec.trans hle
    · rw [if_neg hechoes, hfirst] at hsecond
      cases hsecond
  · obtain ⟨b', hrun, hle, -, hstill⟩ := eval_checkpoint_of_stops hfirst
    exact ⟨b', by rw [approach, eval_bind_error hrun], hle, hstill⟩

/-- If a command is approached without an error, it is about to be started. -/
theorem eq_ready_of_eval_approach {b' : Bench}
    (h : eval (manner.approach command) b = (.ok (), b')) : b' = b.ready manner command := by
  by_cases hstops : b.look.record.stops = true ∨ (b.ready manner command).record.stops = true
  · obtain ⟨c, hrun, -, -⟩ := eval_approach_of_stops manner command hstops
    rw [hrun] at h
    cases h
  · obtain ⟨hfirst, hsecond⟩ := not_or.1 hstops
    rw [eval_approach_of_not_stops manner command (Bool.eq_false_of_not_eq_true hfirst)
      (Bool.eq_false_of_not_eq_true hsecond)] at h
    cases h
    rfl

/-! ## Whole calls -/

variable (b) in
/-- A call is its approach, the start, the time the child runs, and a last checkpoint if the child
has ended with a code above 128. -/
theorem eval_call :
    eval (manner.call command) b = match eval (manner.approach command) b with
      | (.error e, b') => (.error e, b')
      | (.ok (), b') => match act (start command) b' with
        | (.error cause, b'') => (.ok (refusalCode cause), (act (logRefusal cause) b'').2)
        | (.ok run, b'') =>
          let ended := act (manner.attend run) b''
          match eval (noteStatus ended.1.code) ended.2 with
          | (.error e, c) => (.error e, c)
          | (.ok (), c) => (.ok ended.1.code, c) := by
  -- the steps follow each other, so the outcomes are those of the first that fails
  rw [call, eval_bind]
  rcases eval (manner.approach command) b with ⟨e | ⟨⟩, b'⟩
  · rfl
  · dsimp only
    rw [eval_liftM_bind]
    rcases act (start command) b' with ⟨cause | run, b''⟩
    · rfl
    · dsimp only
      rw [eval_liftM_bind, eval_bind]
      rcases eval (noteStatus _) _ with ⟨e | ⟨⟩, c⟩
      · rfl
      · rfl

variable (b) in
/-- Running a command into the log is such a call. -/
theorem eval_execWith (echo : Bool) :
    eval (execWith echo command) b = eval ((logged echo).call command) b := by
  rw [execWith, call, approach, eval_bind, eval_bind, eval_bind]
  rcases eval checkpoint b with ⟨e | ⟨⟩, b'⟩
  · rfl
  · dsimp only [echoes]
    cases echo
    · rfl
    · simp only [if_true]
      rw [eval_bind]
      rcases eval (print command.display) b' with ⟨e | ⟨⟩, b''⟩
      · rfl
      · dsimp only
        rw [eval_liftM_bind, eval_liftM_bind]
        rcases act (start command) b'' with ⟨cause | run, c⟩
        · rfl
        · rfl

variable (b) in
/-- Asking for the output of a command is such a call, the output coming on top. -/
theorem eval_output : ∃ out, eval (output command) b =
    ((eval (captured.call command) b).1.map fun code => (code, out),
      (eval (captured.call command) b).2) := by
  have happroach : eval (captured.approach command) b = eval checkpoint b := by
    rw [approach, eval_bind]
    rcases eval checkpoint b with ⟨e | ⟨⟩, b'⟩
    · rfl
    · rfl
  -- nothing is echoed here, so both begin with one checkpoint
  rw [eval_call, happroach, output, eval_bind]
  rcases eval checkpoint b with ⟨e | ⟨⟩, b'⟩
  · exact ⟨"", rfl⟩
  · dsimp only
    rw [eval_liftM_bind]
    rcases act (start command) b' with ⟨cause | run, b''⟩
    · exact ⟨"", rfl⟩
    · refine ⟨Text.decodeLossy run.out, ?_⟩
      have hended : act (captured.attend run) b'' = (run.ending none, (act (logBytes run.err)
          (act (modifyMachine fun m => run.arrivals.foldl Machine.raise m) b'').2).2) := rfl
      dsimp only
      rw [hended, eval_liftM_bind, eval_liftM_bind, eval_bind]
      dsimp only
      rcases eval (noteStatus (run.ending none).code) _ with ⟨e | ⟨⟩, c⟩
      · rfl
      · rfl

end Manner

namespace WorkKept

open Scan

variable {R : Bench → Bench → Prop} [IsPreorder Bench R]

/-- What elementary steps keep, a command keeps, however far it gets. -/
theorem call (h : WorkKept R) (manner : Manner) (command : Shell.Command) :
    Keeps R (manner.call command) := by
  have happroach : Keeps R (manner.approach command) :=
    h.checkpoint.bind fun _ => .ite (h.printLead _ _) (.pure _)
  refine happroach.bind fun _ => .bind (.liftM (h.startCommand command)) ?_
  rintro (cause | run)
  · exact .liftM ((h.logBytes _).bind fun _ => .pure _)
  · refine .bind (.liftM (h.attend manner fun _ _ => trivial)) fun _ => ?_
    exact (h.noteStatus _).bind fun _ => .pure _

/-- What elementary steps keep, a command whose output is logged keeps. -/
theorem execWith (h : WorkKept R) (echo : Bool) (command : Shell.Command) :
    Keeps R (execWith echo command) := by
  intro b
  rw [Manner.eval_execWith]
  exact h.call _ _ b

/-- What elementary steps keep, a command whose output is captured keeps. -/
theorem output (h : WorkKept R) (command : Shell.Command) : Keeps R (output command) := by
  intro b
  obtain ⟨out, hout⟩ := Manner.eval_output command b
  rw [hout]
  exact h.call _ _ b

end WorkKept

namespace Manner

open Scan

variable {manner : Manner} {command : Shell.Command} {b : Bench}

/-- A call that a look stops starts nothing. -/
theorem calls_call_of_stops
    (h : b.look.record.stops = true ∨ (b.ready manner command).record.stops = true) :
    (eval (manner.call command) b).2.machine.calls = b.machine.calls := by
  obtain ⟨b', hrun, -, hstill⟩ := eval_approach_of_stops manner command h
  rw [eval_call, hrun]
  exact hstill.calls

/-- A program that is refused is not on record. -/
theorem calls_call_of_refused (h : b.look.record.stops = false)
    (h' : (b.ready manner command).record.stops = false) {cause : SystemError}
    (hstart : ((b.ready manner command).machine.start command.program).1 = .error cause) :
    (eval (manner.call command) b).2.machine.calls = b.machine.calls := by
  have hcalls := (b.ready manner command).machine.start_calls command.program
  rw [hstart, List.append_nil, (b.still_ready manner command).calls] at hcalls
  rw [eval_call, eval_approach_of_not_stops manner command h h']
  dsimp only
  rw [act_start, hstart]
  obtain ⟨t, ht⟩ := act_logBytes (Text.encode (cause.message ++ "\n"))
    ((b.ready manner command).withMachine
      ((b.ready manner command).machine.start command.program).2)
  have hlog : (act (logRefusal cause) ((b.ready manner command).withMachine
      ((b.ready manner command).machine.start command.program).2)).2 =
      (act (logBytes (Text.encode (cause.message ++ "\n"))) ((b.ready manner command).withMachine
        ((b.ready manner command).machine.start command.program).2)).2 := rfl
  rw [hlog, ht]
  exact hcalls

/-- A program that starts is on record, right behind those before. -/
theorem calls_call_of_started (h : b.look.record.stops = false)
    (h' : (b.ready manner command).record.stops = false) {run : ChildRun}
    (hstart : ((b.ready manner command).machine.start command.program).1 = .ok run) :
    ∃ rest, (eval (manner.call command) b).2.machine.calls =
      b.machine.calls ++ ⟨run.location, command.program⟩ :: rest := by
  set started := (b.ready manner command).withMachine
    ((b.ready manner command).machine.start command.program).2 with hstarted
  have hcalls : started.machine.calls = b.machine.calls ++ [⟨run.location, command.program⟩] := by
    have := (b.ready manner command).machine.start_calls command.program
    rwa [hstart, (b.still_ready manner command).calls] at this
  -- whatever comes after the start leaves the calls on record there
  have honward : Onward started (eval (manner.call command) b).2 := by
    have hattend : Onward started (act (manner.attend run) started).2 :=
      Onward.stepKept.attend manner (fun _ _ => trivial) started
    have hnote := Onward.workKept.noteStatus (act (manner.attend run) started).1.code
      (act (manner.attend run) started).2
    rw [eval_call, eval_approach_of_not_stops manner command h h']
    dsimp only
    rw [act_start, hstart, ← hstarted]
    dsimp only
    rcases heval : eval (noteStatus (act (manner.attend run) started).1.code)
      (act (manner.attend run) started).2 with ⟨e | ⟨⟩, c⟩
    · rw [heval] at hnote
      exact trans_of Onward hattend hnote
    · rw [heval] at hnote
      exact trans_of Onward hattend hnote
  obtain ⟨rest, hrest⟩ := honward.calls
  refine ⟨rest, ?_⟩
  rw [← hrest, hcalls, List.append_assoc, List.singleton_append]

/-- A command is on record behind the calls before it exactly if no look stops the scan on the way
and the system does not refuse it. -/
theorem spawned_iff :
    (∃ location rest, (eval (manner.call command) b).2.machine.calls =
      b.machine.calls ++ ⟨location, command.program⟩ :: rest) ↔
    b.look.record.stops = false ∧ (b.ready manner command).record.stops = false ∧
      ((b.ready manner command).machine.start command.program).1.isOk = true := by
  -- in two of the three cases the calls on record are those from before
  have hnone (h : (eval (manner.call command) b).2.machine.calls = b.machine.calls) :
      ¬ ∃ location rest, (eval (manner.call command) b).2.machine.calls =
        b.machine.calls ++ ⟨location, command.program⟩ :: rest := by
    rintro ⟨location, rest, hrest⟩
    rw [h] at hrest
    exact List.cons_ne_nil _ _ (List.self_eq_append_right.1 hrest)
  by_cases hstops : b.look.record.stops = true ∨ (b.ready manner command).record.stops = true
  · refine iff_of_false (hnone (calls_call_of_stops hstops)) ?_
    rintro ⟨h, h', -⟩
    rw [h, h'] at hstops
    rcases hstops with hstops | hstops
    · cases hstops
    · cases hstops
  obtain ⟨hfirst, hsecond⟩ := not_or.1 hstops
  have h := Bool.eq_false_of_not_eq_true hfirst
  have h' := Bool.eq_false_of_not_eq_true hsecond
  rcases hstart : ((b.ready manner command).machine.start command.program).1 with cause | run
  · refine iff_of_false (hnone (calls_call_of_refused h h' hstart)) ?_
    rintro ⟨-, -, hok⟩
    cases hok
  · obtain ⟨rest, hrest⟩ := calls_call_of_started h h' hstart
    exact iff_of_true ⟨_, rest, hrest⟩ ⟨h, h', rfl⟩

end Manner

end ChrootScan
