import ChrootScan.Proofs.Record.Commands

/-!
# How far a command comes

A command is started unless a look stops the scan on the way or the system refuses the program
(`Manner.spawns`), and it comes to its end unless a look stops the scan, be it on the way or behind a
child that has ended with a code above 128 (`Manner.passes`). Besides the program itself it starts
nothing but the programs that pass signals on (`startsOnly_call`).
-/

namespace ChrootScan

open Effect

/-! ## What is started -/

/-- Between two benches no programs were started but with words that `P` holds of. -/
def StartsOnly (P : List String → Prop) (b b' : Bench) : Prop :=
  ∃ new, b'.machine.calls = b.machine.calls ++ new ∧ ∀ call ∈ new, P call.argv

instance (P : List String → Prop) : IsPreorder Bench (StartsOnly P) where
  refl _ := ⟨[], (List.append_nil _).symm, List.forall_mem_nil _⟩
  trans := by
    rintro a b c ⟨new, hcalls, hnew⟩ ⟨new', hcalls', hnew'⟩
    refine ⟨new ++ new', ?_, List.forall_mem_append.2 ⟨hnew, hnew'⟩⟩
    rw [hcalls', hcalls, List.append_assoc]

theorem Still.startsOnly {b b' : Bench} (h : Still b b') (P : List String → Prop) :
    StartsOnly P b b' :=
  ⟨[], h.calls.trans (List.append_nil _).symm, List.forall_mem_nil _⟩

/-- The words of the program that passes a signal on. -/
def IsKill (argv : List String) : Prop :=
  ∃ signal process, argv = ["kill", "-s", signal, process]

namespace Scan

/-- Logging a line starts nothing. -/
theorem still_printLead (lead text : String) : Keeps Still (printLead lead text) :=
  .bind (.liftM (still_logStamped lead text)) fun _ => still_checkpoint

/-- Taking account of an exit code starts nothing. -/
theorem still_noteStatus (code : Int) : Keeps Still (noteStatus code) :=
  .ite (.bind (.liftM (still_raiseCode code)) fun _ => still_checkpoint) (.pure _)

variable {P : List String → Prop}

theorem startsOnly_logBytes (bytes : ByteArray) : Moves (StartsOnly P) (logBytes bytes) := by
  intro b
  obtain ⟨t, ht⟩ := act_logBytes bytes b
  rw [ht]
  exact (Still.withTree b t).startsOnly P

/-- A program that the machine starts is the only one on record, if it is. -/
theorem startsOnly_machineStart {argv : List String} (hargv : P argv) (b : Bench) :
    StartsOnly P b (b.withMachine (b.machine.start argv).2) := by
  refine ⟨_, b.machine.start_calls argv, ?_⟩
  rcases (b.machine.start argv).1 with cause | run
  · exact List.forall_mem_nil _
  · exact List.forall_mem_singleton.2 hargv

/-- Passing a signal on starts a program that does nothing else. -/
theorem startsOnly_forward (hkill : ∀ argv, IsKill argv → P argv) (signal : Int)
    (process : String) :
    Moves (StartsOnly P) (onMachine fun m => m.forward signal process) := by
  intro b
  obtain ⟨out, hrun⟩ := b.machine.runInherited_eq ["kill", "-s", toString signal, process]
  obtain ⟨new, hcalls, hnew⟩ := startsOnly_machineStart (hkill _ ⟨_, _, rfl⟩) b
  refine ⟨new, ?_, hnew⟩
  rw [← hcalls]
  show (b.machine.forward signal process).2.calls = _
  rw [Machine.forward_snd, hrun]
  rfl

/-- Passing signals on starts nothing else. -/
theorem startsOnly_passOnAll (hkill : ∀ argv, IsKill argv → P argv) (delivered : Option Int)
    (signals : List Int) : Moves (StartsOnly P) (passOnAll delivered signals) := by
  have hstamped (lead text : String) : Moves (StartsOnly P) (logStamped lead text) :=
    fun b => (still_logStamped lead text b).startsOnly P
  induction signals generalizing delivered with
  | nil => exact .pure _
  | cons signal signals ih =>
    have habsorb : Moves (StartsOnly P) (absorb signal) :=
      (hstamped _ _).bind fun _ b => (still_raiseCode _ b).startsOnly P
    refine .bind ?_ fun _ => ih _
    refine habsorb.bind fun _ => (startsOnly_forward hkill _ _).bind fun answer => ?_
    cases answer with
    | ok => exact .pure _
    | error => exact (hstamped _ _).bind fun _ => .pure _

end Scan

namespace Manner

open Scan

variable {P : List String → Prop} (manner : Manner) (command : Shell.Command)

/-- Attending to a child starts nothing but programs that pass signals on. -/
theorem startsOnly_attend (hkill : ∀ argv, IsKill argv → P argv) (run : ChildRun) :
    Moves (StartsOnly P) (manner.attend run) := by
  cases manner with
  | logged echo =>
    refine (startsOnly_logBytes _).bind fun _ => (startsOnly_logBytes _).bind fun _ => ?_
    refine (startsOnly_passOnAll hkill _ _).bind fun _ => ?_
    exact (startsOnly_logBytes _).bind fun _ => .pure _
  | captured =>
    -- signals that stay pending start nothing
    have hraise (signals : List Int) (m : Machine) :
        (signals.foldl Machine.raise m).calls = m.calls := by
      induction signals generalizing m with
      | nil => rfl
      | cons signal signals ih => exact ih (m.raise signal)
    refine .bind (fun b => ?_) fun _ => (startsOnly_logBytes _).bind fun _ => .pure _
    exact ⟨[], (hraise _ _).trans (List.append_nil _).symm, List.forall_mem_nil _⟩

/-- A command starts its program, and those that pass signals on to it. -/
theorem startsOnly_call (hkill : ∀ argv, IsKill argv → P argv) (hprogram : P command.program) :
    Keeps (StartsOnly P) (manner.call command) := by
  have hstill {α : Type} {x : Scan α} (hx : Keeps Still x) : Keeps (StartsOnly P) x :=
    fun b => (hx b).startsOnly P
  have happroach : Keeps Still (manner.approach command) :=
    still_checkpoint.bind fun _ => .ite (still_printLead _ _) (.pure _)
  refine (hstill happroach).bind fun _ => ?_
  refine .bind (.liftM fun b => startsOnly_machineStart hprogram b) fun answer => ?_
  rcases answer with cause | run
  · exact .liftM ((startsOnly_logBytes _).bind fun _ => .pure _)
  · refine .bind (.liftM (manner.startsOnly_attend hkill run)) fun _ => ?_
    exact (hstill (still_noteStatus _)).bind fun _ => .pure _

/-! ## What is in the way -/

/-- A command is started: no look stops the scan on the way, and the system does not refuse the
program. -/
def spawns (b : Bench) : Bool :=
  !b.look.record.stops && !(b.ready manner command).record.stops &&
    ((b.ready manner command).machine.start command.program).1.isOk

/-- A command comes to its end: no look stops the scan on the way, and none does behind the child,
which only looks if the child has ended with a code above 128. -/
def passes (b : Bench) : Bool :=
  !b.look.record.stops && !(b.ready manner command).record.stops &&
    match (b.ready manner command).machine.start command.program with
    | (.error _, _) => true
    | (.ok run, m) =>
      let (ending, ended) := act (manner.attend run) ((b.ready manner command).withMachine m)
      decide (ending.code ≤ 128) ||
        !((ended.record.raiseCode ending.code).seen ended.machine.takeSignal.1).stops

variable {b : Bench}

variable (b) in
/-- A command that is started is on record, and otherwise nothing is. -/
theorem calls_call :
    (manner.spawns command b = true ∧ ∃ location rest,
      (eval (manner.call command) b).2.machine.calls =
        b.machine.calls ++ ⟨location, command.program⟩ :: rest) ∨
    (manner.spawns command b = false ∧
      (eval (manner.call command) b).2.machine.calls = b.machine.calls) := by
  unfold spawns
  rcases hfirst : b.look.record.stops
  · rcases hsecond : (b.ready manner command).record.stops
    · rcases hstart : ((b.ready manner command).machine.start command.program).1 with cause | run
      · exact .inr ⟨rfl, calls_call_of_refused hfirst hsecond hstart⟩
      · obtain ⟨rest, hrest⟩ := calls_call_of_started hfirst hsecond hstart
        exact .inl ⟨rfl, _, rest, hrest⟩
    · exact .inr ⟨rfl, calls_call_of_stops (.inr hsecond)⟩
  · exact .inr ⟨rfl, calls_call_of_stops (.inl hfirst)⟩

/-- Taking account of an exit code fails exactly if it looks and the look stops the scan. -/
theorem isOk_noteStatus (code : Int) :
    (eval (noteStatus code) b).1.isOk = (decide (code ≤ 128) ||
      !((b.record.raiseCode code).seen b.machine.takeSignal.1).stops) := by
  rw [noteStatus]
  by_cases habove : 128 < code
  · set raised : Bench := { b with record := b.record.raiseCode code } with hraised
    have hrun : eval (do raiseCode code; checkpoint : Scan Unit) b = eval checkpoint raised := rfl
    have hlook : raised.look.record =
        (b.record.raiseCode code).seen b.machine.takeSignal.1 := raised.record_look
    rw [if_pos habove, hrun, ← hlook, decide_eq_false (not_le.2 habove), Bool.false_or]
    rcases hstops : raised.look.record.stops
    · rw [eval_checkpoint_of_not_stops hstops]
      rfl
    · obtain ⟨b', hfail, -, -, -⟩ := eval_checkpoint_of_stops hstops
      rw [hfail]
      rfl
  · rw [if_neg habove, decide_eq_true (not_lt.1 habove), Bool.true_or]
    rfl

variable {manner command} in
/-- A command is given up exactly if a look stops the scan. -/
theorem isOk_call : (eval (manner.call command) b).1.isOk = manner.passes command b := by
  unfold passes
  -- one of the two looks on the way stops the scan, or the command is started
  by_cases hstops : b.look.record.stops = true ∨ (b.ready manner command).record.stops = true
  · obtain ⟨b', hrun, -, -⟩ := eval_approach_of_stops manner command hstops
    rw [eval_call, hrun]
    rcases hstops with hstops | hstops
    · rw [hstops, Bool.not_true, Bool.false_and, Bool.false_and]
      rfl
    · rw [hstops, Bool.not_true, Bool.and_false, Bool.false_and]
      rfl
  · obtain ⟨hfirst, hsecond⟩ := not_or.1 hstops
    rw [Bool.not_eq_true] at hfirst hsecond
    rw [eval_call, eval_approach_of_not_stops manner command hfirst hsecond, hfirst, hsecond]
    dsimp only
    rw [act_start, Bool.not_false, Bool.and_self, Bool.true_and]
    rcases (b.ready manner command).machine.start command.program with ⟨cause | run, m⟩
    · rfl
    · -- all that is left to fail is the look behind the child
      dsimp only
      rw [← isOk_noteStatus]
      rcases eval (noteStatus _) _ with ⟨e | ⟨⟩, c⟩
      · rfl
      · rfl

end Manner

end ChrootScan
