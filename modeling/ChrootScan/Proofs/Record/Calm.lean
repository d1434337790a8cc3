import ChrootScan.Proofs.Record.Aborting

/-!
# Calm machines

On a calm machine no signal is pending or arrives, and every program exits by itself, with a code
that is not one for a signal. Looks then see nothing, so a command is stopped by nothing but a code
that is on record already; and it is its own exit code alone that comes on record, if that is 192
or above.
-/

namespace ChrootScan

open Effect

/-- No signal is pending or comes, neither for the scan nor for a program, and programs exit with
codes of `S`. -/
structure Machine.Calm (m : Machine) (S : Int → Prop) : Prop where
  pending : m.pending = 0
  arrivals : ∀ n, m.arrivals n = none
  awaited : m.awaited = []
  children : ∀ n t vars argv run, m.behaviour n t vars argv = .started run →
    run.arrivals = [] ∧ ∃ code, S code ∧ run.ending none = .exited code

/-- An exit code that nobody can take for that of a signal. -/
def IsOrdinary (code : Int) : Prop :=
  code ≤ 128 ∨ 192 ≤ code

namespace Machine.Calm

variable {m : Machine} {S : Int → Prop}

theorem withTree (h : m.Calm S) (t : FileTree) : { m with tree := t }.Calm S :=
  ⟨h.pending, h.arrivals, h.awaited, h.children⟩

/-- There is nothing to see. -/
theorem takeSignal_fst_eq_none (h : m.Calm S) : m.takeSignal.1 = none := by
  rw [Machine.takeSignal_fst, h.arrivals, Option.getD_none, if_pos h.pending]

theorem takeSignal (h : m.Calm S) : m.takeSignal.2.Calm S :=
  ⟨rfl, h.arrivals, h.awaited, h.children⟩

/-- A program is refused, or nothing disturbs it and it exits with a code of `S`. -/
theorem start (h : m.Calm S) (argv : List String) :
    (m.start argv).2.Calm S ∧ (m.start argv).2.starts = m.starts + 1 ∧
      ((∃ cause, (m.start argv).1 = .error cause) ∨
        ∃ run code, (m.start argv).1 = .ok run ∧ run.arrivals = [] ∧ S code ∧
          run.ending none = .exited code) := by
  obtain ⟨cause, -, hstart⟩ | ⟨run, t, hbehaviour, hstart⟩ := m.start_cases argv
  · rw [hstart]
    exact ⟨⟨h.pending, h.arrivals, h.awaited, h.children⟩, rfl, .inl ⟨cause, rfl⟩⟩
  · obtain ⟨harrivals, code, hcode, hending⟩ := h.children _ _ _ _ _ hbehaviour
    rw [hstart]
    refine ⟨⟨h.pending, h.arrivals, ?_, h.children⟩, rfl, .inr ⟨_, code, rfl, ?_, hcode, hending⟩⟩
    · dsimp only
      rw [h.awaited, ite_self]
    · dsimp only
      rw [harrivals, h.awaited, ite_self, List.append_nil]

end Machine.Calm

namespace Record

/-- The record once a program has exited with a code that is not one for a signal. -/
def noted (r : Record) (code : Int) : Record :=
  if 128 < code then r.raiseCode code else r

/-- An ordinary code does not stop a scan that goes on. -/
theorem stops_noted {r : Record} (hr : r.stops = false) {code : Int} (hcode : IsOrdinary code) :
    (r.noted code).stops = false := by
  unfold noted
  split
  · next habove =>
    have hhigh : 192 ≤ code := hcode.resolve_left (not_le.2 habove)
    have hle : 192 ≤ (r.raiseCode code).ec := by
      rw [ec_raiseCode]
      exact hhigh.trans (le_max_right _ _)
    exact stops_eq_false_iff.2 (.inr (.inr hle))
  · exact hr

end Record

namespace Bench

variable {b : Bench} {S : Int → Prop}

/-- A look at a calm machine changes nothing that matters. -/
theorem look_of_calm (h : b.machine.Calm S) :
    b.look.record = b.record ∧ b.look.machine.Calm S ∧
      b.look.machine.starts = b.machine.starts := by
  refine ⟨?_, ?_, b.still_look.starts⟩
  · rw [record_look, h.takeSignal_fst_eq_none, Record.seen_none]
  · obtain ⟨t, ht⟩ := b.look_eq
    rw [ht]
    exact h.takeSignal.withTree t

end Bench

namespace Scan

variable {b : Bench} {S : Int → Prop}

theorem eval_checkpoint_of_calm (h : b.machine.Calm S) (hstops : b.record.stops = false) :
    eval checkpoint b = (.ok (), b.look) := by
  refine eval_checkpoint_of_not_stops ?_
  rw [(Bench.look_of_calm h).1]
  exact hstops

/-- Nothing but the files differs when a calm child has ended. -/
theorem act_attend_of_calm (echo : Bool) {run : ChildRun} (harrivals : run.arrivals = [])
    (b : Bench) :
    ∃ t, act ((Manner.logged echo).attend run) b = (run.ending none, b.withTree t) := by
  obtain ⟨tout, hout⟩ := act_logBytes run.out b
  obtain ⟨terr, herr⟩ := act_logBytes run.err (b.withTree tout)
  obtain ⟨t, hline⟩ := act_log "\n" ((b.withTree tout).withTree terr)
  refine ⟨t, ?_⟩
  simp only [Manner.attend, act_bind, hout, herr, harrivals, passOnAll, act_pure, hline]
  rfl

/-- Taking account of an exit code that is not one for a signal stops nothing. -/
theorem eval_noteStatus_of_calm (h : b.machine.Calm S) (hstops : b.record.stops = false)
    {code : Int} (hcode : IsOrdinary code) :
    ∃ b', eval (noteStatus code) b = (.ok (), b') ∧ b'.record = b.record.noted code ∧
      b'.machine.Calm S ∧ b'.machine.starts = b.machine.starts := by
  have hnoted := Record.stops_noted hstops hcode
  rw [noteStatus]
  unfold Record.noted at hnoted ⊢
  by_cases habove : 128 < code
  · rw [if_pos habove] at hnoted
    set raised : Bench := { b with record := b.record.raiseCode code } with hraised
    have hcheck : eval checkpoint raised = (.ok (), raised.look) :=
      eval_checkpoint_of_calm (b := raised) h hnoted
    obtain ⟨hrecord, hcalm, hstarts⟩ := Bench.look_of_calm (b := raised) h
    rw [if_pos habove, if_pos habove]
    exact ⟨raised.look, hcheck, hrecord, hcalm, hstarts⟩
  · rw [if_neg habove, if_neg habove]
    exact ⟨b, rfl, rfl, h, rfl⟩

theorem refusalCode_eq (cause : SystemError) :
    refusalCode cause = 126 ∨ refusalCode cause = 127 := by
  cases cause with
  | notFound => exact .inr rfl
  | _ => exact .inl rfl

/-- A command is approached without anything in its way. -/
theorem eval_approach_of_calm (h : b.machine.Calm S) (hstops : b.record.stops = false)
    (command : Shell.Command) :
    ∃ ready, eval ((Manner.logged true).approach command) b = (.ok (), ready) ∧
      ready.record = b.record ∧ ready.machine.Calm S ∧
      ready.machine.starts = b.machine.starts := by
  obtain ⟨hrecord, hlook, -⟩ := Bench.look_of_calm h
  -- the echo is logged between two looks, and neither of them sees anything
  obtain ⟨t, ht⟩ := act_logStamped infoLead command.display b.look
  have hready : b.ready (.logged true) command = (b.look.withTree t).look := by
    rw [Bench.ready, Manner.echoes, if_pos rfl, ht]
  obtain ⟨hrecord', hcalm, -⟩ := Bench.look_of_calm (b := b.look.withTree t) (hlook.withTree t)
  rw [← hready] at hrecord' hcalm
  have hsame : (b.ready (.logged true) command).record = b.record := hrecord'.trans hrecord
  refine ⟨_, Manner.eval_approach_of_not_stops _ _ ?_ ?_, hsame, hcalm, (b.still_ready _ _).starts⟩
  · rw [hrecord]
    exact hstops
  · rw [hsame]
    exact hstops

/-- A calm machine starts a program that no signal arrives at, or refuses to; it stays calm. -/
theorem act_start_of_calm (h : b.machine.Calm S) (command : Shell.Command) :
    ∃ started, started.record = b.record ∧ started.machine.Calm S ∧
      started.machine.starts = b.machine.starts + 1 ∧
      ((∃ cause, act (start command) b = (.error cause, started)) ∨
        ∃ run code, act (start command) b = (.ok run, started) ∧ run.arrivals = [] ∧ S code ∧
          run.ending none = .exited code) := by
  obtain ⟨hcalm, hstarts, hcases⟩ := h.start command.program
  refine ⟨b.withMachine (b.machine.start command.program).2, rfl, hcalm, hstarts, ?_⟩
  rw [act_start]
  rcases hcases with ⟨cause, hstart⟩ | ⟨run, code, hstart, hrun⟩
  · rw [hstart]
    exact .inl ⟨cause, rfl⟩
  · rw [hstart]
    exact .inr ⟨run, code, rfl, hrun⟩

/-- A command runs to its end on a calm machine: it starts one program, or is refused one, and its
exit code is taken account of. -/
theorem eval_exec_of_calm (h : b.machine.Calm S) (hS : ∀ code, S code → IsOrdinary code)
    (hstops : b.record.stops = false) (command : Shell.Command) :
    ∃ code b', eval (exec command) b = (.ok code, b') ∧ (S code ∨ code = 126 ∨ code = 127) ∧
      b'.record = b.record.noted code ∧ b'.machine.Calm S ∧
      b'.machine.starts = b.machine.starts + 1 := by
  obtain ⟨ready, happroach, hready, hcalm, hcount⟩ := eval_approach_of_calm h hstops command
  obtain ⟨started, hstarted, hcalm', hcount', hcases⟩ := act_start_of_calm hcalm command
  rw [hready] at hstarted
  rw [hcount] at hcount'
  rw [exec, Manner.eval_execWith, Manner.eval_call, happroach]
  rcases hcases with ⟨cause, hstart⟩ | ⟨run, code, hstart, harrivals, hcode, hending⟩
  · -- a program that does not start is refused with one of two codes, which are no signals
    obtain ⟨t, ht⟩ := act_log (cause.message ++ "\n") started
    have hrefusal : act (logRefusal cause) started = (refusalCode cause, started.withTree t) := by
      rw [logRefusal, act_bind, ht]
      rfl
    have hcode := refusalCode_eq cause
    have hlow : ¬ 128 < refusalCode cause := by omega
    dsimp only
    rw [hstart]
    dsimp only
    rw [hrefusal]
    refine ⟨_, _, rfl, .inr hcode, ?_, hcalm'.withTree t, hcount'⟩
    rw [Record.noted, if_neg hlow]
    exact hstarted
  · -- one that starts ends with an ordinary code, since no signal arrives meanwhile
    obtain ⟨t, hattend⟩ := act_attend_of_calm true harrivals started
    have hended : (started.withTree t).record.stops = false := by
      rw [Bench.record_withTree, hstarted]
      exact hstops
    obtain ⟨b', hnote, hnoted, hcalm'', hcount''⟩ :=
      eval_noteStatus_of_calm (b := started.withTree t) (hcalm'.withTree t) hended (hS code hcode)
    dsimp only
    rw [hstart]
    dsimp only
    rw [hattend, hending]
    dsimp only [Ending.code]
    rw [hnote]
    refine ⟨code, b', rfl, .inl hcode, ?_, hcalm'', hcount''.trans hcount'⟩
    rw [hnoted, Bench.record_withTree, hstarted]

/-- An error without a code of its own changes no record that has a code. It stops nothing as long
as there is none. -/
theorem eval_error_of_calm (h : b.machine.Calm S) (hstops : b.record.stops = false)
    (hec : 0 ≤ b.record.ec) (text : String) :
    ∃ result b', eval (error text 0) b = (result, b') ∧ b'.record = b.record ∧
      b'.machine.Calm S ∧ b'.machine.starts = b.machine.starts ∧
      (b.record.ec = 0 → result = .ok ()) := by
  obtain ⟨t, ht⟩ := eval_error text 0 b
  have hcheck : eval checkpoint (b.withTree t) = (.ok (), (b.withTree t).look) :=
    eval_checkpoint_of_calm (h.withTree t) hstops
  obtain ⟨hrecord, hcalm, hstarts⟩ := Bench.look_of_calm (b := b.withTree t) (h.withTree t)
  have hraise : (b.withTree t).look.record.raiseCode 0 = b.record := by
    rw [hrecord, Bench.record_withTree, Record.raiseCode, if_neg (not_lt.2 hec)]
  rw [ht, hcheck]
  dsimp only
  rw [hraise]
  by_cases hfail : (!b.record.dying && !b.record.keepGoing && decide (b.record.ec ≠ 0)) = true
  · rw [if_pos hfail]
    refine ⟨_, _, rfl, rfl, hcalm, hstarts, fun hzero => ?_⟩
    simp only [Bool.and_eq_true, decide_eq_true_eq] at hfail
    exact absurd hzero hfail.2
  · rw [if_neg hfail]
    exact ⟨_, _, rfl, rfl, hcalm, hstarts, fun _ => rfl⟩

end Scan

end ChrootScan
