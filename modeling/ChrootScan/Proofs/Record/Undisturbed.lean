import ChrootScan.Proofs.Record.Calm
import ChrootScan.Proofs.Record.Ledger
import ChrootScan.Proofs.Record.Metadata

/-!
# Scans that no signal disturbs

An operation is undisturbed if it catches no signal and brings no code on record that could be taken
for that of one: neither does its child exit with such a code, nor is it an error with such a code.
From new results on, a run of undisturbed operations never comes into the range of codes that stops
a scan at a look (`Record.Ordinary`). So nothing is left to stop it but an error, and that only if
errors stop the scan at all and a code is on record by then.
-/

namespace ChrootScan

open Effect

/-! ## Operations that nothing disturbs -/

instance (code : Int) : Decidable (IsOrdinary code) :=
  inferInstanceAs (Decidable (_ ∨ _))

/-- An entry is that of a signal that was caught. -/
def Entry.IsCaught : Entry → Prop
  | caught _ => True
  | _ => False

instance : DecidablePred Entry.IsCaught
  | .caught _ => isTrue trivial
  | .failed _ | .stopped _ | .ended _ => isFalse id

/-- A program exits by itself, with a code that is not one for a signal. -/
def Ending.IsCalm : Ending → Prop
  | exited code => IsOrdinary code
  | killed _ => False

instance : DecidablePred Ending.IsCalm
  | .exited code => inferInstanceAs (Decidable (IsOrdinary code))
  | .killed _ => isFalse id

namespace Operation

/-- The code that an operation itself brings on record. -/
def ownCode? : Operation → Option Int
  | error _ ec => some ec
  | _ => none

/-- An operation catches no signal, and no code that could be that of a signal comes on record: its
child, if it starts one, exits by itself, and neither its exit code nor that of an error is one. -/
structure Undisturbed (op : Operation) (b : Bench) : Prop where
  caught : ∀ entry ∈ op.entries b, ¬ entry.IsCaught
  child : ∀ ended ∈ op.childEnd? b, ended.1.IsCalm
  recorded : ∀ ec ∈ op.ownCode?, IsOrdinary ec

instance (op : Operation) (b : Bench) : Decidable (op.Undisturbed b) :=
  decidable_of_iff ((∀ entry ∈ op.entries b, ¬ entry.IsCaught) ∧
      (∀ ended ∈ op.childEnd? b, ended.1.IsCalm) ∧ ∀ ec ∈ op.ownCode?, IsOrdinary ec)
    ⟨fun ⟨hcaught, hchild, hrecorded⟩ => ⟨hcaught, hchild, hrecorded⟩,
      fun h => ⟨h.caught, h.child, h.recorded⟩⟩

/-- The bench after operations; those that fail do not keep the next ones from being called. -/
def after (ops : List Operation) (b : Bench) : Bench :=
  Action.after (ops.map .operate) b

/-- Operations are undisturbed, one after the other. -/
def AllUndisturbed : List Operation → Bench → Prop
  | [], _ => True
  | op :: rest, b => op.Undisturbed b ∧ AllUndisturbed rest (eval op.run b).2

instance decidableAllUndisturbed : (ops : List Operation) → (b : Bench) →
    Decidable (AllUndisturbed ops b)
  | [], _ => isTrue trivial
  | op :: rest, b =>
    have := decidableAllUndisturbed rest (eval op.run b).2
    inferInstanceAs (Decidable (op.Undisturbed b ∧ AllUndisturbed rest (eval op.run b).2))

/-- How an undisturbed operation ends. -/
def verdict (r : Record) : Operation → Except ScanError Unit
  | error _ ec =>
    if r.keepGoing = true ∨ max r.ec ec = 0 then .ok () else .error (.fatal (max r.ec ec))
  | _ => .ok ()

end Operation

theorem Ending.IsCalm.exited {ending : Ending} (h : ending.IsCalm) :
    ∃ code, ending = .exited code ∧ IsOrdinary code := by
  cases ending with
  | exited code => exact ⟨code, rfl, h⟩
  | killed => exact h.elim

/-- A record that no look stops the scan with, as long as no signal is seen. -/
structure Record.Ordinary (r : Record) : Prop where
  dying : r.dying = false
  ec : IsOrdinary r.ec

theorem IsOrdinary.max {a b : Int} (ha : IsOrdinary a) (hb : IsOrdinary b) :
    IsOrdinary (max a b) := by
  rcases max_choice a b with h | h
  · rw [h]
    exact ha
  · rw [h]
    exact hb

namespace Record.Ordinary

variable {r : Record}

theorem stops_eq_false (h : r.Ordinary) : r.stops = false :=
  stops_eq_false_iff.2 (.inr h.ec)

theorem raiseCode (h : r.Ordinary) {ec : Int} (hec : IsOrdinary ec) : (r.raiseCode ec).Ordinary := by
  refine ⟨?_, ?_⟩
  · rw [dying_raiseCode]
    exact h.dying
  · rw [ec_raiseCode]
    exact h.ec.max hec

end Record.Ordinary

/-! ## Looks that see nothing -/

namespace Bench

variable {b : Bench}

theorem takeSignal_eq_none (h : ∀ signal, Entry.caught signal ∉ b.checkpointEntries) :
    b.machine.takeSignal.1 = none := by
  rcases hsignal : b.machine.takeSignal.1 with _ | signal
  · rfl
  · refine absurd ?_ (h signal)
    rw [checkpointEntries, lookEntries, hsignal]
    exact List.mem_append_left _ (List.mem_singleton_self _)

theorem record_look_of_unseen (h : ∀ signal, Entry.caught signal ∉ b.checkpointEntries) :
    b.look.record = b.record := by
  rw [record_look, takeSignal_eq_none h, Record.seen_none]

end Bench

namespace Scan

variable {b : Bench}

theorem eval_checkpoint_of_unseen (hb : b.record.Ordinary)
    (h : ∀ signal, Entry.caught signal ∉ b.checkpointEntries) :
    eval checkpoint b = (.ok (), b.look) ∧ b.look.record = b.record := by
  have hrecord := Bench.record_look_of_unseen h
  refine ⟨eval_checkpoint_of_not_stops ?_, hrecord⟩
  rw [hrecord]
  exact hb.stops_eq_false

/-- Taking account of an ordinary exit code stops nothing. -/
theorem eval_noteStatus_of_unseen (hb : b.record.Ordinary) {code : Int} (hcode : IsOrdinary code)
    (h : ∀ signal, Entry.caught signal ∉ b.statusEntries code) :
    ∃ b', eval (noteStatus code) b = (.ok (), b') ∧ b'.record.Ordinary ∧
      b'.record.keepGoing = b.record.keepGoing := by
  rw [noteStatus]
  rw [Bench.statusEntries] at h
  by_cases habove : code > 128
  · rw [if_pos habove] at h ⊢
    set raised : Bench := { b with record := b.record.raiseCode code } with hraised
    have hraise : raised.record.Ordinary := hb.raiseCode hcode
    obtain ⟨hrun, hrecord⟩ := eval_checkpoint_of_unseen hraise
      fun signal hmem => h signal (List.mem_cons_of_mem _ hmem)
    refine ⟨raised.look, hrun, ?_, ?_⟩
    · rw [hrecord]
      exact hraise
    · rw [hrecord]
      exact Record.keepGoing_raiseCode _ _
  · rw [if_neg habove]
    exact ⟨b, rfl, hb, rfl⟩

end Scan

namespace Manner

open Scan

variable {b : Bench} (manner : Manner)

/-- A command is approached without anything in its way. -/
theorem eval_approach_of_unseen (command : Shell.Command) (hb : b.record.Ordinary)
    (h : ∀ signal, Entry.caught signal ∉ manner.approachEntries b) :
    eval (manner.approach command) b = (.ok (), b.ready manner command) ∧
      (b.ready manner command).record = b.record := by
  have hfirst : ∀ signal, Entry.caught signal ∉ b.checkpointEntries :=
    fun signal hmem => h signal (List.mem_append_left _ hmem)
  have hlook := Bench.record_look_of_unseen hfirst
  have hstops : b.look.record.stops = false := by
    rw [hlook]
    exact hb.stops_eq_false
  have hready : (b.ready manner command).record = b.record := by
    rw [Bench.record_ready, Bench.takeSignal_eq_none hfirst, Record.seen_none]
    split
    · next hechoes =>
      -- the look behind the echo is the second one that sees nothing
      have hsecond : ∀ signal, Entry.caught signal ∉ b.look.checkpointEntries := by
        intro signal hmem
        refine h signal (List.mem_append_right _ ?_)
        rw [hstops, hechoes, if_neg Bool.false_ne_true, if_pos rfl]
        exact hmem
      rw [← Bench.takeSignal_look, Bench.takeSignal_eq_none hsecond, Record.seen_none]
    · rfl
  refine ⟨eval_approach_of_not_stops manner command hstops ?_, hready⟩
  rw [hready]
  exact hb.stops_eq_false

theorem arrivalEntries_eq_nil {run : ChildRun}
    (h : ∀ signal, Entry.caught signal ∉ manner.arrivalEntries run) :
    manner.arrivalEntries run = [] := by
  cases manner with
  | captured => rfl
  | logged echo =>
    refine List.eq_nil_iff_forall_not_mem.2 fun entry hentry => ?_
    obtain ⟨signal, -, rfl⟩ := List.mem_map.1 hentry
    exact h signal hentry

/-- Waiting for a child leaves the record as it is, if no signal comes meanwhile. -/
theorem ordinary_attend {run : ChildRun} (hb : b.record.Ordinary)
    (h : ∀ signal, Entry.caught signal ∉ manner.arrivalEntries run) :
    (act (manner.attend run) b).2.record.Ordinary ∧
      (act (manner.attend run) b).2.record.keepGoing = b.record.keepGoing := by
  -- nothing but the code may differ, and no entry came on record
  have hawake : Awake b (act (manner.attend run) b).2 :=
    Awake.stepKept.attend manner (fun _ _ => trivial) b
  have hbooked := manner.booked_attend run b
  rw [manner.arrivalEntries_eq_nil h] at hbooked
  have hec : (act (manner.attend run) b).2.record.ec = b.record.ec := hbooked
  refine ⟨⟨hawake.dying.trans hb.dying, ?_⟩, hawake.keepGoing⟩
  rw [hec]
  exact hb.ec

end Manner

/-! ## One operation -/

namespace Operation

variable {op : Operation} {b : Bench}

theorem entries_of_command {manner : Manner} {command : Shell.Command}
    (h : op.command? = some (manner, command)) : op.entries b = manner.callEntries command b := by
  cases op with
  | print => cases h
  | error => cases h
  | exec => cases h; rfl
  | output => cases h; rfl

theorem Undisturbed.uncaught (h : op.Undisturbed b) (signal : Int) :
    Entry.caught signal ∉ op.entries b :=
  fun hmem => h.caught _ hmem trivial

/-- The command of an undisturbed operation runs to its end, whatever becomes of it. -/
theorem Undisturbed.eval_call (h : op.Undisturbed b) (hb : b.record.Ordinary) {manner : Manner}
    {command : Shell.Command} (hcommand : op.command? = some (manner, command)) :
    ∃ code b', eval (manner.call command) b = (.ok code, b') ∧ b'.record.Ordinary ∧
      b'.record.keepGoing = b.record.keepGoing := by
  have hcaught : ∀ signal, Entry.caught signal ∉ manner.callEntries command b := by
    intro signal
    rw [← entries_of_command hcommand]
    exact h.uncaught signal
  have hchild := h.child
  unfold Manner.callEntries at hcaught
  unfold childEnd? at hchild
  obtain ⟨happroach, hready⟩ := manner.eval_approach_of_unseen command hb
    fun signal hmem => hcaught signal (List.mem_append_left _ hmem)
  rw [hcommand] at hchild
  dsimp only at hchild
  rw [Manner.eval_call, happroach]
  rw [happroach] at hcaught hchild
  dsimp only at hcaught hchild ⊢
  -- the start itself touches nothing on record
  have hstarted : (act (Scan.start command) (b.ready manner command)).2.record = b.record := hready
  rcases hstart : act (Scan.start command) (b.ready manner command) with ⟨cause | run, started⟩
  · rw [hstart] at hstarted
    have hlogged : (act (Scan.logRefusal cause) started).2.record = b.record := by
      obtain ⟨t, ht⟩ := Scan.act_log (cause.message ++ "\n") started
      rw [Scan.logRefusal, act_bind, ht]
      exact hstarted
    refine ⟨_, _, rfl, ?_, ?_⟩
    · rw [hlogged]
      exact hb
    · rw [hlogged]
  · rw [hstart] at hcaught hchild hstarted
    dsimp only at hcaught hchild hstarted ⊢
    obtain ⟨code, hending, hcode⟩ := (hchild _ rfl).exited
    rw [← hstarted] at hb ⊢
    obtain ⟨hended, hkeep⟩ := manner.ordinary_attend hb fun signal hmem =>
      hcaught signal (List.mem_append_right _ (List.mem_append_left _ hmem))
    rw [hending, Ending.code] at hcaught ⊢
    obtain ⟨b', hnote, hb', hkeep'⟩ := Scan.eval_noteStatus_of_unseen hended hcode fun signal hmem =>
      hcaught signal (List.mem_append_right _ (List.mem_append_right _ hmem))
    rw [hnote]
    exact ⟨code, b', rfl, hb', hkeep'.trans hkeep⟩

/-- Logging a line is a look; recording an error is a look, and then the error counts. -/
theorem Undisturbed.eval_error {text : String} {ec : Int} (h : (error text ec).Undisturbed b)
    (hb : b.record.Ordinary) :
    ∃ b', eval (Scan.error text ec) b = ((error text ec).verdict b.record, b') ∧
      b'.record = b.record.raiseCode ec := by
  obtain ⟨t, ht⟩ := Scan.eval_error text ec b
  obtain ⟨hrun, hrecord⟩ := Scan.eval_checkpoint_of_unseen (b := b.withTree t) hb (by
    intro signal hmem
    rw [Bench.checkpointEntries_withTree] at hmem
    exact h.uncaught signal (List.mem_append_left _ hmem))
  rw [Bench.record_withTree] at hrecord
  rw [ht, hrun]
  dsimp only
  rw [hrecord, Record.dying_raiseCode, Record.keepGoing_raiseCode, Record.ec_raiseCode, hb.dying,
    verdict]
  by_cases hgo : b.record.keepGoing = true ∨ max b.record.ec ec = 0
  · rw [if_pos hgo, if_neg]
    · exact ⟨_, rfl, rfl⟩
    · rcases hgo with hgo | hgo <;> simp [hgo]
  · rw [if_neg hgo, if_pos]
    · exact ⟨_, rfl, rfl⟩
    · obtain ⟨hkeep, hcode⟩ := not_or.1 hgo
      simp [hkeep, hcode]

/-- An undisturbed operation ends as its verdict says, and leaves the record ordinary. -/
theorem Undisturbed.eval_run (h : op.Undisturbed b) (hb : b.record.Ordinary) :
    (eval op.run b).1 = op.verdict b.record ∧ (eval op.run b).2.record.Ordinary ∧
      (eval op.run b).2.record.keepGoing = b.record.keepGoing := by
  cases op with
  | print lead text =>
    obtain ⟨t, ht⟩ := Scan.eval_printLead lead text b
    -- writing the line first does not change what the checkpoint has to take account of
    obtain ⟨hrun, hrecord⟩ := Scan.eval_checkpoint_of_unseen (b := b.withTree t) hb (by
      intro signal hmem
      rw [Bench.checkpointEntries_withTree] at hmem
      exact h.uncaught signal hmem)
    rw [run, ht, hrun]
    dsimp only
    rw [hrecord]
    exact ⟨rfl, hb, rfl⟩
  | error text ec =>
    obtain ⟨b', hrun, hrecord⟩ := h.eval_error hb
    rw [run, hrun]
    dsimp only
    rw [hrecord]
    exact ⟨rfl, hb.raiseCode (h.recorded ec rfl), Record.keepGoing_raiseCode _ _⟩
  | exec echo command =>
    obtain ⟨code, b', hcall, hb', hkeep⟩ := h.eval_call hb rfl
    rw [eval_run_of_command rfl, hcall]
    exact ⟨rfl, hb', hkeep⟩
  | output command =>
    obtain ⟨code, b', hcall, hb', hkeep⟩ := h.eval_call hb rfl
    rw [eval_run_of_command rfl, hcall]
    exact ⟨rfl, hb', hkeep⟩

/-! ## Runs -/

theorem allUndisturbed_append {before rest : List Operation} :
    AllUndisturbed (before ++ rest) b ↔
      AllUndisturbed before b ∧ AllUndisturbed rest (after before b) := by
  induction before generalizing b with
  | nil => exact ⟨fun h => ⟨trivial, h⟩, And.right⟩
  | cons op before ih =>
    rw [List.cons_append, AllUndisturbed, AllUndisturbed, ih, and_assoc]
    rfl

/-- A run of undisturbed operations leaves the record ordinary. -/
theorem AllUndisturbed.after {ops : List Operation} (h : AllUndisturbed ops b)
    (hb : b.record.Ordinary) :
    (after ops b).record.Ordinary ∧ (after ops b).record.keepGoing = b.record.keepGoing := by
  induction ops generalizing b with
  | nil => exact ⟨hb, rfl⟩
  | cons op ops ih =>
    obtain ⟨hop, hrest⟩ := h
    obtain ⟨-, hb', hkeep⟩ := hop.eval_run hb
    obtain ⟨hafter, hkeep'⟩ := ih hrest hb'
    exact ⟨hafter, hkeep'.trans hkeep⟩

end Operation

/-! ## New results -/

/-- The scan is as much alive as before, and keeps going as before. -/
structure SameTemper (b b' : Bench) : Prop where
  dying : b'.record.dying = b.record.dying
  keepGoing : b'.record.keepGoing = b.record.keepGoing

instance : IsPreorder Bench SameTemper where
  refl _ := ⟨rfl, rfl⟩
  trans _ _ _ h h' := ⟨h'.dying.trans h.dying, h'.keepGoing.trans h.keepGoing⟩

/-- New results have nothing on record, and keep going if they are asked to. -/
theorem Record.ordinary_of_create {o : Options} {m m' : Machine} {b : Bench}
    (h : create o m = (.ok b, m')) : b.record.Ordinary ∧ b.record.keepGoing = o.keepGoing := by
  have hwrite (text : String) : Keeps SameTemper (Scan.writeMetadata text) :=
    Scan.keeps_writeMetadata (fun _ _ => ⟨rfl, rfl⟩) text
  have hbegin : Keeps SameTemper (begin o) := by
    refine (hwrite _).bind fun _ => .bind .get fun bench => .forM (fun entry => ?_) _
    exact (hwrite _).bind fun _ => .liftM fun _ => ⟨rfl, rfl⟩
  obtain ⟨tmpdir, -, t, -, -, hrun⟩ := exists_of_create h
  have hsame := hbegin { machine := { m with tree := t }, record := ofOptions o tmpdir }
  rw [hrun] at hsame
  refine ⟨⟨hsame.dying, .inl ?_⟩, hsame.keepGoing⟩
  rw [ec_of_create h]
  decide

/-- As long as operations on new results are undisturbed, none is given up if the scan keeps going.
If it does not, an error is fatal exactly if the greater of its code and the one on record by then
is not zero. -/
theorem Operation.keeps_going_undisturbed {o : Record.Options} {m m' : Machine} {b : Bench}
    (hcreate : Record.create o m = (.ok b, m')) {before : List Operation} {op : Operation}
    (hops : AllUndisturbed (before ++ [op]) b) :
    (o.keepGoing = true → (eval op.run (after before b)).1 = .ok ()) ∧
      (o.keepGoing = false → ∀ text ec, op = .error text ec →
        ((∃ code, (eval op.run (after before b)).1 = .error (.fatal code)) ↔
          max ec (after before b).record.ec ≠ 0)) := by
  obtain ⟨hb, hkeep⟩ := Record.ordinary_of_create hcreate
  -- the record is ordinary up to this operation, which therefore ends as its verdict says
  obtain ⟨hbefore, hop, -⟩ := allUndisturbed_append.1 hops
  obtain ⟨hafter, hkeep'⟩ := hbefore.after hb
  obtain ⟨hrun, -, -⟩ := hop.eval_run hafter
  rw [← hkeep, ← hkeep', hrun]
  refine ⟨fun hgoing => ?_, ?_⟩
  · cases op with
    | error text ec => exact if_pos (.inl hgoing)
    | _ => rfl
  · rintro hstopping text ec rfl
    rw [verdict, max_comm ec, hstopping]
    by_cases hzero : max (after before b).record.ec ec = 0
    · rw [if_pos (.inr hzero)]
      exact iff_of_false (fun ⟨_, hfatal⟩ => nomatch hfatal) (not_not.2 hzero)
    · rw [if_neg (not_or.2 ⟨Bool.false_ne_true, hzero⟩)]
      exact iff_of_true ⟨_, rfl⟩ hzero

/-- New results of which something can be seen by running. -/
theorem Record.exists_create_of_decide {o : Options} {m : Machine} {P : Bench → Prop}
    [DecidablePred P] (h : ((create o m).1.map fun b => decide (P b)) = .ok true) :
    ∃ b m', create o m = (.ok b, m') ∧ P b := by
  rcases hcreate : create o m with ⟨e | b, m'⟩
  · rw [hcreate] at h
    cases h
  · rw [hcreate] at h
    exact ⟨b, m', rfl, of_decide_eq_true (Except.ok.inj h)⟩

/-- A command that exits with 200 does not stop the scan. An error without a code does so then, as
the one on record is not zero; but not if the scan keeps going. -/
theorem Operation.keeps_going_undisturbed_above :
    let m : Machine :=
      { tree := { nodes := [(["tmp"], .dir)] }
        behaviour := fun _ _ _ _ =>
          .started { location := "/bin/make", ending := fun _ => .exited 200 } }
    let before := [print Scan.infoLead "building", exec true (.argv ["make"])]
    (∃ b m', Record.create { output := "out", keepGoing := true } m = (.ok b, m') ∧
        AllUndisturbed (before ++ [error "no report" 0]) b ∧
        (eval (error "no report" 0).run (after before b)).1 = .ok ()) ∧
      ∃ b m', Record.create { output := "out", keepGoing := false } m = (.ok b, m') ∧
        AllUndisturbed (before ++ [error "no report" 0]) b ∧
        ∃ code, (eval (error "no report" 0).run (after before b)).1 = .error (.fatal code) := by
  intro m before
  obtain ⟨b, m₁, hcreate, hops⟩ : ∃ b m',
      Record.create { output := "out", keepGoing := true } m = (.ok b, m') ∧
        AllUndisturbed (before ++ [error "no report" 0]) b :=
    Record.exists_create_of_decide (by decide +kernel)
  obtain ⟨b', m₂, hcreate', hops', hcode⟩ : ∃ b m',
      Record.create { output := "out", keepGoing := false } m = (.ok b, m') ∧
        AllUndisturbed (before ++ [error "no report" 0]) b ∧
        max 0 (after before b).record.ec ≠ 0 :=
    Record.exists_create_of_decide (by decide +kernel)
  -- the same program and the same error: only the mode makes the difference
  refine ⟨⟨b, m₁, hcreate, hops, ?_⟩, b', m₂, hcreate', hops', ?_⟩
  · exact (keeps_going_undisturbed hcreate hops).1 rfl
  · exact ((keeps_going_undisturbed hcreate' hops').2 rfl _ _ rfl).2 hcode

end ChrootScan
