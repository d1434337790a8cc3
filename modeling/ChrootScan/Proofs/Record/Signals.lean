import ChrootScan.Record
import ChrootScan.Proofs.Effect

/-!
# Signals and the exit code

What looking for signals does to a bench. `Bench.look` is the bench after one look: the signal that
is seen raises the exit code, and nothing else that matters changes (`Still`). A checkpoint looks
once and stops the scan when the code on record is then that of a signal and the scan is not dying
(`Record.stops`); what a checkpoint leaves alone is exactly `Bench.look`.
-/

namespace ChrootScan

open Effect

/-! ## Quiet work -/

/-- The bench with other files. -/
def Bench.withTree (b : Bench) (t : FileTree) : Bench :=
  { b with machine := { b.machine with tree := t } }

/-- Nothing but the files, the exit code, the dying flag and what is known of signals differs. -/
structure Still (b b' : Bench) : Prop where
  chroot : b'.chroot = b.chroot
  record : ∃ ec dying, b'.record = { b.record with ec := ec, dying := dying }
  machine : ∃ tree looks pending,
    b'.machine = { b.machine with tree := tree, looks := looks, pending := pending }

namespace Still

/-- A bench is still if nothing happens to it. -/
theorem refl (b : Bench) : Still b b :=
  ⟨rfl, ⟨_, _, rfl⟩, ⟨_, _, _, rfl⟩⟩

/-- A bench that is still twice is still all the time. -/
theorem trans {a b c : Bench} (hab : Still a b) (hbc : Still b c) : Still a c := by
  obtain ⟨hchroot, ⟨ec, dying, hrecord⟩, ⟨tree, looks, pending, hmachine⟩⟩ := hbc
  obtain ⟨_, _, hrecord'⟩ := hab.record
  obtain ⟨_, _, _, hmachine'⟩ := hab.machine
  refine ⟨hchroot.trans hab.chroot, ⟨ec, dying, ?_⟩, ⟨tree, looks, pending, ?_⟩⟩
  · rw [hrecord, hrecord']
  · rw [hmachine, hmachine']

instance : IsPreorder Bench Still where
  refl := refl
  trans _ _ _ := trans

/-- Changes of the files leave a bench still. -/
theorem withTree (b : Bench) (t : FileTree) : Still b (b.withTree t) :=
  ⟨rfl, ⟨_, _, rfl⟩, ⟨_, _, _, rfl⟩⟩

/-- No program was started. -/
theorem starts {b b' : Bench} (h : Still b b') : b'.machine.starts = b.machine.starts := by
  obtain ⟨_, _, _, hmachine⟩ := h.machine
  rw [hmachine]

/-- No command is started while a bench is still. -/
theorem calls {b b' : Bench} (h : Still b b') : b'.machine.calls = b.machine.calls := by
  obtain ⟨_, _, _, hmachine⟩ := h.machine
  rw [hmachine]

end Still

namespace Scan

/-- Logging changes the files and nothing else. -/
theorem act_logBytes (bytes : ByteArray) (b : Bench) :
    ∃ t, act (logBytes bytes) b = ((), b.withTree t) := by
  by_cases hopen : b.record.logOpen = true
  · refine ⟨b.machine.tree.appendBytes b.record.logPath bytes, ?_⟩
    simp only [logBytes, getRecord, act_bind, act_get, act_pure, hopen, if_true]
    rfl
  · refine ⟨b.machine.tree, ?_⟩
    simp only [logBytes, getRecord, act_bind, act_get, act_pure, act_ite, hopen]
    rfl

/-- Writing into the log changes the files alone. -/
theorem act_log (text : String) (b : Bench) : ∃ t, act (log text) b = ((), b.withTree t) :=
  act_logBytes _ b

/-- A line with its time changes the files alone. -/
theorem act_logStamped (lead text : String) (b : Bench) :
    ∃ t, act (logStamped lead text) b = ((), b.withTree t) := by
  obtain ⟨t, ht⟩ := act_log (lead ++ b.machine.clock ++ "\t" ++ text ++ "\n") b
  refine ⟨t, ?_⟩
  rw [logStamped, act_bind, act_get]
  exact ht

end Scan

/-! ## Looking for a signal -/

namespace Record

/-- A code is put on record by keeping the greater one. -/
theorem raiseCode_eq (r : Record) (ec : Int) : r.raiseCode ec = { r with ec := max r.ec ec } := by
  unfold raiseCode
  split
  · next h => rw [max_eq_right (le_of_lt h)]
  · next h => rw [max_eq_left (not_lt.1 h)]

@[simp] theorem ec_raiseCode (r : Record) (ec : Int) : (r.raiseCode ec).ec = max r.ec ec := by
  rw [raiseCode_eq]

@[simp] theorem dying_raiseCode (r : Record) (ec : Int) : (r.raiseCode ec).dying = r.dying := by
  rw [raiseCode_eq]

@[simp] theorem keepGoing_raiseCode (r : Record) (ec : Int) :
    (r.raiseCode ec).keepGoing = r.keepGoing := by
  rw [raiseCode_eq]

/-- The record once a look has seen a signal, or none. -/
def seen (r : Record) : Option Int → Record
  | none => r
  | some signal => r.raiseCode (128 + signal)

@[simp] theorem seen_none (r : Record) : r.seen none = r := rfl

@[simp] theorem seen_some (r : Record) (signal : Int) :
    r.seen (some signal) = r.raiseCode (128 + signal) := rfl

@[simp] theorem dying_seen (r : Record) (signal : Option Int) :
    (r.seen signal).dying = r.dying := by
  cases signal with
  | none => rfl
  | some signal => exact dying_raiseCode r _

@[simp] theorem keepGoing_seen (r : Record) (signal : Option Int) :
    (r.seen signal).keepGoing = r.keepGoing := by
  cases signal with
  | none => rfl
  | some signal => exact keepGoing_raiseCode r _

/-- A look for a signal does not lower the code on record. -/
theorem le_ec_seen (r : Record) (signal : Option Int) : r.ec ≤ (r.seen signal).ec := by
  cases signal with
  | none => exact le_refl _
  | some signal => simp

/-- A checkpoint stops a scan with this record. -/
def stops (r : Record) : Bool :=
  !r.dying && Scan.isSignalCode r.ec

/-- A checkpoint stops a scan that is not dying yet, with a code between those of signals. -/
theorem stops_eq_true_iff {r : Record} :
    r.stops = true ↔ r.dying = false ∧ 128 < r.ec ∧ r.ec < 192 := by
  simp only [stops, Scan.isSignalCode, Bool.and_eq_true, Bool.not_eq_true', decide_eq_true_eq]
  norm_num

/-- A checkpoint lets a scan go on that is dying, or whose code is none of a signal. -/
theorem stops_eq_false_iff {r : Record} :
    r.stops = false ↔ (r.dying = true ∨ r.ec ≤ 128 ∨ 192 ≤ r.ec) := by
  rw [← Bool.not_eq_true, stops_eq_true_iff]
  cases r.dying
  · simp only [true_and, Bool.false_eq_true, false_or]
    omega
  · simp

end Record

namespace Bench

/-- The bench after one look for a signal. -/
def look (b : Bench) : Bench :=
  (act Scan.absorbPending b).2

/-- A look takes one signal, notes it and writes into the log, and does nothing else. -/
theorem look_eq (b : Bench) : ∃ t, b.look =
    { b with
      machine := { b.machine.takeSignal.2 with tree := t }
      record := b.record.seen b.machine.takeSignal.1 } := by
  rcases hsignal : b.machine.takeSignal with ⟨_ | signal, m⟩
  · refine ⟨m.tree, ?_⟩
    simp only [look, Scan.absorbPending, Scan.onMachine, act_bind, act_modifyGet, hsignal, act_pure,
      Record.seen_none]
  · obtain ⟨t, ht⟩ := Scan.act_logStamped Scan.errorLead
      ("error: caught signal " ++ toString signal ++ "\n") { b with machine := m }
    refine ⟨t, ?_⟩
    simp only [look, Scan.absorbPending, Scan.onMachine, act_bind, act_modifyGet, hsignal,
      Scan.absorb, ht, Record.seen_some]
    rfl

@[simp] theorem record_look (b : Bench) :
    b.look.record = b.record.seen b.machine.takeSignal.1 := by
  obtain ⟨t, ht⟩ := b.look_eq
  rw [ht]

/-- A look for a signal leaves the bench still. -/
theorem still_look (b : Bench) : Still b b.look := by
  obtain ⟨t, ht⟩ := b.look_eq
  rw [ht]
  refine ⟨rfl, ?_, ⟨_, _, _, rfl⟩⟩
  cases b.machine.takeSignal.1 with
  | none => exact ⟨_, _, rfl⟩
  | some signal =>
    rw [Record.seen_some, Record.raiseCode_eq]
    exact ⟨_, _, rfl⟩

@[simp] theorem takeSignal_withTree (b : Bench) (t : FileTree) :
    (b.withTree t).machine.takeSignal.1 = b.machine.takeSignal.1 := rfl

@[simp] theorem record_withTree (b : Bench) (t : FileTree) : (b.withTree t).record = b.record := rfl

end Bench

/-! ## Errors and checkpoints -/

namespace Scan

/-- A fatal error carries the exit code that is then on record. The scan is dying from there on,
and nothing was started. -/
theorem act_fatal (text : String) (ec : Int) (b : Bench) :
    ∃ b', act (fatal text ec) b = (.fatal b'.record.ec, b') ∧ ec ≤ b'.record.ec ∧
      b.record.ec ≤ b'.record.ec ∧ b'.record.dying = true ∧ Still b b' := by
  obtain ⟨t, ht⟩ := act_logStamped errorLead ("fatal error: " ++ text ++ "\n")
    { b with record := { b.record with dying := true } }
  -- the flag is set before anything else, so the look on the way sees a dying scan
  set dead : Bench := { b with record := { b.record with dying := true } } with hdead
  have hstill : Still b (dead.withTree t).look :=
    ((⟨rfl, ⟨_, _, rfl⟩, ⟨_, _, _, rfl⟩⟩ : Still b dead).trans (.withTree _ _)).trans
      (Bench.still_look _)
  set seen := (dead.withTree t).look with hseen
  have hrecord : seen.record = dead.record.seen (dead.withTree t).machine.takeSignal.1 :=
    Bench.record_look _
  have hle : b.record.ec ≤ seen.record.ec := by
    rw [hrecord]
    exact dead.record.le_ec_seen _
  have hdying : seen.record.dying = true := by
    rw [hrecord, Record.dying_seen, hdead]
  have hrun : act (fatal text ec) b = (.fatal (max (seen.record.raiseCode ec).ec ec),
      { seen with record := seen.record.raiseCode ec }) := by
    simp only [fatal, modifyRecord, act_bind, act_modify]
    rw [ht]
    rfl
  refine ⟨{ seen with record := seen.record.raiseCode ec }, ?_, ?_, ?_, ?_, ?_⟩
  · rw [hrun, Record.ec_raiseCode, max_assoc, max_self]
  · simp
  · simp [hle]
  · simp [hdying]
  · refine hstill.trans ⟨rfl, ?_, ⟨_, _, _, rfl⟩⟩
    rw [Record.raiseCode_eq]
    exact ⟨_, _, rfl⟩

/-- A checkpoint looks once, and the record decides whether it stops the scan. -/
theorem eval_checkpoint (b : Bench) :
    eval checkpoint b =
      if b.look.record.stops = true then
        eval (failFatal ("caught signal " ++ toString (b.look.record.ec - 128))
          b.look.record.ec) b.look
      else (.ok (), b.look) := by
  have hlook : act absorbPending b = ((), b.look) := rfl
  have hrecord : act getRecord b.look = (b.look.record, b.look) := rfl
  rw [checkpoint, eval_liftM_bind, hlook, eval_liftM_bind, hrecord]
  exact eval_ite _ _ _ _

/-- A checkpoint that does not stop the scan only looks. -/
theorem eval_checkpoint_of_not_stops {b : Bench} (h : b.look.record.stops = false) :
    eval checkpoint b = (.ok (), b.look) := by
  rw [eval_checkpoint, h]
  exact if_neg Bool.false_ne_true

/-- A checkpoint that stops the scan does so with the code on record, and starts nothing. -/
theorem eval_checkpoint_of_stops {b : Bench} (h : b.look.record.stops = true) :
    ∃ b', eval checkpoint b = (.error (.fatal b'.record.ec), b') ∧
      b.look.record.ec ≤ b'.record.ec ∧ b'.record.dying = true ∧ Still b b' := by
  obtain ⟨b', hrun, hle, _, hdying, hstill⟩ :=
    act_fatal ("caught signal " ++ toString (b.look.record.ec - 128)) b.look.record.ec b.look
  refine ⟨b', ?_, hle, hdying, b.still_look.trans hstill⟩
  rw [eval_checkpoint, if_pos h, failFatal, eval_liftM_bind, hrun]
  rfl

/-- Logging a line and looking for signals is a checkpoint on other files. -/
theorem eval_printLead (lead text : String) (b : Bench) :
    ∃ t, eval (printLead lead text) b = eval checkpoint (b.withTree t) := by
  obtain ⟨t, ht⟩ := act_logStamped lead text b
  exact ⟨t, by rw [printLead, eval_liftM_bind, ht]⟩

/-- After its checkpoint an error raises the code, and then it stops the scan or not. -/
theorem eval_error (text : String) (ec : Int) (b : Bench) :
    ∃ t, eval (error text ec) b =
      match eval checkpoint (b.withTree t) with
      | (.error e, b') => (.error e, b')
      | (.ok (), b') =>
        let raised := { b' with record := b'.record.raiseCode ec }
        if !raised.record.dying && !raised.record.keepGoing && raised.record.ec ≠ 0 then
          (.error (.fatal raised.record.ec), raised)
        else (.ok (), raised) := by
  obtain ⟨t, ht⟩ := act_logStamped errorLead ("error: " ++ text ++ "\n") b
  refine ⟨t, ?_⟩
  rw [error, eval_liftM_bind, ht, eval_bind]
  rcases eval checkpoint (b.withTree t) with ⟨e | ⟨⟩, b'⟩
  · rfl
  · exact eval_ite _ _ _ _

end Scan

end ChrootScan
