import ChrootScan.Proofs.Record.Aborting

/-!
# The ledger of exit codes

The exit code of a scan is the greatest of all codes that were ever on record. `Entry` names what
puts a code on record: a signal that is caught, an error, a fatal error, and a child that ends with
a code above 128. `Action.ledger` lists the entries of a run in order, by what the machine hands to
the scan at each look and at the end of each child. Every step keeps the balance between the ledger
and the code (`Booked`), also a step that is given up half-way, so a whole run does. An operation
that is given up does so with the code on record (`Faithful`).
-/

namespace ChrootScan

open Effect

/-! ## Entries -/

/-- What puts a code on record. -/
inductive Entry
  /-- A signal was caught. -/
  | caught (signal : Int)
  /-- An error got past its look for signals. -/
  | failed (ec : Int)
  /-- A fatal error. -/
  | stopped (ec : Int)
  /-- A child ended with a code above 128. -/
  | ended (code : Int)
deriving DecidableEq, Repr

namespace Entry

def code : Entry → Int
  | caught signal => 128 + signal
  | failed ec => ec
  | stopped ec => ec
  | ended code => code

/-- The greatest of a code and those of entries. -/
def highest (ec : Int) (entries : List Entry) : Int :=
  (entries.map code).foldl max ec

/-- Entries may be taken account of in portions. -/
theorem highest_append (ec : Int) (entries entries' : List Entry) :
    highest ec (entries ++ entries') = highest (highest ec entries) entries' := by
  rw [highest, List.map_append, List.foldl_append]
  rfl

/-- Entries never lower the code. -/
theorem le_highest (ec : Int) (entries : List Entry) : ec ≤ highest ec entries := by
  induction entries generalizing ec with
  | nil => exact le_refl ec
  | cons entry entries ih => exact (le_max_left ec entry.code).trans (ih _)

end Entry

/-- Between two benches exactly these entries came on record. -/
def Booked (entries : List Entry) (b b' : Bench) : Prop :=
  b'.record.ec = Entry.highest b.record.ec entries

namespace Booked

variable {entries entries' : List Entry} {b b' b'' : Bench}

/-- What came on record in two stretches came on record in both together, in this order. -/
theorem trans (h : Booked entries b b') (h' : Booked entries' b' b'') :
    Booked (entries ++ entries') b b'' := by
  rw [Booked, Entry.highest_append, ← h]
  exact h'

/-- The code on record never falls. -/
theorem le (h : Booked entries b b') : b.record.ec ≤ b'.record.ec := by
  rw [h]
  exact Entry.le_highest _ _

end Booked

/-- The code on record is the same. -/
def SameCode (b b' : Bench) : Prop :=
  b'.record.ec = b.record.ec

instance : IsPreorder Bench SameCode where
  refl _ := rfl
  trans _ _ _ h h' := h'.trans h

/-- A step that leaves the code alone has no entries. -/
theorem SameCode.booked {b b' : Bench} (h : SameCode b b') : Booked [] b b' := h

/-! ## The entries of steps -/

namespace Bench

/-- The entry of one look for a signal. -/
def lookEntries (b : Bench) : List Entry :=
  (b.machine.takeSignal.1.map Entry.caught).toList

/-- The entries of a fatal error, which looks for a signal on its way. -/
def fatalEntries (b : Bench) (ec : Int) : List Entry :=
  b.lookEntries ++ [.stopped ec]

/-- The entries of a checkpoint: if it stops the scan, that is a fatal error with the code then on
record. -/
def checkpointEntries (b : Bench) : List Entry :=
  b.lookEntries ++ if b.look.record.stops then b.look.fatalEntries b.look.record.ec else []

/-- The entries of an exit code that is taken account of. -/
def statusEntries (b : Bench) (code : Int) : List Entry :=
  if code > 128 then
    .ended code :: checkpointEntries { b with record := b.record.raiseCode code }
  else []

variable (b : Bench)

/-- The signal behind a look is the second one that waited in front of it. -/
theorem takeSignal_look :
    b.look.machine.takeSignal.1 = b.machine.takeSignal.2.takeSignal.1 := by
  obtain ⟨t, ht⟩ := b.look_eq
  rw [ht]
  rfl

/-- What a checkpoint puts on record does not depend on the files. -/
theorem checkpointEntries_withTree (t : FileTree) :
    (b.withTree t).checkpointEntries = b.checkpointEntries := by
  have hrecord : (b.withTree t).look.record = b.look.record := by
    rw [record_look, record_look, takeSignal_withTree, record_withTree]
  have hnext : (b.withTree t).look.lookEntries = b.look.lookEntries := by
    rw [lookEntries, lookEntries, takeSignal_look, takeSignal_look]
    rfl
  rw [checkpointEntries, checkpointEntries, fatalEntries, fatalEntries, hrecord, hnext]
  rfl

/-- A look puts the signal that it takes on record, and nothing else. -/
theorem booked_look : Booked b.lookEntries b b.look := by
  rw [Booked, record_look, lookEntries]
  rcases b.machine.takeSignal.1 with _ | signal
  · rfl
  · rw [Record.seen_some, Record.ec_raiseCode]
    rfl

/-- A code that is put on record is one entry. -/
theorem booked_raiseCode (entry : Entry) :
    Booked [entry] b { b with record := b.record.raiseCode entry.code } :=
  Record.ec_raiseCode _ _

end Bench

namespace Scan

/-- Writing into the log puts nothing on record. -/
theorem sameCode_logBytes (bytes : ByteArray) : Moves SameCode (logBytes bytes) := by
  intro b
  obtain ⟨t, ht⟩ := act_logBytes bytes b
  rw [ht]
  rfl

/-- A line of the log with its time puts nothing on record. -/
theorem sameCode_logStamped (lead text : String) : Moves SameCode (logStamped lead text) := by
  intro b
  obtain ⟨t, ht⟩ := act_logStamped lead text b
  rw [ht]
  rfl

/-- What happens on the machine alone puts nothing on record. -/
theorem sameCode_onMachine {α : Type} (f : Machine → α × Machine) :
    Moves SameCode (onMachine f) :=
  fun _ => rfl

/-- A fatal error looks for a signal before its own code comes on record. -/
theorem booked_fatal (text : String) (ec : Int) (b : Bench) :
    Booked (b.fatalEntries ec) b (act (fatal text ec) b).2 := by
  obtain ⟨t, ht⟩ := act_logStamped errorLead ("fatal error: " ++ text ++ "\n")
    { b with record := { b.record with dying := true } }
  -- neither the flag nor the log has an influence on the look
  set dead : Bench := Bench.withTree { b with record := { b.record with dying := true } } t
    with hdead
  have hrun : (act (fatal text ec) b).2 =
      { dead.look with record := dead.look.record.raiseCode ec } := by
    simp only [fatal, modifyRecord, act_bind, act_modify]
    rw [ht]
    rfl
  have hlook : Booked b.lookEntries b dead.look := dead.booked_look
  rw [hrun]
  exact hlook.trans (dead.look.booked_raiseCode (.stopped ec))

/-- Giving up with a fatal error has the entries of the error. -/
theorem booked_failFatal (text : String) (ec : Int) (b : Bench) :
    Booked (b.fatalEntries ec) b (eval (failFatal text ec : Scan Unit) b).2 :=
  booked_fatal text ec b

/-- A checkpoint has its entries whether it lets the scan go on or stops it. -/
theorem booked_checkpoint (b : Bench) :
    Booked b.checkpointEntries b (eval checkpoint b).2 := by
  rw [eval_checkpoint, Bench.checkpointEntries]
  refine b.booked_look.trans ?_
  split
  · exact booked_failFatal _ _ _
  · exact SameCode.booked rfl

/-- A line of output has the entries of the checkpoint that follows it. -/
theorem booked_printLead (lead text : String) (b : Bench) :
    Booked b.checkpointEntries b (eval (printLead lead text) b).2 := by
  obtain ⟨t, ht⟩ := eval_printLead lead text b
  rw [ht, ← b.checkpointEntries_withTree t]
  exact booked_checkpoint (b.withTree t)

/-- Taking account of the exit code of a child has its entries, also when it ends the scan. -/
theorem booked_noteStatus (code : Int) (b : Bench) :
    Booked (b.statusEntries code) b (eval (noteStatus code) b).2 := by
  rw [noteStatus, Bench.statusEntries]
  split
  · exact (b.booked_raiseCode (.ended code)).trans (booked_checkpoint _)
  · exact SameCode.booked rfl

/-- A signal that is passed on was caught; the program that passes it on counts for nothing. -/
theorem booked_passOn (signal : Int) (b : Bench) :
    Booked [.caught signal] b (act (passOn signal) b).2 := by
  obtain ⟨t, ht⟩ := act_logStamped errorLead
    ("error: caught signal " ++ toString signal ++ "\n") b
  have habsorb : (act (absorb signal) b).2 = (b.withTree t).caught signal := by
    rw [absorb, act_bind, ht]
    rfl
  have hcaught : Booked [.caught signal] b ((b.withTree t).caught signal) :=
    (b.withTree t).booked_raiseCode (.caught signal)
  rw [passOn, act_bind, habsorb]
  refine hcaught.trans (SameCode.booked ?_)
  refine (sameCode_onMachine _).bind (fun answer => ?_) _
  cases answer with
  | ok => exact .pure _
  | error => exact (sameCode_logStamped _ _).bind fun _ => .pure _

/-- Of the signals that arrive each one comes on record, in the order of their arrival. -/
theorem booked_passOnAll (delivered : Option Int) (signals : List Int) (b : Bench) :
    Booked (signals.map .caught) b (act (passOnAll delivered signals) b).2 := by
  induction signals generalizing delivered b with
  | nil => exact SameCode.booked rfl
  | cons signal signals ih => exact (booked_passOn signal b).trans (ih _ _)

/-- An error has the entries of its look for signals, and its own code behind them unless that look
stops the scan. -/
theorem booked_error (text : String) (ec : Int) (b : Bench) :
    Booked (b.checkpointEntries ++ if b.look.record.stops then [] else [.failed ec]) b
      (eval (error text ec) b).2 := by
  obtain ⟨t, ht⟩ := eval_error text ec b
  have hlook : (b.withTree t).look.record = b.look.record := by
    rw [Bench.record_look, Bench.record_look]
    rfl
  have hcheck : Booked b.checkpointEntries b (eval checkpoint (b.withTree t)).2 := by
    rw [← b.checkpointEntries_withTree t]
    exact booked_checkpoint (b.withTree t)
  rw [ht]
  rcases hstops : b.look.record.stops
  · -- the error is past its look, so its own code comes on record, whatever becomes of the scan
    rw [← hlook] at hstops
    rw [eval_checkpoint_of_not_stops hstops] at hcheck ⊢
    have hraise := hcheck.trans ((b.withTree t).look.booked_raiseCode (.failed ec))
    rw [if_neg Bool.false_ne_true]
    dsimp only
    split
    · exact hraise
    · exact hraise
  · rw [← hlook] at hstops
    obtain ⟨b', hrun, -, -, -⟩ := eval_checkpoint_of_stops hstops
    rw [hrun] at hcheck ⊢
    rw [if_pos rfl, List.append_nil]
    exact hcheck

end Scan

/-! ## The entries of commands -/

namespace Manner

open Scan

variable (manner : Manner)

/-- The entries of what comes before the start of a command. -/
def approachEntries (b : Bench) : List Entry :=
  b.checkpointEntries ++
    if b.look.record.stops then [] else if manner.echoes then b.look.checkpointEntries else []

/-- The entries of the signals that arrive while a child runs. -/
def arrivalEntries : Manner → ChildRun → List Entry
  | logged _, run => run.arrivals.map .caught
  | captured, _ => []

/-- The entries of running a command. -/
def callEntries (command : Shell.Command) (b : Bench) : List Entry :=
  manner.approachEntries b ++
    match eval (manner.approach command) b with
    | (.error _, _) => []
    | (.ok (), ready) =>
      match act (start command) ready with
      | (.error _, _) => []
      | (.ok run, started) =>
        manner.arrivalEntries run ++
          (act (manner.attend run) started).2.statusEntries
            (act (manner.attend run) started).1.code

/-- The way to a command puts on record what its checkpoints do, the second of them only if the line
is echoed. -/
theorem booked_approach (command : Shell.Command) (b : Bench) :
    Booked (manner.approachEntries b) b (eval (manner.approach command) b).2 := by
  have hcheck := booked_checkpoint b
  rw [approach, approachEntries]
  rcases hstops : b.look.record.stops
  · rw [eval_checkpoint_of_not_stops hstops] at hcheck
    rw [eval_bind_ok (eval_checkpoint_of_not_stops hstops), if_neg Bool.false_ne_true]
    refine hcheck.trans ?_
    split
    · exact booked_printLead _ _ b.look
    · exact SameCode.booked rfl
  · obtain ⟨b', hrun, -, -, -⟩ := eval_checkpoint_of_stops hstops
    rw [hrun] at hcheck
    rw [eval_bind_error hrun, if_pos rfl, List.append_nil]
    exact hcheck

/-- Attending to a child puts the signals on record that arrive meanwhile, and none if the output is
captured. -/
theorem booked_attend (run : ChildRun) (b : Bench) :
    Booked (manner.arrivalEntries run) b (act (manner.attend run) b).2 := by
  cases manner with
  | logged echo =>
    -- the output goes into the log before the signals are passed on, and a line behind them
    have hout := (sameCode_logBytes run.out b).booked
    have herr := (sameCode_logBytes run.err (act (logBytes run.out) b).2).booked
    have hpass := booked_passOnAll none run.arrivals
      (act (logBytes run.err) (act (logBytes run.out) b).2).2
    have hline := (sameCode_logBytes (Text.encode "\n") (act (passOnAll none run.arrivals)
      (act (logBytes run.err) (act (logBytes run.out) b).2).2).2).booked
    have hall := (hout.trans herr).trans (hpass.trans hline)
    rw [List.nil_append, List.nil_append, List.append_nil] at hall
    exact hall
  | captured =>
    exact (sameCode_logBytes run.err _).booked

/-- A command has its entries, however far it gets: up to its start, without being started, or to
its end. -/
theorem booked_call (command : Shell.Command) (b : Bench) :
    Booked (manner.callEntries command b) b (eval (manner.call command) b).2 := by
  have happroach := manner.booked_approach command b
  rw [eval_call, callEntries]
  rcases hrun : eval (manner.approach command) b with ⟨e | ⟨⟩, ready⟩
  · rw [hrun] at happroach
    rw [List.append_nil]
    exact happroach
  · rw [hrun] at happroach
    have hready : Booked [] ready (act (start command) ready).2 := SameCode.booked rfl
    refine happroach.trans ?_
    dsimp only
    rcases hstart : act (start command) ready with ⟨cause | run, started⟩
    · rw [hstart] at hready
      exact hready.trans (sameCode_logBytes _ started).booked
    · rw [hstart] at hready
      have hattend := manner.booked_attend run started
      have hnote := booked_noteStatus (act (manner.attend run) started).1.code
        (act (manner.attend run) started).2
      have hended := hready.trans (hattend.trans hnote)
      dsimp only
      rcases hnoted : eval (noteStatus (act (manner.attend run) started).1.code)
        (act (manner.attend run) started).2 with ⟨e | ⟨⟩, c⟩
      · rw [hnoted] at hended
        exact hended
      · rw [hnoted] at hended
        exact hended

end Manner

namespace Operation

/-- The entries of an operation. -/
def entries : Operation → Bench → List Entry
  | print _ _, b => b.checkpointEntries
  | error _ ec, b => b.checkpointEntries ++ if b.look.record.stops then [] else [.failed ec]
  | exec echo command, b => (Manner.logged echo).callEntries command b
  | output command, b => Manner.captured.callEntries command b

/-- An operation leaves the record with exactly its entries. -/
theorem booked_run (op : Operation) (b : Bench) :
    Booked (op.entries b) b (eval op.run b).2 := by
  cases op with
  | print lead text => exact Scan.booked_printLead lead text b
  | error text ec => exact Scan.booked_error text ec b
  | exec echo command =>
    rw [eval_run_of_command rfl]
    exact Manner.booked_call _ command b
  | output command =>
    rw [eval_run_of_command rfl]
    exact Manner.booked_call _ command b

end Operation

/-! ## Giving up -/

/-- An error of this work is fatal, and it carries the code on record, which is not zero. -/
def Faithful {α : Type} (x : Scan α) : Prop :=
  ∀ b e, (eval x b).1 = .error e →
    e = .fatal (eval x b).2.record.ec ∧ (eval x b).2.record.ec ≠ 0

namespace Faithful

variable {α β : Type}

/-- Work without effect never gives up. -/
theorem pure (a : α) : Faithful (pure a : Scan α) := by
  intro b e h
  cases h

/-- Steps that cannot fail never give up. -/
theorem liftM (x : StateM Bench α) : Faithful (liftM x : Scan α) := by
  intro b e h
  cases h

/-- If two pieces of work are faithful, so is the one behind the other: only one of them gives up.
-/
theorem bind {x : Scan α} {f : α → Scan β} (hx : Faithful x) (hf : ∀ a, Faithful (f a)) :
    Faithful (x >>= f) := by
  intro b e h
  rcases hrun : eval x b with ⟨e' | a, b'⟩
  · rw [eval_bind_error hrun] at h ⊢
    have := hx b e'
    rw [hrun] at this
    cases h
    exact this rfl
  · rw [eval_bind_ok hrun] at h ⊢
    exact hf a b' e h

/-- A choice between faithful pieces of work is faithful. -/
theorem ite {c : Prop} [Decidable c] {x y : Scan α} (hx : Faithful x) (hy : Faithful y) :
    Faithful (if c then x else y) := by
  split
  · exact hx
  · exact hy

end Faithful

namespace Scan

/-- A fatal error carries the code on record, which is at least its own. -/
theorem faithful_failFatal {α : Type} (text : String) {ec : Int} (hec : 1 ≤ ec) :
    Faithful (failFatal text ec : Scan α) := by
  intro b e h
  obtain ⟨b', hrun, hle, -, -, -⟩ := act_fatal text ec b
  have heval : eval (failFatal text ec : Scan α) b = (.error (.fatal b'.record.ec), b') := by
    rw [failFatal, eval_liftM_bind, hrun]
    rfl
  rw [heval] at h ⊢
  cases h
  exact ⟨rfl, by dsimp only; omega⟩

/-- A checkpoint gives up with the code that made it stop. -/
theorem faithful_checkpoint : Faithful checkpoint := by
  intro b e h
  rcases hstops : b.look.record.stops
  · rw [eval_checkpoint_of_not_stops hstops] at h
    cases h
  · obtain ⟨b', hrun, hle, -, -⟩ := eval_checkpoint_of_stops hstops
    have hlow := (Record.stops_eq_true_iff.1 hstops).2.1
    rw [hrun] at h ⊢
    cases h
    exact ⟨rfl, by dsimp only; omega⟩

theorem faithful_printLead (lead text : String) : Faithful (printLead lead text) :=
  .bind (.liftM _) fun _ => faithful_checkpoint

/-- An error is given up at its checkpoint, or behind it with the code that is not zero. -/
theorem faithful_error (text : String) (ec : Int) : Faithful (error text ec) := by
  have hlast : Faithful (do
      let r ← getRecord
      if !r.dying && !r.keepGoing && r.ec ≠ 0 then throw (.fatal r.ec) : Scan Unit) := by
    intro b e h
    have hrecord : act getRecord b = (b.record, b) := rfl
    rw [eval_liftM_bind, hrecord, eval_ite] at h ⊢
    by_cases hstop : (!b.record.dying && !b.record.keepGoing && decide (b.record.ec ≠ 0)) = true
    · rw [if_pos hstop] at h ⊢
      simp only [Bool.and_eq_true, decide_eq_true_eq] at hstop
      cases h
      exact ⟨rfl, hstop.2⟩
    · rw [if_neg hstop] at h
      cases h
  refine .bind (.liftM _) fun _ => faithful_checkpoint.bind fun _ => ?_
  exact .bind (.liftM _) fun _ => hlast

theorem faithful_noteStatus (code : Int) : Faithful (noteStatus code) :=
  .ite (.bind (.liftM _) fun _ => faithful_checkpoint) (.pure _)

end Scan

/-- A command is given up with the code on record, on its way or behind its end. -/
theorem Manner.faithful_call (manner : Manner) (command : Shell.Command) :
    Faithful (manner.call command) := by
  have happroach : Faithful (manner.approach command) :=
    Scan.faithful_checkpoint.bind fun _ => .ite (Scan.faithful_printLead _ _) (.pure _)
  refine happroach.bind fun _ => .bind (.liftM _) ?_
  rintro (cause | run)
  · exact .liftM _
  · exact .bind (.liftM _) fun _ => (Scan.faithful_noteStatus _).bind fun _ => .pure _

/-- An operation is given up with the code on record, since each of its steps is. -/
theorem Operation.faithful_run (op : Operation) : Faithful op.run := by
  have hcall {manner : Manner} {command : Shell.Command}
      (hcommand : op.command? = some (manner, command)) : Faithful op.run := by
    intro b e h
    have hfaithful := manner.faithful_call command b e
    rw [eval_run_of_command hcommand] at h ⊢
    rcases hcall : (eval (manner.call command) b).1 with e' | code
    · rw [hcall] at h hfaithful
      cases h
      exact hfaithful rfl
    · rw [hcall] at h
      cases h
  cases op with
  | print lead text => exact Scan.faithful_printLead lead text
  | error text ec => exact Scan.faithful_error text ec
  | exec echo command => exact hcall rfl
  | output command => exact hcall rfl

/-! ## Runs -/

/-- What can happen to the record of a scan, one after the other. -/
inductive Action
  | operate (op : Operation)
  /-- A fatal error, with a code that says so. -/
  | fatal (text : String) (ec : Int) (hec : 1 ≤ ec)
  /-- A signal arrives. -/
  | raise (signal : Int)

namespace Action

def run : Action → Scan Unit
  | operate op => op.run
  | fatal text ec _ => Scan.failFatal text ec
  | raise signal => Scan.modifyMachine (·.raise signal)

/-- The entries of an action. -/
def entries : Action → Bench → List Entry
  | operate op, b => op.entries b
  | fatal _ ec _, b => b.fatalEntries ec
  | raise _, _ => []

/-- The bench after actions; those that fail do not keep the next ones from happening. -/
def after : List Action → Bench → Bench
  | [], b => b
  | action :: rest, b => after rest (eval action.run b).2

/-- All entries of actions, in order. -/
def ledger : List Action → Bench → List Entry
  | [], _ => []
  | action :: rest, b => action.entries b ++ ledger rest (eval action.run b).2

theorem booked_run (action : Action) (b : Bench) :
    Booked (action.entries b) b (eval action.run b).2 := by
  cases action with
  | operate op => exact op.booked_run b
  | fatal text ec _ => exact Scan.booked_failFatal text ec b
  | raise signal => exact SameCode.booked rfl

theorem booked_after (actions : List Action) (b : Bench) :
    Booked (ledger actions b) b (after actions b) := by
  induction actions generalizing b with
  | nil => exact SameCode.booked rfl
  | cons action rest ih => exact (booked_run action b).trans (ih _)

theorem faithful_run (action : Action) : Faithful action.run := by
  cases action with
  | operate op => exact op.faithful_run
  | fatal text ec hec => exact Scan.faithful_failFatal text hec
  | raise signal => exact .liftM _

end Action

namespace Record

theorem sameCode_writeMetadata (text : String) : Keeps SameCode (Scan.writeMetadata text) := by
  refine .bind (.liftM fun _ => rfl) fun _ => .ite (.bind (.throw _) fun _ => ?write) ?write
  exact .bind (.liftM fun _ => rfl) fun _ => .liftM (Scan.sameCode_logBytes _)

theorem sameCode_putMetadata (key value : String) :
    Keeps SameCode (Scan.putMetadata key value) :=
  (sameCode_writeMetadata _).bind fun _ => .liftM fun _ => rfl

/-- Results that are there have their directory and their first entries, and their record is new up
to these. -/
theorem exists_of_create {o : Options} {m m' : Machine} {b : Bench}
    (h : create o m = (.ok b, m')) : ∃ tmpdir tree t,
      m.tree.createDir tmpdir = .ok tree ∧ makeRoom (ofOptions o tmpdir) tree = (.ok (), t) ∧
        eval (begin o) { machine := { m with tree := t }, record := ofOptions o tmpdir } =
          (.ok (), b) := by
  unfold create at h
  dsimp only at h
  split at h
  · cases h
  · next hmade =>
    split at h
    · cases h
    · next hroom =>
      split at h
      · next hrun =>
        cases h
        exact ⟨_, _, _, hmade, hroom, hrun⟩
      · cases h

/-- New results have nothing on record. -/
theorem ec_of_create {o : Options} {m m' : Machine} {b : Bench}
    (h : create o m = (.ok b, m')) : b.record.ec = 0 := by
  have hbegin : Keeps SameCode (begin o) := by
    refine (sameCode_writeMetadata _).bind fun _ => .bind .get fun bench => ?_
    exact .forM (fun _ => sameCode_putMetadata _ _) _
  obtain ⟨tmpdir, -, t, -, -, hrun⟩ := exists_of_create h
  have hcode := hbegin { machine := { m with tree := t }, record := ofOptions o tmpdir }
  rw [hrun] at hcode
  exact hcode

end Record

/-- From new results on, the exit code is the greatest of zero and all codes on the ledger, after
any actions whatever. What comes next does not lower it, and if that is given up, then with the code
that is on record by then, which is not zero. -/
theorem Action.ec_eq_highest_ledger {o : Record.Options} {m m' : Machine} {b : Bench}
    (hcreate : Record.create o m = (.ok b, m')) (actions : List Action) :
    (after actions b).record.ec = ((ledger actions b).map Entry.code).foldl max 0 ∧
      ∀ next : Action,
        (after actions b).record.ec ≤ (eval next.run (after actions b)).2.record.ec ∧
        ∀ e, (eval next.run (after actions b)).1 = .error e →
          e = .fatal (eval next.run (after actions b)).2.record.ec ∧
            (eval next.run (after actions b)).2.record.ec ≠ 0 := by
  have hbooked := booked_after actions b
  rw [Booked, Record.ec_of_create hcreate] at hbooked
  refine ⟨hbooked, fun next => ⟨(next.booked_run _).le, ?_⟩⟩
  exact next.faithful_run (after actions b)

/-- An error with code 3 is on the ledger of new results, then a signal that arrives before a
command is started, and the fatal error that it leads to: the code is 143. -/
theorem Action.ec_eq_highest_ledger_interrupted :
    let m : Machine := { tree := { nodes := [(["tmp"], .dir)] } }
    let actions : List Action :=
      [operate (.error "no license" 3), raise 15, operate (.exec true (.argv ["make"]))]
    ∃ b m', Record.create { output := "out", keepGoing := true } m = (.ok b, m') ∧
      ledger actions b = [.failed 3, .caught 15, .stopped 143] ∧
      (after actions b).record.ec = 143 ∧
      ∀ next : Action, 143 ≤ (eval next.run (after actions b)).2.record.ec := by
  intro m actions
  obtain ⟨b, m', hcreate⟩ : ∃ b m',
      Record.create { output := "out", keepGoing := true } m = (.ok b, m') := by
    have hok : (Record.create { output := "out", keepGoing := true } m).1.isOk = true := by
      decide +kernel
    rcases hcreate : Record.create { output := "out", keepGoing := true } m with ⟨e | b, m'⟩
    · rw [hcreate] at hok
      cases hok
    · exact ⟨b, m', rfl⟩
  have hledger : ledger actions b = [.failed 3, .caught 15, .stopped 143] := by
    have hentries : (Record.create { output := "out", keepGoing := true } m).1.map
        (ledger actions) = .ok [.failed 3, .caught 15, .stopped 143] := by
      decide +kernel
    rw [hcreate] at hentries
    exact Except.ok.inj hentries
  obtain ⟨hec, hnext⟩ := ec_eq_highest_ledger hcreate actions
  rw [hledger] at hec
  have hcode : (after actions b).record.ec = 143 := hec.trans (by decide)
  refine ⟨b, m', hcreate, hledger, hcode, fun next => ?_⟩
  rw [← hcode]
  exact (hnext next).1

end ChrootScan
