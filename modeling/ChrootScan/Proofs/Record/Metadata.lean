import ChrootScan.Proofs.FileTree
import ChrootScan.Proofs.Record.Signals
import ChrootScan.Proofs.Text.Blanks

/-!
# The metadata

Entries go into the metadata as long as it is open (`Scan.eval_putMetadata`), and none does once it
is closed. Finishing the results closes it behind two last entries (`Record.seal`), the second of
which is the exit code, and only then hands the results over (`Record.deliver`).
-/

namespace ChrootScan

open Effect

/-! ## Numbers as they are written -/

namespace Text

/-- No blanks stand around a number. -/
theorem trim_toString (n : Int) : trim (toString n) = toString n := by
  have hdigit {c : Char} (hc : c.isDigit = true) : isBlank c = false := by
    rw [Char.isDigit, Bool.and_eq_true, decide_eq_true_eq, decide_eq_true_eq] at hc
    have hlow : 48 ≤ c.toNat := UInt32.le_iff_toNat_le.1 hc.1
    have hhigh : c.toNat ≤ 57 := UInt32.le_iff_toNat_le.1 hc.2
    exact isBlank_eq_false_of_isDigit (isDigit_of_toNat hlow hhigh)
  have hnat (k : Nat) : ∀ c ∈ k.repr.toList, isBlank c = false := by
    intro c hc
    rw [Nat.repr_eq_ofList_toDigits, String.toList_ofList] at hc
    exact hdigit (Nat.isDigit_of_mem_toDigits (by decide) (by decide) hc)
  have hsign : ∀ c ∈ "-".toList, isBlank c = false := by
    intro c hc
    obtain rfl : c = '-' := by simpa using hc
    rfl
  refine trim_eq_self ?_
  rw [Int.toString_eq_repr, Int.repr_eq_if]
  split
  · exact hnat _
  · rw [String.toList_append]
    exact List.forall_mem_append.2 ⟨hsign, hnat _⟩

end Text

/-! ## Writing into the log -/

/-- Nothing has happened from one bench to the other but that the log was written. -/
structure Logged (b b' : Bench) : Prop where
  withTree : ∃ t, b' = b.withTree t
  locate : ∀ follow path,
    b'.machine.tree.locate follow path = b.machine.tree.locate follow path
  /-- Files that are not the log are read as before. -/
  readBytes : ∀ path,
    b.machine.tree.locate true path ≠ b.machine.tree.locate true b.record.logPath →
      b'.machine.tree.readBytes path = b.machine.tree.readBytes path

namespace Logged

theorem record {b b' : Bench} (h : Logged b b') : b'.record = b.record := by
  obtain ⟨t, rfl⟩ := h.withTree
  rfl

instance : IsPreorder Bench Logged where
  refl b := ⟨⟨_, rfl⟩, fun _ _ => rfl, fun _ _ => rfl⟩
  trans a b c h h' := by
    refine ⟨?_, fun follow path => (h'.locate _ _).trans (h.locate _ _), fun path hpath => ?_⟩
    · obtain ⟨t, rfl⟩ := h.withTree
      obtain ⟨t', rfl⟩ := h'.withTree
      exact ⟨t', rfl⟩
    · have hpath' : b.machine.tree.locate true path ≠
          b.machine.tree.locate true b.record.logPath := by
        rwa [h.record, h.locate, h.locate]
      exact (h'.readBytes path hpath').trans (h.readBytes path hpath)

end Logged

/-- The bench with one more entry on record. -/
def Bench.entered (b : Bench) (entry : String × String) : Bench :=
  { b with record := { b.record with entries := b.record.entries ++ [entry] } }

/-- The file of the metadata holds these bytes, and is another one than the log. -/
structure Bench.MetadataHolds (b : Bench) (bytes : ByteArray) : Prop where
  readBytes : b.machine.tree.readBytes b.record.metadataPath = .ok bytes
  apart : b.machine.tree.locate true b.record.metadataPath ≠
    b.machine.tree.locate true b.record.logPath

namespace Bench.MetadataHolds

variable {b b' : Bench} {bytes : ByteArray}

theorem logged (h : b.MetadataHolds bytes) (hlogged : Logged b b') : b'.MetadataHolds bytes := by
  refine ⟨?_, ?_⟩
  · rw [hlogged.record, hlogged.readBytes _ h.apart]
    exact h.readBytes
  · rw [hlogged.record, hlogged.locate, hlogged.locate]
    exact h.apart

theorem appended (h : b.MetadataHolds bytes) (more : ByteArray) :
    (b.withTree (b.machine.tree.appendBytes b.record.metadataPath more)).MetadataHolds
      (bytes ++ more) := by
  refine ⟨FileTree.readBytes_appendBytes_self h.readBytes more, ?_⟩
  show FileTree.locate (FileTree.appendBytes _ _ _) _ _ ≠
    FileTree.locate (FileTree.appendBytes _ _ _) _ _
  rw [FileTree.locate_appendBytes, FileTree.locate_appendBytes]
  exact h.apart

theorem withRecord (h : b.MetadataHolds bytes) {r : Record} (hr : r.resdir = b.record.resdir) :
    ({ b with record := r } : Bench).MetadataHolds bytes := by
  have hmetadata : r.metadataPath = b.record.metadataPath := congrArg (Path.join · "scan.ini") hr
  have hlog : r.logPath = b.record.logPath := congrArg (Path.join · "scan.log") hr
  -- where the two files are depends on the directory of the results alone
  refine ⟨?_, ?_⟩
  · rw [hmetadata]
    exact h.readBytes
  · rw [hmetadata, hlog]
    exact h.apart

end Bench.MetadataHolds

namespace Scan

/-- Bytes go to the end of the log. -/
theorem logged_logBytes (bytes : ByteArray) : Moves Logged (logBytes bytes) := by
  intro b
  have hact : act (logBytes bytes) b =
      act (if b.record.logOpen then appendFile b.record.logPath bytes else pure ()) b := rfl
  rw [hact]
  split
  · exact ⟨⟨_, rfl⟩, b.machine.tree.locate_appendBytes _ _,
      fun _ hpath => FileTree.readBytes_appendBytes_of_ne hpath _⟩
  · exact refl_of Logged b

theorem logged_logStamped (lead text : String) : Moves Logged (logStamped lead text) :=
  .bind (fun b => refl_of Logged b) fun _ => logged_logBytes _

/-! ## Entries -/

/-- What holds across changes of files holds across writing into the metadata. -/
theorem keeps_writeMetadata {R : Bench → Bench → Prop} [IsPreorder Bench R]
    (hR : ∀ b t, R b (b.withTree t)) (text : String) : Keeps R (writeMetadata text) := by
  have hlog : Moves R (log ("scan.ini: " ++ text)) := by
    intro b
    obtain ⟨t, ht⟩ := act_log ("scan.ini: " ++ text) b
    rw [ht]
    exact hR b t
  refine .bind (.liftM fun b => refl_of R b) fun _ => .ite (.bind (.throw _) fun _ => ?write) ?write
  exact .bind (.liftM fun b => hR b _) fun _ => .liftM hlog

/-- What is written into the metadata goes into the log as well. -/
theorem eval_writeMetadata_eq {b : Bench} (h : b.record.metadataOpen = true) (text : String) :
    eval (writeMetadata text) b =
      (.ok (), (act (log ("scan.ini: " ++ text))
        (b.withTree (b.machine.tree.appendBytes b.record.metadataPath (Text.encode text)))).2) := by
  have hrecord : act getRecord b = (b.record, b) := rfl
  have happend : act (appendFile b.record.metadataPath (Text.encode text)) b =
      ((), b.withTree (b.machine.tree.appendBytes b.record.metadataPath (Text.encode text))) := rfl
  rw [writeMetadata, eval_liftM_bind, hrecord]
  simp only [h, Bool.not_true, Bool.false_eq_true, if_false]
  rw [eval_liftM_bind, happend, eval_liftM]

/-- Writing into metadata that is still written cannot fail, and goes behind what is written
already. -/
theorem eval_writeMetadata {b : Bench} (h : b.record.metadataOpen = true) (text : String) :
    ∃ t, eval (writeMetadata text) b = (.ok (), b.withTree t) ∧
      ∀ bytes, b.MetadataHolds bytes →
        (b.withTree t).MetadataHolds (bytes ++ Text.encode text) := by
  have hwrite := eval_writeMetadata_eq h text
  set written := b.withTree (b.machine.tree.appendBytes b.record.metadataPath (Text.encode text))
    with hwritten
  have hlogged : Logged written (act (log ("scan.ini: " ++ text)) written).2 :=
    logged_logBytes _ written
  obtain ⟨t, ht⟩ := hlogged.withTree
  refine ⟨t, ?_, fun bytes hbytes => ?_⟩
  · rw [hwrite, ht]
    rfl
  · have hholds := (hbytes.appended (Text.encode text)).logged hlogged
    rw [ht] at hholds
    exact hholds

/-- An entry of metadata that is still written cannot fail, and goes behind what is written
already. -/
theorem eval_putMetadata {b : Bench} (h : b.record.metadataOpen = true) (key value : String) :
    ∃ t, eval (putMetadata key value) b = (.ok (), (b.withTree t).entered (key, Text.trim value)) ∧
      ∀ bytes, b.MetadataHolds bytes →
        ((b.withTree t).entered (key, Text.trim value)).MetadataHolds
          (bytes ++ Text.encode (Record.metadataLine key value)) := by
  obtain ⟨t, hwrite, hholds⟩ := eval_writeMetadata h (Record.metadataLine key value)
  exact ⟨t, eval_bind_ok hwrite _, fun bytes hbytes => (hholds bytes hbytes).withRecord rfl⟩

/-- Metadata that is closed stays as it is. -/
theorem eval_putMetadata_of_closed {b : Bench} (h : b.record.metadataOpen = false)
    (key value : String) :
    eval (putMetadata key value) b =
      (.error (.system (.other "scan.ini has already been closed")), b) := by
  have hwrite : eval (writeMetadata (Record.metadataLine key value)) b =
      (.error (.system (.other "scan.ini has already been closed")), b) := by
    have hrecord : act getRecord b = (b.record, b) := rfl
    rw [writeMetadata, eval_liftM_bind, hrecord]
    simp only [h, Bool.not_false, if_true]
    rfl
  exact eval_bind_error hwrite _

/-- An entry leaves all files as they are but the metadata and the log. -/
theorem readBytes_putMetadata {b : Bench} (key value : String) {path : String}
    (hmetadata : b.machine.tree.locate true path ≠
      b.machine.tree.locate true b.record.metadataPath)
    (hlog : b.machine.tree.locate true path ≠ b.machine.tree.locate true b.record.logPath) :
    (eval (putMetadata key value) b).2.machine.tree.readBytes path =
      b.machine.tree.readBytes path := by
  cases hopen : b.record.metadataOpen with
  | false => rw [eval_putMetadata_of_closed hopen]
  | true =>
    set written := b.withTree (b.machine.tree.appendBytes b.record.metadataPath
      (Text.encode (Record.metadataLine key value))) with hwritten
    have hlogged : Logged written
        (act (log ("scan.ini: " ++ Record.metadataLine key value)) written).2 :=
      logged_logBytes _ written
    have hapart : written.machine.tree.locate true path ≠
        written.machine.tree.locate true written.record.logPath := by
      rwa [hwritten, Bench.withTree, FileTree.locate_appendBytes, FileTree.locate_appendBytes]
    rw [putMetadata, eval_bind_ok (eval_writeMetadata_eq hopen _)]
    exact (hlogged.readBytes path hapart).trans
      (FileTree.readBytes_appendBytes_of_ne hmetadata _)

end Scan

/-! ## Finishing -/

namespace Record

/-- Closes the metadata behind its last two entries; `r` is the record before. -/
def closeMetadata (r : Record) : Scan Unit := do
  if r.metadataOpen then
    Scan.putMetadata "time-finished" (← get).machine.clock
    Scan.putMetadata "exit-code" (toString r.ec)
    Scan.modifyRecord fun r => { r with metadataOpen := false }

/-- Closes the log behind its last lines. -/
def closeLog (r : Record) : StateM Bench Unit := do
  if r.noClean then
    Scan.logStamped Scan.infoLead ("temporary directory preserved: " ++ r.tmpdir)
  Scan.logStamped Scan.doneLead (r.tool ++ " exit code: " ++ toString r.ec ++ "\n")
  Scan.modifyRecord fun r => { r with logOpen := false }

/-- Closes the metadata and the log. -/
def close (r : Record) : Scan Unit := do
  closeMetadata r
  closeLog r

/-- Writes the tarball and removes the temporary directory; `r` is the record before. -/
def deliver (r : Record) : Scan Int := do
  match ← pack with
  | .error _ => throw (.fatal (max r.ec 1))
  | .ok () =>
    if !r.noClean then dropTmpdir
    return r.ec

/-- Finishing the results is closing them and handing them over. -/
theorem finish_eq : finish = (do
    let r ← Scan.getRecord
    close r
    deliver r) := by
  refine eval_ext fun b => ?_
  have hrecord : act Scan.getRecord b = (b.record, b) := rfl
  rw [finish, eval_liftM_bind, eval_liftM_bind, hrecord]
  unfold close closeMetadata closeLog deliver
  -- both sides ask whether the metadata is open and whether files are to stay, and go on alike
  cases hopen : b.record.metadataOpen <;> cases hkept : b.record.noClean <;>
    simp only [Bool.false_eq_true, if_true, if_false, bind_assoc] <;> rfl

/-- The record of results whose metadata was closed at a time of day. -/
def closedAt (r : Record) (clock : String) : Record :=
  { r with
    entries := r.entries ++
      [("time-finished", Text.trim clock), ("exit-code", toString r.ec)]
    metadataOpen := false }

theorem getLast?_entries_closedAt (r : Record) (clock : String) :
    (r.closedAt clock).entries.getLast? = some ("exit-code", toString r.ec) := by
  rw [closedAt, List.append_cons, List.getLast?_concat]

/-- What is written into the metadata when results are closed at a time of day. -/
def lastLines (r : Record) (clock : String) : ByteArray :=
  Text.encode (metadataLine "time-finished" clock) ++
    Text.encode (metadataLine "exit-code" (toString r.ec))

/-- Closing metadata that is still written cannot fail, and what is written last is the exit code. -/
theorem eval_closeMetadata {b : Bench} (h : b.record.metadataOpen = true) :
    ∃ t, eval (closeMetadata b.record) b =
        (.ok (), { b.withTree t with record := b.record.closedAt b.machine.clock }) ∧
      ∀ old, b.MetadataHolds old →
        ({ b.withTree t with record := b.record.closedAt b.machine.clock } : Bench).MetadataHolds
          (old ++ b.record.lastLines b.machine.clock) := by
  obtain ⟨t₁, hput₁, hholds₁⟩ := Scan.eval_putMetadata h "time-finished" b.machine.clock
  set timed := (b.withTree t₁).entered ("time-finished", Text.trim b.machine.clock) with htimed
  have hopen : timed.record.metadataOpen = true := h
  obtain ⟨t₂, hput₂, hholds₂⟩ := Scan.eval_putMetadata hopen "exit-code" (toString b.record.ec)
  set coded := (timed.withTree t₂).entered ("exit-code", Text.trim (toString b.record.ec)) with hcoded
  -- the two entries stand behind the others, one after the other, and no blank was cut off the code
  have hrecord : { coded.record with metadataOpen := false } =
      b.record.closedAt b.machine.clock := by
    rw [hcoded, Text.trim_toString, closedAt, List.append_cons]
    rfl
  refine ⟨t₂, ?_, fun old hold => ?_⟩
  · rw [closeMetadata, if_pos h, eval_get_bind, eval_bind_ok hput₁, eval_bind_ok hput₂, eval_liftM,
      ← hrecord]
    rfl
  · rw [lastLines, ← ByteArray.append_assoc]
    exact (hholds₂ _ (hholds₁ old hold)).withRecord rfl

/-- Closing the log writes nothing but the log. -/
theorem act_closeLog (r : Record) (b : Bench) :
    ∃ logged, Logged b logged ∧ act (closeLog r) b =
      ((), { logged with record := { logged.record with logOpen := false } }) := by
  have hstamps : Moves Logged (do
      if r.noClean then
        Scan.logStamped Scan.infoLead ("temporary directory preserved: " ++ r.tmpdir)
      Scan.logStamped Scan.doneLead (r.tool ++ " exit code: " ++ toString r.ec ++ "\n")) :=
    .ite (.bind (Scan.logged_logStamped _ _) fun _ => Scan.logged_logStamped _ _)
      (Scan.logged_logStamped _ _)
  refine ⟨_, hstamps b, ?_⟩
  rw [closeLog]
  split
  · rfl
  · rfl

end Record

/-- The bench once its results are closed. -/
def Bench.closed (b : Bench) : Bench :=
  (eval (Record.close b.record) b).2

namespace Record

/-- Closing results that are still written cannot fail; the exit code is the last entry, and the last
line in the metadata. -/
theorem eval_close {b : Bench} (h : b.record.metadataOpen = true) :
    eval (close b.record) b = (.ok (), b.closed) ∧
      b.closed.record = { b.record.closedAt b.machine.clock with logOpen := false } ∧
      ∀ old, b.MetadataHolds old →
        b.closed.MetadataHolds (old ++ b.record.lastLines b.machine.clock) := by
  obtain ⟨t, hrun, hholds⟩ := eval_closeMetadata h
  obtain ⟨logged, hlogged, hlog⟩ :=
    act_closeLog b.record { b.withTree t with record := b.record.closedAt b.machine.clock }
  have hclose : eval (close b.record) b =
      (.ok (), { logged with record := { logged.record with logOpen := false } }) := by
    rw [close, eval_bind_ok hrun, eval_liftM, hlog]
  rw [Bench.closed, hclose]
  refine ⟨rfl, ?_, fun old hold => ?_⟩
  · rw [hlogged.record]
  · exact ((hholds old hold).logged hlogged).withRecord rfl

/-- Handing the results over leaves the record as it is, and succeeds if they are packed. -/
theorem eval_deliver (r : Record) (b : Bench) :
    (eval (deliver r) b).2.record = b.record ∧
      ((act pack b).1 = .ok () → (eval (deliver r) b).1 = .ok r.ec) := by
  have hpack : (act pack b).2.record = b.record := rfl
  rw [deliver, eval_liftM_bind]
  rcases (act pack b).1 with e | ⟨⟩
  · exact ⟨hpack, nofun⟩
  · dsimp only
    split
    · exact ⟨hpack, fun _ => rfl⟩
    · exact ⟨hpack, fun _ => rfl⟩

/-- Results that are still written and can be packed are finished with the code on record. -/
theorem eval_finish {b : Bench} (h : b.record.metadataOpen = true)
    (hpacked : (act pack b.closed).1 = .ok ()) :
    ∃ left, eval finish b = (.ok b.record.ec, left) ∧
      left.record = { b.record.closedAt b.machine.clock with logOpen := false } := by
  have hrecord : act Scan.getRecord b = (b.record, b) := rfl
  obtain ⟨hclose, hclosed, -⟩ := eval_close h
  obtain ⟨hkept, hdelivered⟩ := eval_deliver b.record b.closed
  refine ⟨(eval (deliver b.record) b.closed).2, ?_, hkept.trans hclosed⟩
  rw [finish_eq, eval_liftM_bind, hrecord, eval_bind_ok hclose, ← hdelivered hpacked]

end Record
end ChrootScan
