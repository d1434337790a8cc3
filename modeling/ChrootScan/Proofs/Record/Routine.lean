import ChrootScan.Proofs.Record.Ledger
import ChrootScan.Proofs.Record.Metadata

/-!
# Routine work

Phases and hooks are put together from a few steps: lines of the log, errors, commands, entries of
the metadata and changes of files. `Scan.Routine` says that work is. What every such step keeps is
kept by routine work as a whole (`Scan.Routine.keeps`), whether it is given up or not; and if it is
given up for good, then with the code on record (`Scan.Routine.accounted`).
-/

namespace ChrootScan

open Effect

/-! ## Benches that programs leave sound -/

namespace Machine

/-- No program ends with a code below zero, whichever of the signals that reach the scan meanwhile is
passed on to it: what the system reports of an ending is a byte, or a signal on top of 128. -/
def Exits (m : Machine) : Prop :=
  ∀ n t vars argv run, m.behaviour n t vars argv = .started run →
    ∀ passedOn : Option Int, (∀ signal ∈ passedOn, signal ∈ run.arrivals ++ m.awaited) →
      0 ≤ (run.ending passedOn).code

/-- Programs behave as before, and no other signals wait for one of them. -/
structure SamePrograms (m m' : Machine) : Prop where
  behaviour : m'.behaviour = m.behaviour
  awaited : m'.awaited ⊆ m.awaited

instance : IsPreorder Machine SamePrograms where
  refl m := ⟨rfl, List.Subset.refl m.awaited⟩
  trans _ _ _ h h' := ⟨h'.behaviour.trans h.behaviour, List.Subset.trans h'.awaited h.awaited⟩

/-- Where programs behave as before, and no more signals wait for them, they end as before. -/
theorem Exits.of_same {m m' : Machine} (h : m.Exits) (hsame : m.SamePrograms m') : m'.Exits := by
  intro n t vars argv run hrun passedOn hpassed
  rw [hsame.behaviour] at hrun
  refine h n t vars argv run hrun passedOn fun signal hsignal => ?_
  have hmem := hpassed signal hsignal
  rw [List.mem_append] at hmem ⊢
  exact hmem.imp_right fun h => hsame.awaited h

end Machine

/-- A bench on which the code on record can be trusted, and the metadata is still written. -/
structure Bench.Sound (b : Bench) : Prop where
  exits : b.machine.Exits
  nonneg : 0 ≤ b.record.ec
  metadataOpen : b.record.metadataOpen = true

/-- The programs are the same, and nothing but the code, the dying flag and the metadata has changed
on record. -/
structure Steady (b b' : Bench) : Prop where
  programs : b.machine.SamePrograms b'.machine
  record : ∃ ec dying entries,
    b'.record = { b.record with ec := ec, dying := dying, entries := entries }

/-- A relation holds across every step that routine work is put together from; `marks` says that what
is known of the chroot may change. -/
structure RoutineKept (R : Bench → Bench → Prop) (marks : Prop) : Prop extends WorkKept R where
  entry : ∀ b entry, R b (b.entered entry)
  runInherited : ∀ b argv, R b (b.withMachine (b.machine.runInherited argv).2)
  request : ∀ b url, R b (b.withMachine (b.machine.request url).2)
  mark : marks → ∀ b (f : Chroot → Chroot), R b { b with chroot := f b.chroot }

/-- A relation that holds where the chroot may change holds where it may not. -/
theorem RoutineKept.mono {R : Bench → Bench → Prop} {marks marks' : Prop} (h : RoutineKept R marks)
    (hmarks : marks' → marks) : RoutineKept R marks' :=
  { h with mark := fun h' => h.mark (hmarks h') }

/-- What elementary steps keep, an entry of the metadata keeps. -/
theorem RoutineKept.putMetadata {R : Bench → Bench → Prop} [IsPreorder Bench R] {marks : Prop}
    (h : RoutineKept R marks) (key value : String) : Keeps R (Scan.putMetadata key value) :=
  (Scan.keeps_writeMetadata h.withTree _).bind fun _ => .liftM fun b => h.entry b _

/-- Routine work takes nothing back, not even entries of the metadata or requests. -/
theorem Onward.routineKept : RoutineKept Onward True where
  toWorkKept := workKept
  entry _ _ := ⟨List.prefix_rfl, le_refl _, id⟩
  runInherited b argv := ⟨b.machine.prefix_calls_runInherited argv, le_refl _, id⟩
  request _ _ := ⟨List.prefix_rfl, le_refl _, id⟩
  mark _ _ _ := ⟨List.prefix_rfl, le_refl _, id⟩

/-- What is known of the chroot is the same. -/
def SameChroot (b b' : Bench) : Prop :=
  b'.chroot = b.chroot

instance : IsPreorder Bench SameChroot where
  refl _ := rfl
  trans _ _ _ h h' := h'.trans h

/-- Routine work that marks nothing leaves what is known of the chroot alone. -/
theorem SameChroot.routineKept : RoutineKept SameChroot False where
  withTree _ _ := rfl
  look b := b.still_look.chroot
  start _ _ := rfl
  forward _ _ _ := rfl
  raise _ _ _ := rfl
  caught _ _ _ := rfl
  raiseCode _ _ := rfl
  dying _ := rfl
  entry _ _ := rfl
  runInherited _ _ := rfl
  request _ _ := rfl
  mark h := h.elim

namespace Machine

/-- Starting a program may take signals out of the wait, and brings none in. -/
theorem samePrograms_start (m : Machine) (argv : List String) :
    m.SamePrograms (m.start argv).2 := by
  obtain ⟨cause, -, hstart⟩ | ⟨run, t, -, hstart⟩ := m.start_cases argv
  · rw [hstart]
    exact ⟨rfl, List.Subset.refl _⟩
  · rw [hstart]
    refine ⟨rfl, ?_⟩
    dsimp only
    split
    · exact List.nil_subset _
    · exact List.Subset.refl _

/-- Running a program to its end leaves the programs as they are. -/
theorem samePrograms_runToEnd (m : Machine) (argv : List String) :
    m.SamePrograms (m.runToEnd argv).2 := by
  rw [runToEnd_snd]
  exact m.samePrograms_start argv

/-- A program that writes to standard output itself changes as little. -/
theorem samePrograms_runInherited (m : Machine) (argv : List String) :
    m.SamePrograms (m.runInherited argv).2 := by
  obtain ⟨out, hrun⟩ := m.runInherited_eq argv
  rw [hrun]
  exact ⟨(m.samePrograms_start argv).behaviour, (m.samePrograms_start argv).awaited⟩

/-- Passing a signal on is running one more program. -/
theorem samePrograms_forward (m : Machine) (signal : Int) (process : String) :
    m.SamePrograms (m.forward signal process).2 := by
  rw [forward_snd]
  exact m.samePrograms_runInherited _

/-- A program that was started ends with no code below zero, whichever of the signals that reach the
scan meanwhile is passed on to it. -/
theorem Exits.of_start {m m' : Machine} (h : m.Exits) {argv : List String} {run : ChildRun}
    (hstart : m.start argv = (.ok run, m')) {passedOn : Option Int}
    (hpassed : ∀ signal ∈ passedOn, signal ∈ run.arrivals) : 0 ≤ (run.ending passedOn).code := by
  obtain ⟨cause, -, hrefused⟩ | ⟨started, t, hbehaviour, hstarted⟩ := m.start_cases argv
  · rw [hrefused] at hstart
    cases hstart
  · rw [hstarted] at hstart
    cases hstart
    refine h _ _ _ _ _ hbehaviour _ fun signal hsignal => ?_
    have hmem := hpassed signal hsignal
    rw [List.mem_append] at hmem ⊢
    refine hmem.imp_right fun h => ?_
    split at h
    · exact h
    · cases h

end Machine

namespace Steady

instance : IsPreorder Bench Steady where
  refl b := ⟨refl_of Machine.SamePrograms b.machine, _, _, _, rfl⟩
  trans := by
    rintro a b c ⟨hab, _, _, _, hrecord⟩ ⟨hbc, ec, dying, entries, hrecord'⟩
    exact ⟨trans_of Machine.SamePrograms hab hbc, ec, dying, entries, by rw [hrecord', hrecord]⟩

/-- Routine work leaves the bench steady. -/
theorem routineKept : RoutineKept Steady True where
  withTree b _ := ⟨⟨rfl, List.Subset.refl b.machine.awaited⟩, _, _, _, rfl⟩
  look b := by
    obtain ⟨t, ht⟩ := b.look_eq
    obtain ⟨ec, dying, hrecord⟩ := b.still_look.record
    rw [ht] at hrecord ⊢
    exact ⟨⟨rfl, List.Subset.refl b.machine.awaited⟩, ec, dying, _, hrecord⟩
  start b argv := ⟨b.machine.samePrograms_start argv, _, _, _, rfl⟩
  forward b signal process := ⟨b.machine.samePrograms_forward signal process, _, _, _, rfl⟩
  raise b _ _ := ⟨⟨rfl, List.Subset.refl b.machine.awaited⟩, _, _, _, rfl⟩
  caught b _ _ := ⟨refl_of Machine.SamePrograms b.machine, _, _, _, Record.raiseCode_eq _ _⟩
  raiseCode b _ := ⟨refl_of Machine.SamePrograms b.machine, _, _, _, Record.raiseCode_eq _ _⟩
  dying b := ⟨refl_of Machine.SamePrograms b.machine, _, _, _, rfl⟩
  entry b _ := ⟨refl_of Machine.SamePrograms b.machine, _, _, _, rfl⟩
  runInherited b argv := ⟨b.machine.samePrograms_runInherited argv, _, _, _, rfl⟩
  request b _ := ⟨⟨rfl, List.Subset.refl b.machine.awaited⟩, _, _, _, rfl⟩
  mark _ b _ := ⟨refl_of Machine.SamePrograms b.machine, _, _, _, rfl⟩

end Steady

/-- A sound bench stays sound as long as the code on record does not drop. -/
theorem Bench.Sound.of_steady {b b' : Bench} (h : b.Sound) (hsteady : Steady b b')
    (hle : b.record.ec ≤ b'.record.ec) : b'.Sound := by
  obtain ⟨hprograms, ec, dying, entries, hrecord⟩ := hsteady
  refine ⟨h.exits.of_same hprograms, h.nonneg.trans hle, ?_⟩
  rw [hrecord]
  exact h.metadataOpen

theorem Bench.Sound.withTree {b : Bench} (h : b.Sound) (t : FileTree) : (b.withTree t).Sound :=
  ⟨h.exits, h.nonneg, h.metadataOpen⟩

/-- New results are sound. -/
theorem Record.sound_of_create {o : Options} {m m' : Machine} {b : Bench} (hexits : m.Exits)
    (h : create o m = (.ok b, m')) : b.Sound := by
  have hbegin : Keeps Steady (begin o) :=
    (Scan.keeps_writeMetadata Steady.routineKept.withTree _).bind fun _ => .bind .get fun _ =>
      .forM (fun _ => Steady.routineKept.putMetadata _ _) _
  obtain ⟨tmpdir, -, t, -, -, hrun⟩ := exists_of_create h
  have hsteady := hbegin { machine := { m with tree := t }, record := ofOptions o tmpdir }
  rw [hrun] at hsteady
  refine Bench.Sound.of_steady ⟨hexits, le_rfl, rfl⟩ hsteady ?_
  exact (ec_of_create h).ge

/-- What is delivered of a signal is the signal, or nothing. -/
theorem Scan.act_passOn (signal : Int) (b : Bench) :
    (act (passOn signal) b).1 = some signal ∨ (act (passOn signal) b).1 = none := by
  rw [passOn, act_bind, act_bind]
  split
  · exact .inl rfl
  · exact .inr rfl

/-- The last signal delivered is one of those that were to be passed on. -/
theorem Scan.mem_of_passOnAll {signals : List Int} {delivered : Option Int} {b : Bench}
    {signal : Int} (h : signal ∈ (act (passOnAll delivered signals) b).1) :
    signal ∈ delivered ∨ signal ∈ signals := by
  induction signals generalizing delivered b with
  | nil => exact .inl h
  | cons first signals ih =>
    rw [passOnAll, act_bind] at h
    obtain hnow | hlater := ih h
    · obtain hpassed | hpassed := act_passOn first b
      · rw [hpassed, Option.some_or, Option.mem_some_iff] at hnow
        exact .inr (hnow ▸ List.mem_cons_self)
      · rw [hpassed, Option.none_or] at hnow
        exact .inl hnow
    · exact .inr (List.mem_cons_of_mem _ hlater)

/-- A child ends as it does when nothing is passed on to it, or one of the signals that reach the
scan meanwhile. -/
theorem Manner.exists_ending (manner : Manner) (run : ChildRun) (b : Bench) :
    ∃ passedOn : Option Int, (∀ signal ∈ passedOn, signal ∈ run.arrivals) ∧
      (act (manner.attend run) b).1 = run.ending passedOn := by
  cases manner with
  | logged echo =>
    refine ⟨_, fun signal h => ?_, rfl⟩
    exact (Scan.mem_of_passOnAll h).resolve_left nofun
  | captured => exact ⟨none, nofun, rfl⟩

/-- A command that was run has a code that is not below zero. -/
theorem Manner.nonneg_of_eval_call {manner : Manner} {command : Shell.Command} {b b' : Bench}
    (h : b.machine.Exits) {code : Int} (hcall : eval (manner.call command) b = (.ok code, b')) :
    0 ≤ code := by
  rw [eval_call] at hcall
  rcases happroach : eval (manner.approach command) b with ⟨e | ⟨⟩, ready⟩
  · rw [happroach] at hcall
    cases hcall
  rw [happroach] at hcall
  -- up to the start of the program nothing but the scan itself has run
  have hexits : ready.machine.Exits := by
    have hsteady : Steady b ready := by
      have hkept : Keeps Steady (manner.approach command) :=
        Steady.routineKept.checkpoint.bind fun _ =>
          .ite (Steady.routineKept.printLead _ _) (.pure _)
      have := hkept b
      rwa [happroach] at this
    exact h.of_same hsteady.programs
  rcases hstart : ready.machine.start command.program with ⟨cause | run, started⟩
  · dsimp only at hcall
    rw [Scan.act_start, hstart] at hcall
    cases hcall
    cases cause <;> simp [Scan.refusalCode]
  · -- the child ends by what was passed on to it, which is one of the signals that have arrived
    obtain ⟨passedOn, hpassed, hcode⟩ := manner.exists_ending run (ready.withMachine started)
    dsimp only at hcall
    rw [Scan.act_start, hstart] at hcall
    dsimp only at hcall
    rw [hcode] at hcall
    split at hcall
    · cases hcall
    · cases hcall
      exact hexits.of_start hstart hpassed

/-! ## Routine work -/

namespace Scan

/-- A command whose output is logged is given up with the code on record. -/
theorem faithful_execWith (echo : Bool) (command : Shell.Command) :
    Faithful (execWith echo command) := by
  intro b e h
  rw [Manner.eval_execWith] at h ⊢
  exact Manner.faithful_call _ command b e h

/-- A command whose output is captured is given up with the code on record. -/
theorem faithful_output (command : Shell.Command) : Faithful (output command) := by
  intro b e h
  obtain ⟨out, hout⟩ := Manner.eval_output command b
  have hcall := Manner.captured.faithful_call command b e
  rw [hout] at h ⊢
  rcases hresult : (eval (Manner.captured.call command) b).1 with e' | code
  · rw [hresult] at h hcall
    cases h
    exact hcall rfl
  · rw [hresult] at h
    cases h

/-- The code that comes with an output is not below zero. -/
theorem nonneg_of_eval_output {command : Shell.Command} {b b' : Bench} (h : b.machine.Exits)
    {code : Int} {text : String} (hrun : eval (output command) b = (.ok (code, text), b')) :
    0 ≤ code := by
  obtain ⟨out, hout⟩ := Manner.eval_output command b
  rw [hout] at hrun
  rcases hcall : eval (Manner.captured.call command) b with ⟨e | code', left⟩
  · rw [hcall] at hrun
    cases hrun
  · rw [hcall] at hrun
    cases hrun
    exact Manner.nonneg_of_eval_call h hcall

/-! ### Steps that are not given up for good -/

/-- A change of the files is done or refused. -/
theorem eval_changingFiles (f : FileTree → Except SystemError FileTree) (b : Bench) :
    eval (changingFiles f) b = match f b.machine.tree with
      | .ok tree => (.ok (), b.withTree tree)
      | .error e => (.error (.system e), b) := by
  have hchange : act (changeFiles f) b = match f b.machine.tree with
      | .ok tree => (.ok (), b.withTree tree)
      | .error e => (.error e, b) := by
    rw [changeFiles, act_bind, act_get]
    rcases f b.machine.tree with e | tree
    · rfl
    · rfl
  rw [changingFiles, eval_liftM_bind, hchange]
  rcases f b.machine.tree with e | tree
  · rfl
  · rfl

/-! ### What routine work is -/

/-- Asks for the output of a command that stops the scan, with its own code, if it fails. -/
def demand (command : Shell.Command) (text : String) : Scan String := do
  let (code, out) ← output command
  if code ≠ 0 then failFatal text code else return out

/-- Work that is put together from the steps of phases and hooks; `marks` says that it may change what
is known of the chroot. -/
inductive Routine (marks : Prop) : {α : Type} → Scan α → Prop
  | pure {α : Type} (a : α) : Routine marks (pure a)
  | bind {α β : Type} {x : Scan α} {f : α → Scan β} (hx : Routine marks x)
      (hf : ∀ a, Routine marks (f a)) : Routine marks (x >>= f)
  /-- What is done depends on the bench. -/
  | depends {α : Type} {x : Scan α} (y : Bench → Scan α) (hy : ∀ b, Routine marks (y b))
      (hx : ∀ b, eval x b = eval (y b) b) : Routine marks x
  /-- An error that is not on record. -/
  | refuse {α : Type} {e : ScanError} (he : e.isFatal = false) : Routine marks (throw e : Scan α)
  | printLead (lead text : String) : Routine marks (printLead lead text)
  | error (text : String) (ec : Int) : Routine marks (error text ec)
  | failFatal {α : Type} (text : String) {ec : Int} (hec : 1 ≤ ec) :
      Routine marks (failFatal text ec : Scan α)
  | execWith (echo : Bool) (command : Shell.Command) : Routine marks (execWith echo command)
  | output (command : Shell.Command) : Routine marks (output command)
  | demand (command : Shell.Command) (text : String) : Routine marks (demand command text)
  | runInherited (argv : List String) :
      Routine marks (liftM (onMachine fun m => m.runInherited argv) : Scan (Except SystemError Ending))
  | putMetadata (key value : String) : Routine marks (putMetadata key value)
  | changingFiles (f : FileTree → Except SystemError FileTree) : Routine marks (changingFiles f)
  | mark (h : marks) (f : Chroot → Chroot) :
      Routine marks (modify fun b => { b with chroot := f b.chroot } : Scan PUnit)

namespace Routine

variable {marks : Prop} {α β : Type}

theorem get : Routine marks (get : Scan Bench) :=
  .depends (fun b => Pure.pure b) (fun _ => .pure _) fun _ => rfl

theorem getRecord : Routine marks (liftM Scan.getRecord : Scan Record) :=
  .depends (fun b => Pure.pure b.record) (fun _ => .pure _) fun _ => rfl

theorem files : Routine marks (liftM Scan.files : Scan FileTree) :=
  .depends (fun b => Pure.pure b.machine.tree) (fun _ => .pure _) fun _ => rfl

theorem ite {c : Prop} [Decidable c] {x y : Scan α} (hx : Routine marks x) (hy : Routine marks y) :
    Routine marks (if c then x else y) := by
  split
  · exact hx
  · exact hy

theorem forM {f : β → Scan PUnit} (hf : ∀ b, Routine marks (f b)) (list : List β) :
    Routine marks (list.forM f) := by
  induction list with
  | nil => exact .pure _
  | cons b list ih => exact (hf b).bind fun _ => ih

theorem exec (command : Shell.Command) : Routine marks (exec command) :=
  .execWith true command

theorem print (text : String) : Routine marks (print text) :=
  .printLead infoLead text

/-- What every step keeps, routine work keeps. -/
theorem keeps {R : Bench → Bench → Prop} [IsPreorder Bench R] (hR : RoutineKept R marks)
    {x : Scan α} (hx : Routine marks x) : Keeps R x := by
  induction hx with
  | pure a => exact .pure a
  | bind _ _ ihx ihf => exact ihx.bind ihf
  | depends y _ hx ih =>
    intro b
    rw [hx]
    exact ih b b
  | refuse => exact .throw _
  | printLead lead text => exact hR.printLead lead text
  | error text ec => exact hR.error text ec
  | failFatal text => exact .bind (.liftM (hR.fatal _ _)) fun _ => .throw _
  | execWith echo command => exact hR.execWith echo command
  | output command => exact hR.output command
  | demand command text =>
    refine (hR.output command).bind fun _ => .ite ?_ (.pure _)
    exact .bind (.liftM (hR.fatal _ _)) fun _ => .throw _
  | runInherited argv => exact fun b => hR.runInherited b argv
  | putMetadata key value => exact hR.putMetadata key value
  | changingFiles f =>
    have hchange : Moves R (changeFiles f) := by
      refine .bind (fun b => refl_of R b) fun b => ?_
      rcases f b.machine.tree with e | tree
      · exact .pure _
      · exact .bind (fun b => hR.withTree b tree) fun _ => .pure _
    refine .bind (.liftM hchange) fun answer => ?_
    cases answer with
    | error => exact .throw _
    | ok => exact .pure _
  | mark h f => exact fun b => hR.mark h b f

/-- Routine work leaves the code on record and the metadata as they can be trusted. -/
theorem sound {x : Scan α} (hx : Routine marks x) {b : Bench} (h : b.Sound) :
    (eval x b).2.Sound :=
  h.of_steady (hx.keeps (Steady.routineKept.mono fun _ => trivial) b)
    (hx.keeps (Onward.routineKept.mono fun _ => trivial) b).ec

variable {b : Bench} {e : ScanError}

/-- On a sound bench a code that is not zero is positive. -/
theorem accounted_of_faithful {x : Scan α} (hx : Routine marks x) (hfaithful : Faithful x)
    (h : b.Sound) (he : (eval x b).1 = .error e) :
    e = .fatal (eval x b).2.record.ec ∧ 1 ≤ (eval x b).2.record.ec := by
  obtain ⟨hcode, hne⟩ := hfaithful b e he
  have hnonneg := (hx.sound h).nonneg
  exact ⟨hcode, by omega⟩

/-- A question that has to be answered is given up with the code on record: the command may stop the
scan itself, or it ends with a code, which is then that of the fatal error. -/
theorem accounted_demand (command : Shell.Command) (text : String) (h : b.Sound)
    (he : (eval (Scan.demand command text) b).1 = .error e) :
    e = .fatal (eval (Scan.demand command text) b).2.record.ec ∧
      1 ≤ (eval (Scan.demand command text) b).2.record.ec := by
  have houtput : Routine False (Scan.output command) := .output command
  rcases hrun : eval (Scan.output command) b with ⟨e' | ⟨code, out⟩, b'⟩
  · have hstopped := fun he => houtput.accounted_of_faithful (e := e) (faithful_output command) h he
    rw [hrun] at hstopped
    rw [Scan.demand, eval_bind_error hrun] at he ⊢
    cases he
    exact hstopped rfl
  · have hcode := nonneg_of_eval_output h.exits hrun
    have hb' := houtput.sound h
    rw [hrun] at hb'
    rw [Scan.demand, eval_bind_ok hrun] at he ⊢
    by_cases hzero : code = 0
    · simp only [hzero, ne_eq, not_true_eq_false, if_false, eval_pure] at he
      cases he
    · simp only [ne_eq, hzero, not_false_eq_true, if_true] at he ⊢
      have hpos : 1 ≤ code := by omega
      have hfatal : Routine False (Scan.failFatal text code : Scan String) := .failFatal text hpos
      exact hfatal.accounted_of_faithful (faithful_failFatal text hpos) hb' he

/-- Routine work that is given up for good carries the code on record, which is not zero. -/
theorem accounted {x : Scan α} (hx : Routine marks x) (h : b.Sound)
    (he : (eval x b).1 = .error e) (hfatal : e.isFatal = true) :
    e = .fatal (eval x b).2.record.ec ∧ 1 ≤ (eval x b).2.record.ec := by
  -- the bench changes with every step, and each leaves a sound one to the next
  induction hx generalizing b with
  | pure => cases he
  | @bind _ _ x f hx hf ihx ihf =>
    rcases hrun : eval x b with ⟨e' | a, b'⟩
    · have hx' := ihx h
      rw [hrun] at hx'
      rw [eval_bind_error hrun] at he ⊢
      cases he
      exact hx' rfl
    · have hb' := hx.sound h
      rw [hrun] at hb'
      rw [eval_bind_ok hrun] at he ⊢
      exact ihf a hb' he
  | depends y hy hxy ih =>
    rw [hxy] at he ⊢
    exact ih b h he
  | refuse hnot =>
    cases he
    rw [hnot] at hfatal
    cases hfatal
  | printLead lead text =>
    have hx : Routine marks (Scan.printLead lead text) := .printLead lead text
    exact hx.accounted_of_faithful (faithful_printLead lead text) h he
  | error text ec =>
    have hx : Routine marks (Scan.error text ec) := .error text ec
    exact hx.accounted_of_faithful (faithful_error text ec) h he
  | @failFatal α text ec hec =>
    have hx : Routine marks (Scan.failFatal text ec : Scan α) := .failFatal text hec
    exact hx.accounted_of_faithful (faithful_failFatal text hec) h he
  | execWith echo command =>
    have hx : Routine marks (Scan.execWith echo command) := .execWith echo command
    exact hx.accounted_of_faithful (faithful_execWith echo command) h he
  | output command =>
    have hx : Routine marks (Scan.output command) := .output command
    exact hx.accounted_of_faithful (faithful_output command) h he
  | demand command text => exact accounted_demand command text h he
  | runInherited argv => cases he
  | putMetadata key value =>
    obtain ⟨t, hrun, -⟩ := eval_putMetadata h.metadataOpen key value
    rw [hrun] at he
    cases he
  | changingFiles f =>
    rw [eval_changingFiles] at he
    rcases hf : f b.machine.tree with cause | tree
    · rw [hf] at he
      cases he
      cases hfatal
    · rw [hf] at he
      cases he
  | mark h f => cases he

end Routine

end Scan

end ChrootScan
