import ChrootScan.Proofs.Hook.Routine
import ChrootScan.Proofs.Record.Passing

/-!
# Removing the token

The hook that scans with Snyk copies an authentication token into the chroot, scans, and removes the
token again, whatever the exit code of the scan is. But a scan that a signal stops is given up
between the two: the token stays if a look stops the command that scans or the one that removes
(`token_removed_iff`).
-/

namespace ChrootScan

open Effect Work

/-- Calling the managing program of the chroot is running a command. -/
theorem Chroot.eval_exec (args : List String) (b : Bench) :
    eval (Chroot.exec args) b =
      eval ((Manner.logged true).call (.argv (b.chroot.call args))) b := by
  rw [Chroot.exec, eval_get_bind, Scan.exec, Manner.eval_execWith]

theorem Work.eval_scan_of_ok {η α : Type} {x : Scan α} {job : Job η} {a : α} {b : Bench}
    (h : eval x job.bench = (.ok a, b)) :
    eval (scan x : Work η α) job = (.ok a, { job with bench := b }) := by
  rw [eval_scan, h]
  rfl

namespace Snyk

/-! ## The commands -/

/-- The call that scans the sources. -/
def scanning (s : OnlineScan) (c : Chroot) : Shell.Command :=
  .argv (c.call ["--enable-network", "--chroot", scanCmd s])

/-- The call that removes the token. -/
def removal (c : Chroot) : Shell.Command :=
  .argv (c.call ["--chroot", removeTokenCmd])

/-- The bench right after the token was copied into the chroot, if it was. -/
def tokenCopied? (s : OnlineScan) (b : Bench) : Option Bench :=
  match eval (Chroot.execRoot ("mkdir -p " ++ tokenDir)) b with
  | (.error _, _) => none
  | (.ok _, b') =>
    match eval (Chroot.exec ["--copyin", s.token, tokenFile]) b' with
    | (.error _, _) => none
    | (.ok code, b'') => if code = 0 then some b'' else none

/-- Where the token was copied in, both commands of the copy have run, and the second one ended with
zero. -/
theorem of_tokenCopied? {s : OnlineScan} {b b' : Bench} (h : tokenCopied? s b = some b') :
    ∃ made b₁, eval (Chroot.execRoot ("mkdir -p " ++ tokenDir)) b = (.ok made, b₁) ∧
      eval (Chroot.exec ["--copyin", s.token, tokenFile]) b₁ = (.ok 0, b') := by
  unfold tokenCopied? at h
  split at h
  · cases h
  · next made b₁ hmkdir =>
    split at h
    · cases h
    · next code b₂ hcopy =>
      split at h
      · next hzero =>
        obtain rfl := Option.some.inj h
        subst hzero
        exact ⟨made, b₁, hmkdir, hcopy⟩
      · cases h

/-- The bench when the command that scans is over, in whatever way. -/
def scanned (s : OnlineScan) (b : Bench) : Bench :=
  (eval ((Manner.logged true).call (scanning s b.chroot)) b).2

/-- Neither the scan nor passing a signal on is taken for the removal. -/
theorem argv_ne_removal (s : OnlineScan) (c : Chroot) :
    (scanning s c).program ≠ (removal c).program ∧
      ∀ argv, IsKill argv → argv ≠ (removal c).program := by
  constructor
  · intro h
    have hlength := congrArg List.length h
    simp [scanning, removal, Shell.Command.program, Chroot.call] at hlength
  · rintro argv ⟨signal, process, rfl⟩ h
    simp [removal, Shell.Command.program, Chroot.call] at h

variable {s : OnlineScan} {b : Bench}

theorem chroot_scanned : (scanned s b).chroot = b.chroot :=
  SameChroot.routineKept.call (Manner.logged true) (scanning s b.chroot) b

/-- The command that scans removes nothing. -/
theorem calls_scanned : ∃ new, (scanned s b).machine.calls = b.machine.calls ++ new ∧
    ∀ call ∈ new, call.argv ≠ (removal b.chroot).program := by
  obtain ⟨hscanning, hkill⟩ := argv_ne_removal s b.chroot
  exact Manner.startsOnly_call (.logged true) (scanning s b.chroot) hkill hscanning b

/-! ## The hook -/

/-- What becomes of the exit code starts nothing. -/
theorem still_settle (code : Int) : Keeps (Job.Across Still) (settle code) := by
  have hscan {x : Scan Unit} (hx : Keeps Still x) :
      Keeps (Job.Across Still) (scan x : Work Hook Unit) := by
    intro job
    rw [Job.Across, bench_scan]
    exact hx job.bench
  refine .ite (.pure _) (.ite ?_ (hscan (Scan.still_error _ _)))
  exact (hscan (Scan.still_printLead _ _)).bind fun _ job => Still.refl job.bench

/-- What the hook does once the command that scans has come to its end. -/
def cleanUp (code : Int) : Work Hook Int := do
  let _ ← scan (Chroot.execRoot removeTokenCmd)
  settle code
  return 0

/-- In the end the hook starts what the removal does. -/
theorem calls_cleanUp (code : Int) (job : Job Hook) :
    (eval (cleanUp code) job).2.bench.machine.calls =
      (eval ((Manner.logged true).call (removal job.bench.chroot)) job.bench).2.machine.calls := by
  have hcall : eval (Chroot.execRoot removeTokenCmd) job.bench =
      eval ((Manner.logged true).call (removal job.bench.chroot)) job.bench :=
    Chroot.eval_exec _ _
  rw [cleanUp, eval_bind, eval_scan, hcall]
  rcases eval ((Manner.logged true).call (removal job.bench.chroot)) job.bench with ⟨e | removed, c⟩
  · rfl
  · have hstill : Keeps (Job.Across Still) (settle code >>= fun _ => pure 0 : Work Hook Int) :=
      (still_settle code).bind fun _ => .pure _
    exact (hstill { job with bench := c }).calls

/-- Once the token is in the chroot, the hook starts what the command that scans starts, and what the
removal does if no look stops that command. -/
theorem calls_runScan {job : Job Hook} (hcopied : tokenCopied? s job.bench = some b) :
    (eval (runScan s) job).2.bench.machine.calls =
      if (Manner.logged true).passes (scanning s b.chroot) b = true then
        (eval ((Manner.logged true).call (removal b.chroot)) (scanned s b)).2.machine.calls
      else (scanned s b).machine.calls := by
  obtain ⟨made, b₁, hmkdir, hcopy⟩ := of_tokenCopied? hcopied
  set copied : Job Hook := { job with bench := b } with hjob
  have hcopied' : eval (scan (Chroot.exec ["--copyin", s.token, tokenFile]) : Work Hook Int)
      { job with bench := b₁ } = (.ok 0, copied) :=
    eval_scan_of_ok hcopy
  have hcall : eval (Chroot.execOnline (scanCmd s)) copied.bench =
      eval ((Manner.logged true).call (scanning s b.chroot)) b :=
    Chroot.eval_exec _ _
  have hchroot := chroot_scanned (s := s) (b := b)
  rw [runScan, eval_bind_ok (eval_scan_of_ok hmkdir), eval_bind_ok hcopied',
    if_neg (not_not.2 rfl), eval_bind, eval_scan, hcall, ← Manner.isOk_call]
  unfold scanned at hchroot ⊢
  -- a scan that is given up ends the hook, and any other one goes on to the removal
  rcases hrun : eval ((Manner.logged true).call (scanning s b.chroot)) b with ⟨e | code, c⟩
  · rfl
  · have hend := calls_cleanUp code { copied with bench := c }
    rw [hrun] at hchroot
    dsimp only at hend hchroot
    rw [hchroot] at hend
    exact hend

/-- Once the token is in the chroot, the command that removes it is started exactly if no look stops
the command that scans, neither on its way nor behind its end with a code above 128, and then none
stops the removal, and the system does not refuse it. -/
theorem token_removed_iff {job : Job Hook} (hcopied : tokenCopied? s job.bench = some b) :
    (∃ new location, (eval (Hook.run (.snykScan s)) job).2.bench.machine.calls =
        b.machine.calls ++ new ∧ ⟨location, (removal b.chroot).program⟩ ∈ new) ↔
      (Manner.logged true).passes (scanning s b.chroot) b = true ∧
        (Manner.logged true).spawns (removal b.chroot) (scanned s b) = true := by
  have hcalls : (eval (Hook.run (.snykScan s)) job).2.bench.machine.calls = _ :=
    calls_runScan hcopied
  obtain ⟨started, hscanned, hspared⟩ := calls_scanned (s := s) (b := b)
  -- if nothing comes behind the scan, then none of the calls removes the token
  have hnone (h : (eval (Hook.run (.snykScan s)) job).2.bench.machine.calls =
      (scanned s b).machine.calls) :
      ¬ ∃ new location, (eval (Hook.run (.snykScan s)) job).2.bench.machine.calls =
        b.machine.calls ++ new ∧ ⟨location, (removal b.chroot).program⟩ ∈ new := by
    rintro ⟨new, location, hnew, hmem⟩
    rw [h, hscanned] at hnew
    obtain rfl := List.append_cancel_left hnew
    exact hspared _ hmem rfl
  by_cases hpasses : (Manner.logged true).passes (scanning s b.chroot) b = true
  · rw [if_pos hpasses] at hcalls
    obtain ⟨hspawns, location, rest, hrest⟩ | ⟨hspawns, hsame⟩ :=
      Manner.calls_call (.logged true) (removal b.chroot) (scanned s b)
    · refine iff_of_true ⟨started ++ ⟨location, (removal b.chroot).program⟩ :: rest, location, ?_, ?_⟩
        ⟨hpasses, hspawns⟩
      · rw [hcalls, hrest, hscanned, List.append_assoc]
      · exact List.mem_append_right _ List.mem_cons_self
    · refine iff_of_false (hnone (hcalls.trans hsame)) ?_
      rintro ⟨-, hspawns'⟩
      rw [hspawns] at hspawns'
      cases hspawns'
  · rw [if_neg hpasses] at hcalls
    exact iff_of_false (hnone hcalls) fun h => hpasses h.1

/-- The token is removed after a scan that exits with 255, though that stops the hook at an error. -/
theorem token_removed_high :
    let s : OnlineScan := { program := "/opt/snyk", token := "/root/snyk.json" }
    let job : Job Hook :=
      { bench :=
          { machine :=
              { behaviour := fun n _ _ _ => .started
                  { location := "/usr/bin/mock"
                    ending := fun _ => .exited (if n = 2 then 255 else 0) } }
            record := Record.ofOptions { output := "out" } "/tmp/csmock" }
        plan := {} }
    ∃ b, tokenCopied? s job.bench = some b ∧
      ∃ new location, (eval (Hook.run (.snykScan s)) job).2.bench.machine.calls =
        b.machine.calls ++ new ∧ ⟨location, (removal b.chroot).program⟩ ∈ new := by
  intro s job
  obtain ⟨b, hcopied, hgoes⟩ : ∃ b, b ∈ tokenCopied? s job.bench ∧
      ((Manner.logged true).passes (scanning s b.chroot) b &&
        (Manner.logged true).spawns (removal b.chroot) (scanned s b)) = true :=
    (Option.any_eq_true _ _).1 (by decide +kernel)
  exact ⟨b, hcopied, (token_removed_iff hcopied).2 (Bool.and_eq_true_iff.1 hgoes)⟩

/-- The token stays in the chroot if the scan is terminated, also in a run that keeps going. -/
theorem token_not_removed_after_signal :
    let s : OnlineScan := { program := "/opt/snyk", token := "/root/snyk.json" }
    let job : Job Hook :=
      { bench :=
          { machine :=
              { behaviour := fun n _ _ _ => .started
                  { location := "/usr/bin/mock"
                    ending := fun _ => if n = 2 then .killed 15 else .exited 0 } }
            record := Record.ofOptions { output := "out", keepGoing := true } "/tmp/csmock" }
        plan := {} }
    (tokenCopied? s job.bench).isSome = true ∧
      ¬ ∃ call ∈ (eval (Hook.run (.snykScan s)) job).2.bench.machine.calls,
        call.argv = (removal job.bench.chroot).program := by
  intro s job
  exact ⟨by decide +kernel, by decide +kernel⟩

end Snyk
end ChrootScan
