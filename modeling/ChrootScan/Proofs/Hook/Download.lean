import ChrootScan.Hook.Download
import ChrootScan.Proofs.FileTree.Writing
import ChrootScan.Proofs.Pipeline.Routine

/-!
# What a download leaves in the cache

A download succeeds only with an answer of success that brings something, and then the cache holds
just what was sent (`download_eq_ok`).
-/

namespace ChrootScan.Download

open Effect

/-- Nothing but a success that brings something is kept. -/
theorem content_eq_ok_iff {url : String} {reply : Reply} {bytes : ByteArray} :
    content url reply = .ok bytes ↔
      ∃ status, reply = .received status (.ok bytes) ∧ status.isSuccess = true ∧
        bytes.isEmpty = false := by
  constructor
  · intro h
    rcases reply with error | ⟨status, error | sent⟩
    · cases h
    · rw [content] at h
      split at h <;> cases h
    · rw [content] at h
      split_ifs at h with hstatus hsent
      obtain rfl := Except.ok.inj h
      exact ⟨status, rfl, by simpa using hstatus, Bool.eq_false_of_not_eq_true hsent⟩
  · rintro ⟨status, rfl, hstatus, hbytes⟩
    simp [content, hstatus, hbytes]

section
variable {t t' : FileTree} {path : String} {bytes : ByteArray}

/-- What was written to a path is read from it. -/
theorem readBytes_write (hrooted : t.Rooted) (h : write t path bytes = (.ok (), t')) :
    t'.readBytes path = .ok bytes := by
  rw [write] at h
  rcases hwritten : t.writeBytes path bytes with e | written
  · rw [hwritten] at h
    cases h
  · rw [hwritten] at h
    cases h
    exact FileTree.readBytes_writeBytes hrooted hwritten

/-- A file that was saved is read back. -/
theorem readBytes_save (hrooted : t.Rooted) (h : save t path bytes = (.ok (), t')) :
    t'.readBytes path = .ok bytes := by
  rw [save] at h
  rcases hparent : Path.parent? path with _ | dir
  · rw [hparent] at h
    exact readBytes_write hrooted h
  rw [hparent] at h
  dsimp only at h
  rcases hmade : t.createDirs dir with e | made
  · rw [hmade] at h
    cases h
  · rw [hmade] at h
    exact readBytes_write (hrooted.createDirs hmade) h

end

/-- A download that succeeds has asked once, for its URL, was sent something with a status of
success, and has written just that into the cache. -/
theorem download_eq_ok {d : Download} {job job' : Job Hook} (hrooted : job.bench.machine.tree.Rooted)
    (h : eval d.download job = (.ok (.ok ()), job')) :
    ∃ status bytes,
      job.bench.machine.network job.bench.machine.requests.length d.url =
        .received status (.ok bytes) ∧
      status.isSuccess = true ∧ bytes.isEmpty = false ∧
      job'.bench.machine.requests = job.bench.machine.requests ++ [d.url] ∧
      job'.bench.machine.tree.readBytes d.path = .ok bytes := by
  set reply := job.bench.machine.network job.bench.machine.requests.length d.url with hreply
  set asked : Job Hook := { job with bench := { job.bench with
    machine := (job.bench.machine.request d.url).2 } } with hasked
  have hrequest : eval (Work.request d.url : Work Hook Reply) job = (.ok reply, asked) := rfl
  rw [download, eval_bind_ok hrequest] at h
  rcases hcontent : content d.url reply with e | bytes
  · rw [hcontent] at h
    cases h
  rw [hcontent] at h
  -- only a body behind a successful status is content, and only if it is not empty
  obtain ⟨status, hreceived, hstatus, hbytes⟩ := content_eq_ok_iff.1 hcontent
  have hfiles : eval (Work.getFiles : Work Hook FileTree) asked =
      (.ok job.bench.machine.tree, asked) := rfl
  dsimp only at h
  rw [eval_bind_ok hfiles] at h
  rcases hsave : save job.bench.machine.tree d.path bytes with ⟨result, tree⟩
  rw [hsave] at h
  have hchanged : eval (Work.changingFiles fun _ => .ok tree : Work Hook Unit) asked =
      (.ok (), { asked with bench := asked.bench.withTree tree }) := rfl
  dsimp only at h
  rw [eval_bind_ok hchanged] at h
  cases h
  exact ⟨status, bytes, hreceived, hstatus, hbytes, rfl, readBytes_save hrooted hsave⟩

end ChrootScan.Download
