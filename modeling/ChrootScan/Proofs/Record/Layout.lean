import ChrootScan.Proofs.FileTree.NewDirectory
import ChrootScan.Proofs.Record.Metadata

/-!
# New results

The directory of new results is new itself, so there is room in it for all of its layout
(`exists_layOut`), the log and the metadata in it are two files, and nothing is in the metadata at
first (`apart_of_makeRoom`).
-/

namespace ChrootScan.Record

open FileTree

variable {r : Record} {t made t' : FileTree}

/-- A new directory always gets its layout. Nothing but files and directories is added, and the
metadata is an empty file. -/
theorem exists_layOut {place : Place} (hground : t.Grounded) (h : Creates t made r.resdir place) :
    ∃ t', layOut r made = .ok t' ∧ Grows made t' ∧
      t'.node? (place ++ ["scan.ini"]) = some (.file .empty 0o644) := by
  have hdebugName : Path.IsName "debug" := by decide
  have hrawName : Path.IsName "raw-results" := by decide
  have huniName : Path.IsName "uni-results" := by decide
  have hini : Path.IsName "scan.ini" := by decide
  have hlog : Path.IsName "scan.log" := by decide
  have hempty : Path.IsName "empty.err" := by decide
  have hground₀ := h.grounded hground
  -- the directories
  set debug := place ++ ["debug"] with hdebug
  set t₁ := made.put debug .dir with ht₁
  have h₁ : Creates made t₁ r.debugDir debug :=
    h.creates_join hground (refl_of Grows made) hdebugName (h.node?_below hground "debug")
  have hground₁ := h₁.grounded hground₀
  set raw := debug ++ ["raw-results"] with hraw
  set t₂ := t₁.put raw .dir with ht₂
  have h₂ : Creates t₁ t₂ r.rawDir raw :=
    h₁.creates_join hground₀ (refl_of Grows t₁) hrawName (h₁.node?_below hground₀ "raw-results")
  have hground₂ := h₂.grounded hground₁
  set uni := debug ++ ["uni-results"] with huni
  set t₃ := t₂.put uni .dir with ht₃
  have hnone₃ : t₂.node? uni = none := by
    rw [ht₂, node?_put_of_ne (by simp [huni, hraw]), huni, h₁.node?_below hground₀]
  have h₃ : Creates t₂ t₃ r.uniDir uni := h₁.creates_join hground₀ h₂.grows huniName hnone₃
  -- the empty file of findings
  have hnone₄ : t₃.node? (uni ++ ["empty.err"]) = none := h₃.node?_below hground₂ "empty.err"
  set t₄ := t₃.put (uni ++ ["empty.err"]) (.file .empty 0o644) with ht₄
  have h₄ : t₃.writeBytes (Path.join r.uniDir "empty.err") .empty = .ok t₄ :=
    h₃.writeBytes_join hground₂ (refl_of Grows t₃) hempty .empty hnone₄
  have hgrows₄ : Grows t₃ t₄ := grows_put (free_of_none hnone₄) (by simp)
  set t₅ := t₄.put (uni ++ ["empty.err"]) (.file .empty 0o444) with ht₅
  have h₅ : t₄.setMode (Path.join r.uniDir "empty.err") 0o444 = .ok t₅ :=
    setMode_of_file (h₃.locate_name hground₂ hgrows₄ hempty true) (node?_put_self (by simp) _)
  have hgrows₃ : Grows made t₃ := trans_of Grows (trans_of Grows h₁.grows h₂.grows) h₃.grows
  have hgrows₅ : Grows made t₅ :=
    trans_of Grows (trans_of Grows hgrows₃ hgrows₄) (grows_setMode h₅)
  -- the log and the metadata: of what is there so far, only one directory is right at the top
  have htop {name : String} (hname : name ≠ "debug") : t₅.node? (place ++ [name]) = none := by
    rw [ht₅, node?_put_of_ne (by simp [huni, hdebug]), ht₄,
      node?_put_of_ne (by simp [huni, hdebug]), ht₃, node?_put_of_ne (by simp [huni, hdebug]), ht₂,
      node?_put_of_ne (by simp [hraw, hdebug]), ht₁, node?_put_of_ne (by simp [hdebug, hname]),
      h.node?_below hground]
  set t₆ := t₅.put (place ++ ["scan.log"]) (.file .empty 0o644) with ht₆
  have h₆ : t₅.writeBytes r.logPath .empty = .ok t₆ :=
    h.writeBytes_join hground hgrows₅ hlog .empty (htop (by decide))
  have hgrows₆ : Grows made t₆ :=
    trans_of Grows hgrows₅ (grows_put (free_of_none (htop (by decide))) (by simp))
  have hnone₇ : t₆.node? (place ++ ["scan.ini"]) = none := by
    rw [ht₆, node?_put_of_ne (by simp), htop (by decide)]
  set t₇ := t₆.put (place ++ ["scan.ini"]) (.file .empty 0o644)
  have h₇ : t₆.writeBytes r.metadataPath .empty = .ok t₇ :=
    h.writeBytes_join hground hgrows₆ hini .empty hnone₇
  have hgrows₇ : Grows made t₇ :=
    trans_of Grows hgrows₆ (grows_put (free_of_none hnone₇) (by simp))
  refine ⟨t₇, ?_, hgrows₇, node?_put_self (by simp) _⟩
  rw [layOut]
  simp only [h₁.createDir, h₂.createDir, h₃.createDir, h₄, h₅, h₆, h₇, bind, Except.bind]

/-- Behind the layout of the directory of the results, the metadata is an empty file, and another
one than the log. -/
theorem apart_of_layOut (hground : t.Grounded) (hmade : t.createDir r.resdir = .ok made)
    (h : layOut r made = .ok t') :
    t'.readBytes r.metadataPath = .ok .empty ∧
      t'.locate true r.metadataPath ≠ t'.locate true r.logPath := by
  obtain ⟨place, hcreates⟩ := exists_creates hmade
  obtain ⟨laid, hlaid, hgrows, hnode⟩ := exists_layOut hground hcreates
  obtain rfl : laid = t' := Except.ok.inj (hlaid.symm.trans h)
  have hini : laid.locate true (Path.join r.resdir "scan.ini") = .ok (place ++ ["scan.ini"]) :=
    hcreates.locate_name hground hgrows (by decide) true
  have hlog : laid.locate true (Path.join r.resdir "scan.log") = .ok (place ++ ["scan.log"]) :=
    hcreates.locate_name hground hgrows (by decide) true
  refine ⟨?_, ?_⟩
  · rw [readBytes, stat, metadataPath, hini]
    simp only [Except.bind, hnode]
  · rw [metadataPath, logPath, hini, hlog]
    simp

theorem grounded_clearOutput (hground : t.Grounded) (h : clearOutput r t = (.ok (), t')) :
    t'.Grounded := by
  unfold clearOutput at h
  split at h
  · obtain ⟨place, rfl⟩ := removeAll_eq_ok h
    exact hground.prune place
  · obtain rfl : t = t' := congrArg Prod.snd h
    exact hground

/-- The metadata of new results is an empty file, and another one than the log. -/
theorem apart_of_makeRoom (hground : t.Grounded) (h : makeRoom r t = (.ok (), t')) :
    t'.readBytes r.metadataPath = .ok .empty ∧
      t'.locate true r.metadataPath ≠ t'.locate true r.logPath := by
  unfold makeRoom at h
  split at h
  · cases h
  · next cleared hcleared =>
    split at h
    · cases h
    · next made hmade =>
      split at h
      · cases h
      · next laid hlaid =>
        obtain rfl : laid = t' := congrArg Prod.snd h
        exact apart_of_layOut (grounded_clearOutput hground hcleared) hmade hlaid

end ChrootScan.Record
