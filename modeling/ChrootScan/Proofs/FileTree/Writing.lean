import ChrootScan.Proofs.FileTree.NewDirectory

/-!
# Writing files

A path that leads somewhere still leads there when files and directories are added (`Grows.locate`).
Where every node stands in a directory, a path whose links are followed does not end at a link
(`Rooted.ne_link`). So what was written to a file is read from it (`readBytes_writeBytes`), also if
directories were created for it before.
-/

namespace ChrootScan.FileTree

variable {t t' : FileTree} {follow : Bool}
  {jump jump' : Place → List String → Except SystemError Place} {here place reached : Place}
  {names : List String}

/-! ## Paths in a tree that grows -/

namespace Grows

variable (hgrows : Grows t t')
include hgrows

/-- A walk goes the same way through a tree that has grown, step by step. -/
theorem walkBy
    (hjump : ∀ here names, jump here names = .ok reached → jump' here names = .ok reached)
    (h : t.walkBy follow jump here names = .ok reached) :
    t'.walkBy follow jump' here names = .ok reached := by
  induction names generalizing here with
  | nil => exact h
  | cons name rest ih =>
    rw [walkBy_cons_eq_ok_iff] at h ⊢
    cases h with
    | stay hname hrest => exact .stay hname (ih hrest)
    | up hname hrest => exact .up hname (ih hrest)
    | last hname hrest hreached hlink =>
      exact .last hname hrest hreached fun target h => hlink target (hgrows.link_iff.1 h)
    | into hname hdir hrest => exact .into hname (hgrows.dir hdir) (ih hrest)
    | through hname hlink hmore hrest =>
      exact .through hname (hgrows.link_iff.2 hlink) hmore (hjump _ _ hrest)

theorem walk {links : Nat} (h : t.walk follow links here names = .ok reached) :
    t'.walk follow links here names = .ok reached := by
  induction links generalizing here names with
  | zero => exact hgrows.walkBy (fun _ _ hjump => hjump) h
  | succ links ih => exact hgrows.walkBy (fun _ _ hjump => ih hjump) h

/-- A path that leads to a place still leads there. -/
theorem locate {path : String} (h : t.locate follow path = .ok place) :
    t'.locate follow path = .ok place := by
  unfold FileTree.locate at h ⊢
  split_ifs at h ⊢ with hempty
  · exact hgrows.walk h
  · rw [hgrows.cwd]
    exact hgrows.walk h

end Grows

/-! ## Paths do not end at links -/

/-- Every node stands in a directory, and the working directory is one. -/
structure Rooted (t : FileTree) : Prop where
  grounded : t.Grounded
  cwd : t.node? t.cwd = some .dir

namespace Rooted

variable (hrooted : t.Rooted)
include hrooted

/-- Above a directory there is a directory. -/
theorem dir_dropLast (h : t.node? here = some .dir) : t.node? here.dropLast = some .dir := by
  rcases List.eq_nil_or_concat' here with rfl | ⟨above, name, rfl⟩
  · rfl
  · rw [List.dropLast_concat]
    exact hrooted.grounded above name (by simp [h])

/-- A walk that follows links ends at none, since one at its end is followed as well. -/
theorem ne_link_of_walkBy {target : String}
    (hjump : ∀ here names, t.node? here = some .dir → jump here names = .ok reached →
      t.node? reached ≠ some (.link target))
    (hdir : t.node? here = some .dir) (h : t.walkBy true jump here names = .ok reached) :
    t.node? reached ≠ some (.link target) := by
  induction names generalizing here with
  | nil =>
    obtain rfl := Except.ok.inj h
    simp [hdir]
  | cons name rest ih =>
    rw [walkBy_cons_eq_ok_iff] at h
    cases h with
    | stay _ hrest => exact ih hdir hrest
    | up _ hrest => exact ih (hrooted.dir_dropLast hdir) hrest
    | last _ _ hreached hlink =>
      rw [hreached]
      exact fun hnode => Bool.noConfusion (hlink target hnode)
    | into _ hinto hrest => exact ih hinto hrest
    -- the walk goes on where the link leads, from a directory in either case
    | through _ _ _ hrest =>
      refine hjump _ _ ?_ hrest
      split
      · rfl
      · exact hdir

/-- A path whose links are followed does not end at one. -/
theorem ne_link {path : String} (h : t.locate true path = .ok place) (target : String) :
    t.node? place ≠ some (.link target) := by
  have hwalk {links : Nat} {here : Place} {names : List String} (hdir : t.node? here = some .dir)
      (h : t.walk true links here names = .ok place) : t.node? place ≠ some (.link target) := by
    induction links generalizing here names with
    | zero =>
      have h : t.walkBy true (fun _ _ => .error .tooManyLinks) here names = .ok place := h
      refine hrooted.ne_link_of_walkBy (fun _ _ _ hjump => ?_) hdir h
      cases hjump
    | succ links ih =>
      have h : t.walkBy true (t.walk true links) here names = .ok place := h
      exact hrooted.ne_link_of_walkBy (fun _ _ => ih) hdir h
  unfold locate at h
  split_ifs at h
  · exact hwalk rfl h
  · exact hwalk hrooted.cwd h

end Rooted

/-! ## Reading what was written -/

/-- A file is written to where the path leads, in a directory. -/
theorem exists_of_writeBytes {path : String} {bytes : ByteArray}
    (h : t.writeBytes path bytes = .ok t') :
    ∃ place mode, t.locate true path = .ok place ∧ t.node? place ≠ some .dir ∧
      t' = t.put place (.file bytes mode) := by
  obtain ⟨place, hplace, h⟩ := exists_of_bind_eq_ok h
  obtain ⟨_, -, h⟩ := exists_of_bind_eq_ok h
  rcases hnode : t.node? place with _ | ⟨old, mode⟩ | _ | target
  · rw [hnode] at h
    exact ⟨place, 0o644, hplace, by rw [hnode]; nofun, (Except.ok.inj h).symm⟩
  · rw [hnode] at h
    exact ⟨place, mode, hplace, by rw [hnode]; nofun, (Except.ok.inj h).symm⟩
  · rw [hnode] at h
    cases h
  · rw [hnode] at h
    exact ⟨place, 0o644, hplace, by rw [hnode]; nofun, (Except.ok.inj h).symm⟩

/-- A file that was written holds what was written to it. -/
theorem readBytes_writeBytes (hrooted : t.Rooted) {path : String} {bytes : ByteArray}
    (h : t.writeBytes path bytes = .ok t') : t'.readBytes path = .ok bytes := by
  obtain ⟨place, mode, hplace, hdir, rfl⟩ := exists_of_writeBytes h
  -- a link at the end would have been followed, so the node is a file or nothing
  have hfree : t.Free place := ⟨hdir, hrooted.ne_link hplace⟩
  have hgrows : Grows t (t.put place (.file bytes mode)) := grows_put hfree nofun
  simp only [readBytes, stat, hgrows.locate hplace, Except.bind, node?_put_self hfree.ne_nil]

/-! ## Creating directories -/

theorem rooted_of_grows (hrooted : t.Rooted) (hgrows : Grows t t') (hground : t'.Grounded) :
    t'.Rooted :=
  ⟨hground, by rw [hgrows.cwd]; exact hgrows.dir hrooted.cwd⟩

theorem Rooted.createDir (hrooted : t.Rooted) {path : String} (h : t.createDir path = .ok t') :
    t'.Rooted := by
  obtain ⟨place, hcreates⟩ := exists_creates h
  exact rooted_of_grows hrooted hcreates.grows (hcreates.grounded hrooted.grounded)

/-- Creating directories leaves every node in a directory. -/
theorem Rooted.createDirsFrom (hrooted : t.Rooted) {names : List String} {n : Nat}
    (h : t.createDirsFrom names n = .ok t') : t'.Rooted := by
  induction n generalizing t t' with
  | zero =>
    obtain rfl := Except.ok.inj h
    exact hrooted
  | succ n ih =>
    rw [FileTree.createDirsFrom] at h
    -- the directory is created at once, or once those above it are, or it is there already
    split at h
    · next made hmade =>
      obtain rfl := Except.ok.inj h
      exact hrooted.createDir hmade
    · obtain ⟨above, habove, h⟩ := exists_of_bind_eq_ok h
      have hrooted' := ih hrooted habove
      split at h
      · next made hmade =>
        obtain rfl := Except.ok.inj h
        exact hrooted'.createDir hmade
      · split_ifs at h
        obtain rfl := Except.ok.inj h
        exact hrooted'
    · split_ifs at h
      obtain rfl := Except.ok.inj h
      exact hrooted

/-- Creating a directory together with those above it leaves the tree rooted. -/
theorem Rooted.createDirs (hrooted : t.Rooted) {path : String} (h : t.createDirs path = .ok t') :
    t'.Rooted :=
  hrooted.createDirsFrom h

end ChrootScan.FileTree
