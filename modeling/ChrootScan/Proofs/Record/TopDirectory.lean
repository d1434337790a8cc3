import ChrootScan.Proofs.Archive.Kind
import ChrootScan.Proofs.Record.Reading
import ChrootScan.Proofs.Rpm.SourcePackage
import ChrootScan.Program

/-!
# The top-level directory of a tarball

The results for a tarball are collected in a new directory right in the temporary directory, which
the stem of the tarball names (`exists_create_of_isName`). A stem of one dot or two names none, and no
results can be created then (`create_of_not_isName`).
-/

namespace ChrootScan

open Effect

namespace FileTree

/-- What `path` leads to now is a new directory of this name, right in the one that `dir` leads to. -/
def NewIn (t t' : FileTree) (dir path name : String) : Prop :=
  ∃ place, t.locate true dir = .ok place ∧ t.node? (place ++ [name]) = none ∧
    t'.locate true path = .ok (place ++ [name]) ∧ t'.node? (place ++ [name]) = some .dir

end FileTree

namespace Record

open FileTree

/-! ## What the first entries leave as it is -/

/-- Files and directories were added, and the directory of the results is the same. -/
def Added (b b' : Bench) : Prop :=
  Grows b.machine.tree b'.machine.tree ∧ b'.record.resdir = b.record.resdir

instance : IsPreorder Bench Added where
  refl b := ⟨refl_of Grows b.machine.tree, rfl⟩
  trans _ _ _ h h' := ⟨trans_of Grows h.1 h'.1, h'.2.trans h.2⟩

theorem added_appendFile (path : String) (bytes : ByteArray) :
    Moves Added (Scan.appendFile path bytes) :=
  fun b => ⟨grows_appendBytes b.machine.tree path bytes, rfl⟩

theorem added_writeMetadata (text : String) : Keeps Added (Scan.writeMetadata text) := by
  have hrecord : Moves Added Scan.getRecord := fun b => refl_of Added b
  have hlog : Moves Added (Scan.log ("scan.ini: " ++ text)) :=
    .bind hrecord fun _ => .ite (added_appendFile _ _) (.pure _)
  refine .bind (.liftM hrecord) fun _ => .ite (.bind (.throw _) fun _ => ?write) ?write
  exact .bind (.liftM (added_appendFile _ _)) fun _ => .liftM hlog

theorem added_begin (o : Options) : Keeps Added (begin o) := by
  have hput (key value : String) : Keeps Added (Scan.putMetadata key value) :=
    (added_writeMetadata _).bind fun _ => .liftM fun b => ⟨refl_of Grows b.machine.tree, rfl⟩
  exact (added_writeMetadata _).bind fun _ => .bind .get fun _ => .forM (fun _ => hput _ _) _

/-! ## Creating results -/

/-- The temporary directory of new results. -/
def tempDir (o : Options) (m : Machine) : String :=
  Path.join (tmpRoot m) (o.tool ++ m.fresh)

section
variable {r : Record} {t t' made : FileTree}

theorem makeRoom_of_createDir {e : SystemError} (hclear : clearOutput r t = (.ok (), t))
    (hrefused : t.createDir r.resdir = .error e) : makeRoom r t = (.error (.fatal 1), t) := by
  rw [makeRoom, hclear]
  dsimp only
  rw [hrefused]

/-- Room is made by clearing the results of another scan, creating a directory and laying it out. -/
theorem makeRoom_of_layOut (hclear : clearOutput r t = (.ok (), t))
    (hmade : t.createDir r.resdir = .ok made) (hlayOut : layOut r made = .ok t') :
    makeRoom r t = (.ok (), t') := by
  rw [makeRoom, hclear]
  dsimp only
  rw [hmade]
  dsimp only
  rw [hlayOut]

variable {o : Options} {m : Machine} (hmade : m.tree.createDir (tempDir o m) = .ok made)
include hmade

/-- A scan that cannot make room for its results does not begin. -/
theorem create_of_makeRoom {e : ScanError}
    (hroom : makeRoom (ofOptions o (tempDir o m)) made = (.error e, t)) :
    (create o m).1 = .error e := by
  rw [tempDir] at hmade hroom
  unfold create
  dsimp only
  rw [hmade]
  dsimp only
  rw [hroom]

/-- A scan begins once room is made and its directories are laid out. -/
theorem create_of_begin {b : Bench}
    (hroom : makeRoom (ofOptions o (tempDir o m)) made = (.ok (), t))
    (hbegin : eval (begin o)
      { machine := { m with tree := t }, record := ofOptions o (tempDir o m) } = (.ok (), b)) :
    create o m = (.ok b, b.machine) := by
  have hrun : (begin o).run.run
      { machine := { m with tree := t }, record := ofOptions o (tempDir o m) } = (.ok (), b) :=
    hbegin
  rw [tempDir] at hmade hroom hrun
  unfold create
  dsimp only
  rw [hmade]
  dsimp only
  rw [hroom]
  dsimp only
  rw [hrun]

end

section
variable {o : Options} {m : Machine} {made : FileTree} {place : Place} {kind : OutputKind}
  {dirname : String} (hkind : kind.isArchive = true)
  (hclassify : OutputKind.classify o.output = (kind, dirname))

include hkind hclassify

theorem resdir_of_archive (tmpdir : String) :
    (ofOptions o tmpdir).resdir = Path.join tmpdir dirname := by
  simp [ofOptions, hclassify, hkind]

/-- Nothing is in the way of a tarball. -/
theorem clearOutput_of_archive (tmpdir : String) (t : FileTree) :
    clearOutput (ofOptions o tmpdir) t = (.ok (), t) := by
  simp [clearOutput, ofOptions, hclassify, hkind]

/-- A stem that is a name is the name of the new directory. -/
theorem exists_create_of_isName (hground : m.tree.Grounded)
    (h : Creates m.tree made (tempDir o m) place) (hname : Path.IsName dirname) :
    ∃ b, create o m = (.ok b, b.machine) ∧
      NewIn made b.machine.tree (tempDir o m) b.record.resdir dirname := by
  have hground' := h.grounded hground
  set r := ofOptions o (tempDir o m) with hr
  -- the temporary directory is new, so a name in it is free
  have hdir : Creates made (made.put (place ++ [dirname]) .dir) r.resdir (place ++ [dirname]) := by
    rw [hr, resdir_of_archive hkind hclassify]
    exact h.creates_join hground (refl_of Grows made) hname (h.node?_below hground dirname)
  obtain ⟨t, hlayOut, hgrows, -⟩ := exists_layOut hground' hdir
  have hroom : makeRoom r made = (.ok (), t) :=
    makeRoom_of_layOut (clearOutput_of_archive hkind hclassify _ _) hdir.createDir hlayOut
  obtain ⟨b, hbegin, -, -⟩ := exists_begin (m := m) hground' hroom
  -- what begins the scan only adds files, so the directory stays where it is
  obtain ⟨hadded, hresdir⟩ : Added { machine := { m with tree := t }, record := r } b := by
    have hkeeps := added_begin o { machine := { m with tree := t }, record := r }
    rwa [hbegin] at hkeeps
  have hgrows' : Grows (made.put (place ++ [dirname]) .dir) b.machine.tree :=
    trans_of Grows hgrows hadded
  refine ⟨b, create_of_begin h.createDir hroom hbegin, place,
    h.locate_path (refl_of Grows made) true, h.node?_below hground dirname, ?_,
    hgrows'.dir hdir.node?⟩
  rw [hresdir]
  exact hdir.locate_path hgrows' true

/-- One dot or two lead to a directory that is there already. -/
theorem create_of_not_isName (h : Creates m.tree made (tempDir o m) place)
    (hname : ¬ Path.IsName dirname) : (create o m).1 = .error (.fatal 1) := by
  have hpiece := OutputKind.isPiece_of_classify hkind hclassify
  have hdots : dirname = "." ∨ dirname = ".." := by
    by_contra hnot
    exact hname ((OutputKind.isName_of_classify_iff hkind hclassify).2 (not_or.1 hnot))
  obtain ⟨there, hlocate, hdir⟩ : ∃ there,
      made.locate false (Path.join (tempDir o m) dirname) = .ok there ∧
        made.node? there = some .dir := by
    obtain rfl | rfl := hdots
    · refine ⟨place, h.locate_join (refl_of Grows made) hpiece fun _ => ?_, h.node?⟩
      rw [walkBy, if_pos rfl, walkBy]
    · refine ⟨place.dropLast, h.locate_join (refl_of Grows made) hpiece fun _ => ?_,
        h.grows.dir h.parent⟩
      rw [walkBy, if_neg (by decide), if_pos rfl, walkBy]
  cases hmade : made.createDir (Path.join (tempDir o m) dirname) with
  | error e =>
    rw [← resdir_of_archive hkind hclassify] at hmade
    exact create_of_makeRoom h.createDir
      (makeRoom_of_createDir (clearOutput_of_archive hkind hclassify _ _) hmade)
  | ok made' =>
    -- nothing would have been where it was created
    obtain ⟨there', hcreates⟩ := exists_creates hmade
    have hlocate' := hcreates.locate
    rw [Path.dropTrailing_eq_self (Path.endsWith_join _ hpiece), hlocate] at hlocate'
    obtain rfl := Except.ok.inj hlocate'
    cases hdir.symm.trans hcreates.none

end

end Record

namespace Program

/-- A scan is prepared for source packages only. -/
theorem exists_of_startPlan {a : ScanArgs} {s : Settings} {m : Machine} {plan : Plan Hook}
    (h : startPlan a s m = .ok plan) :
    ∃ p : Rpm.SourcePackage, Path.fileName? a.srpm = some p.file := by
  cases hfile : m.tree.isFile a.srpm with
  | false =>
    simp only [startPlan, hfile] at h
    cases h
  | true =>
    cases hname : Rpm.name? a.srpm with
    | none =>
      simp only [startPlan, hfile, hname] at h
      cases h
    | some pkg =>
      obtain ⟨p, -, hp⟩ := Rpm.SourcePackage.exists_of_name? hname
      exact ⟨p, hp⟩

end Program

namespace Record

open FileTree

/-- The output is a tarball exactly if its file name is that of one. If the stem is neither one dot nor
two, it is the name of a new directory right in the temporary directory, which the results are
collected in; with any other stem no results can be created. The tarball that a source package is
scanned into by default is named like the package, and so is its top-level directory. -/
theorem tarball_stem_iff (output : String) :
    (∀ kind stem, kind.isArchive = true →
      (OutputKind.classify output = (kind, stem) ↔
        ∃ name, Path.fileName? output = some name ∧ kind.Names stem name)) ∧
    (∀ kind stem, kind.isArchive = true → OutputKind.classify output = (kind, stem) →
      (Path.IsName stem ↔ stem ≠ "." ∧ stem ≠ "..") ∧
      ∀ (o : Options) (m : Machine) (made : FileTree), o.output = output → m.tree.Grounded →
        m.tree.createDir (tempDir o m) = .ok made →
        (Path.IsName stem → ∃ b, create o m = (.ok b, b.machine) ∧
          NewIn made b.machine.tree (tempDir o m) b.record.resdir stem) ∧
        (¬ Path.IsName stem → (create o m).1 = .error (.fatal 1))) ∧
    ∀ (a : ScanArgs) (s : Settings) (m : Machine) (plan : Plan Hook),
      Program.startPlan a s m = .ok plan → a.output = none →
      ∃ nvr, Rpm.nvr? a.srpm = some nvr ∧ Path.IsName nvr ∧ Program.output a = nvr ++ ".tar.xz" ∧
        OutputKind.classify (Program.output a) = (.tarXz, nvr) := by
  refine ⟨fun _ _ hkind => OutputKind.classify_eq_iff hkind, fun kind stem hkind hclassify =>
    ⟨OutputKind.isName_of_classify_iff hkind hclassify, ?_⟩, fun a s m plan hplan hdefault => ?_⟩
  · -- the results are laid out in a directory named after the stem, which has to be a name
    rintro o m made rfl hground hmade
    obtain ⟨place, hcreates⟩ := exists_creates hmade
    exact ⟨exists_create_of_isName hkind hclassify hground hcreates,
      create_of_not_isName hkind hclassify hcreates⟩
  · -- the default name is made of the package, whose name has a dash and so is none of the dots
    obtain ⟨p, hfile⟩ := Program.exists_of_startPlan hplan
    obtain ⟨hnvr, -⟩ := Rpm.SourcePackage.read_of_fileName? hfile
    have houtput : Program.output a = p.nvr ++ ".tar.xz" := by
      rw [Program.output, hdefault, hnvr]
      rfl
    refine ⟨p.nvr, hnvr, p.isName_nvr, houtput, ?_⟩
    rw [houtput]
    exact OutputKind.classify_append rfl (by decide) p.isName_nvr

/-- The tarball of a package, as it is named by default. -/
theorem tarball_stem_iff_units :
    let o : Options := { output := "/out/units-1.0-1.tar.xz" }
    let m : Machine :=
      { tree := { nodes := [(["tmp"], .dir), (["units-1.0-1.src.rpm"], .file .empty 0o644)] } }
    let a : ScanArgs := { srpm := "/units-1.0-1.src.rpm" }
    OutputKind.classify o.output = (.tarXz, "units-1.0-1") ∧ m.tree.Grounded ∧
      (∃ made, m.tree.createDir (tempDir o m) = .ok made ∧ ∃ b,
        create o m = (.ok b, b.machine) ∧
          NewIn made b.machine.tree (tempDir o m) b.record.resdir "units-1.0-1") ∧
      ∃ plan, Program.startPlan a {} m = .ok plan ∧
        OutputKind.classify (Program.output a) = (.tarXz, "units-1.0-1") := by
  intro o m a
  have hclassify : OutputKind.classify o.output = (.tarXz, "units-1.0-1") := by decide +kernel
  have hground : m.tree.Grounded := grounded_of_nodes (by decide)
  obtain ⟨hiff, hcreate, hdefault⟩ := tarball_stem_iff o.output
  obtain ⟨hname, hresults⟩ := hcreate _ _ rfl hclassify
  have hmade : m.tree.createDir (tempDir o m) = .ok (m.tree.put ["tmp", "csmock"] .dir) := by
    decide +kernel
  obtain ⟨b, hb, hnew⟩ := (hresults o m _ rfl hground hmade).1 (hname.2 (by decide))
  have hplanned : (Program.startPlan a {} m).isOk = true := by decide +kernel
  obtain ⟨plan, hplan⟩ : ∃ plan, Program.startPlan a {} m = .ok plan := by
    cases hplan : Program.startPlan a {} m with
    | error e =>
      rw [hplan] at hplanned
      cases hplanned
    | ok plan => exact ⟨plan, rfl⟩
  obtain ⟨nvr, hnvr, -, -, hkind⟩ := hdefault a {} m plan hplan rfl
  have hread : Rpm.nvr? a.srpm = some "units-1.0-1" := by decide +kernel
  obtain rfl : "units-1.0-1" = nvr := Option.some.inj (hread.symm.trans hnvr)
  exact ⟨hclassify, hground, ⟨_, hmade, b, hb, hnew⟩, plan, hplan, hkind⟩

/-- A stem of dots alone is no name, and there can be no results. -/
theorem no_top_directory :
    let m : Machine := { tree := { nodes := [(["tmp"], .dir)] } }
    OutputKind.classify "..tar" = (.tar, ".") ∧ ¬ Path.IsName "." ∧
      (create { output := "..tar" } m).1 = .error (.fatal 1) ∧
    OutputKind.classify "/out/...tgz" = (.tarGz, "..") ∧ ¬ Path.IsName ".." ∧
      (create { output := "/out/...tgz" } m).1 = .error (.fatal 1) := by
  intro m
  -- the temporary directory does not depend on the output
  have hmade : m.tree.createDir (tempDir { output := "" } m) =
      .ok (m.tree.put ["tmp", "csmock"] .dir) := by decide +kernel
  obtain ⟨place, hcreates⟩ := exists_creates hmade
  have hhere : OutputKind.classify "..tar" = (.tar, ".") := by decide +kernel
  have habove : OutputKind.classify "/out/...tgz" = (.tarGz, "..") := by decide +kernel
  have hdot : ¬ Path.IsName "." := by decide
  have hdots : ¬ Path.IsName ".." := by decide
  exact ⟨hhere, hdot, create_of_not_isName rfl hhere hcreates hdot,
    habove, hdots, create_of_not_isName rfl habove hcreates hdots⟩

end Record

end ChrootScan
