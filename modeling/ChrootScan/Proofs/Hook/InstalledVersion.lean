import ChrootScan.Proofs.Hook.Routine
import ChrootScan.Proofs.Text.Parts
import ChrootScan.Rpm

/-!
# Versions of installed tools

The list of installed packages is searched for a tool from the left, while its lines
`NAME-VERSION-RELEASE.ARCH` are read from the right. So the first line that begins with the tool, a
dash and a digit tells the version (`toolVersion_of_lists`), and it need not be that of a package
with this name (`not_installed_java`).
-/

namespace ChrootScan.Rpm

open Effect

variable {tool version list : String} {s part rest : List Char}

/-! ## Dashes in front of digits -/

/-- A dash in front of a digit. -/
def AtNumber (s : List Char) : Prop :=
  ∃ c rest, s = '-' :: c :: rest ∧ isAsciiDigit c = true

/-- A text begins with a digit. -/
def BeginsWithDigit (s : List Char) : Prop :=
  ∃ c rest, s = c :: rest ∧ isAsciiDigit c = true

/-- A part of a text that ends where a dash in front of a digit stands for the first time, or with
the text. -/
structure UpToNumber (part rest : List Char) : Prop where
  ends : rest = [] ∨ AtNumber rest
  first : ∀ front behind, part ++ rest = front ++ behind → AtNumber behind → part <+: front

/-- A look at the first character tells whether a text begins with a digit. -/
theorem head?_isAsciiDigit_iff : (s.head?.map isAsciiDigit).getD false = true ↔ BeginsWithDigit s := by
  unfold BeginsWithDigit
  cases s with
  | nil => exact iff_of_false (by simp) (by simp)
  | cons c rest => simp

instance : Decidable (BeginsWithDigit s) :=
  decidable_of_iff _ head?_isAsciiDigit_iff

/-- A dash stands in front of a digit if the next character is one. -/
theorem atNumber_cons_iff {c : Char} :
    (c = '-' && (rest.head?.map isAsciiDigit).getD false) = true ↔ AtNumber (c :: rest) := by
  rw [Bool.and_eq_true, decide_eq_true_eq, head?_isAsciiDigit_iff, AtNumber, BeginsWithDigit]
  constructor
  · rintro ⟨rfl, d, behind, rfl, hd⟩
    exact ⟨d, behind, rfl, hd⟩
  · rintro ⟨d, behind, hcons, hd⟩
    obtain ⟨rfl, rfl⟩ := List.cons_eq_cons.1 hcons
    exact ⟨rfl, d, behind, rfl, hd⟩

theorem not_atNumber_nil : ¬ AtNumber [] := by
  rintro ⟨c, rest, h, -⟩
  cases h

/-- What is cut off goes up to the first dash in front of a digit, or to the end. -/
theorem exists_upToNumber (s : List Char) :
    ∃ rest, s = beforeDashDigit s ++ rest ∧ UpToNumber (beforeDashDigit s) rest := by
  induction s with
  | nil =>
    refine ⟨[], rfl, .inl rfl, fun front behind h hbehind => ?_⟩
    rw [(List.append_eq_nil_iff.1 h.symm).2] at hbehind
    exact absurd hbehind not_atNumber_nil
  | cons c s ih =>
    rw [beforeDashDigit]
    by_cases hhere : AtNumber (c :: s)
    · rw [if_pos (atNumber_cons_iff.2 hhere)]
      exact ⟨c :: s, rfl, .inr hhere, fun front _ _ _ => List.nil_prefix⟩
    · obtain ⟨rest, hrest, hends, hfirst⟩ := ih
      rw [if_neg (mt atNumber_cons_iff.1 hhere)]
      refine ⟨rest, congrArg (c :: ·) hrest, hends, fun front behind h hbehind => ?_⟩
      -- what comes before a number is no shorter than what is cut off, as there is none here
      cases front with
      | nil =>
        rw [List.nil_append, List.cons_append, ← hrest] at h
        exact absurd (h ▸ hbehind) hhere
      | cons d front =>
        obtain ⟨rfl, hcut⟩ := List.cons_eq_cons.1 h
        exact List.cons_prefix_cons.2 ⟨rfl, hfirst front behind hcut hbehind⟩

/-- There is one part of a text that ends there. -/
theorem UpToNumber.beforeDashDigit_eq (h : UpToNumber part rest) :
    beforeDashDigit (part ++ rest) = part := by
  obtain ⟨rest', hcut, hends, hfirst⟩ := exists_upToNumber (part ++ rest)
  have hshort : beforeDashDigit (part ++ rest) <+: part := by
    obtain rfl | hrest := h.ends
    · rw [List.append_nil] at hcut ⊢
      exact ⟨rest', hcut.symm⟩
    · exact hfirst part rest hcut.symm hrest
  have hlong : part <+: beforeDashDigit (part ++ rest) := by
    obtain rfl | hrest := hends
    · rw [List.append_nil] at hcut
      exact hcut ▸ List.prefix_append part rest
    · exact h.first _ rest' hcut hrest
  exact hshort.eq_of_length_le hlong.length_le

/-! ## Packages -/

/-- A version or a release: a text without dashes that begins with a digit. -/
structure IsNumber (s : String) : Prop where
  digit : BeginsWithDigit s.toList
  dashless : '-' ∉ s.toList

instance (s : String) : Decidable (IsNumber s) :=
  decidable_of_iff (BeginsWithDigit s.toList ∧ '-' ∉ s.toList)
    ⟨fun ⟨hdigit, hdash⟩ => ⟨hdigit, hdash⟩, fun h => ⟨h.digit, h.dashless⟩⟩

/-- An installed package. -/
structure Package where
  name : String
  version : String
  release : String
  arch : String
  version_number : IsNumber version
  release_number : IsNumber release

/-- A package on a list: `NAME-VERSION-RELEASE.ARCH`. -/
def Package.line (p : Package) : String :=
  p.name ++ "-" ++ p.version ++ "-" ++ p.release ++ "." ++ p.arch

/-- A list has one line for each package, with blanks around it at most. -/
def Lists (list : String) (packages : List Package) : Prop :=
  (Text.lines list).map Text.trim = packages.map Package.line

/-- A line begins with the tool, a dash and a digit. -/
def Shows (tool line : String) : Prop :=
  ∃ rest, line.toList = tool.toList ++ '-' :: rest ∧ BeginsWithDigit rest

/-- A line begins with the tool and a dash, and a version is what stands from there up to the next
dash in front of a digit. -/
def ShowsVersion (tool version line : String) : Prop :=
  ∃ rest, line.toList = tool.toList ++ '-' :: (version.toList ++ rest) ∧
    BeginsWithDigit (version.toList ++ rest) ∧ UpToNumber version.toList rest

/-- What follows the tool and a dash on a line, if it begins with a digit. -/
def behindTool? (tool line : String) : Option (List Char) :=
  ((Text.afterLead? (tool ++ "-") line).map String.toList).filter fun rest =>
    (rest.head?.map isAsciiDigit).getD false

/-- What follows a tool on a line is behind it and a dash, and begins with a digit. -/
theorem behindTool?_eq_some_iff {line : String} : behindTool? tool line = some rest ↔
    line.toList = tool.toList ++ '-' :: rest ∧ BeginsWithDigit rest := by
  have hlead {behind : String} : Text.afterLead? (tool ++ "-") line = some behind ↔
      line.toList = tool.toList ++ '-' :: behind.toList := by
    rw [Text.afterLead?_eq_some_iff, ← String.toList_inj]
    simp
  rw [behindTool?, Option.filter_eq_some_iff, Option.map_eq_some_iff, head?_isAsciiDigit_iff]
  refine and_congr_left fun _ => ?_
  constructor
  · rintro ⟨behind, hbehind, rfl⟩
    exact hlead.1 hbehind
  · intro h
    exact ⟨String.ofList rest, hlead.2 (by rwa [String.toList_ofList]), String.toList_ofList⟩

/-- Nothing follows a tool on a line that does not show it. -/
theorem behindTool?_eq_none_iff {line : String} : behindTool? tool line = none ↔ ¬ Shows tool line := by
  rw [Option.eq_none_iff_forall_not_mem]
  simp only [Option.mem_def, behindTool?_eq_some_iff, Shows, not_exists]

instance (tool line : String) : Decidable (Shows tool line) :=
  decidable_of_iff (¬ behindTool? tool line = none) (by rw [behindTool?_eq_none_iff, not_not])

/-- A line shows the version that is cut off behind the tool. -/
theorem showsVersion_iff {line : String} : ShowsVersion tool version line ↔
    ∃ rest, behindTool? tool line = some rest ∧ String.ofList (beforeDashDigit rest) = version := by
  constructor
  · rintro ⟨rest, hline, hdigit, hversion⟩
    refine ⟨_, behindTool?_eq_some_iff.2 ⟨hline, hdigit⟩, ?_⟩
    rw [hversion.beforeDashDigit_eq, String.ofList_toList]
  · rintro ⟨behind, hbehind, rfl⟩
    obtain ⟨hline, hdigit⟩ := behindTool?_eq_some_iff.1 hbehind
    obtain ⟨rest, hrest, hversion⟩ := exists_upToNumber behind
    rw [hrest] at hline hdigit
    exact ⟨rest, by rwa [String.toList_ofList], by rwa [String.toList_ofList],
      by rwa [String.toList_ofList]⟩

/-- On its own line, a package is shown with its version. -/
theorem Package.showsVersion_line (p : Package) : ShowsVersion p.name p.version p.line := by
  obtain ⟨c, rest, hversion, hc⟩ := p.version_number.digit
  obtain ⟨d, rest', hrelease, hd⟩ := p.release_number.digit
  let tail := '-' :: (p.release.toList ++ '.' :: p.arch.toList)
  have htail : AtNumber tail := ⟨d, rest' ++ '.' :: p.arch.toList, by simp [tail, hrelease], hd⟩
  refine ⟨tail, by simp [Package.line, tail], ⟨c, rest ++ tail, by rw [hversion]; rfl, hc⟩,
    .inr htail, ?_⟩
  -- a dash that stands earlier would be one of the version
  intro front behind hcut hbehind
  obtain ⟨between, hfront, -⟩ | ⟨between, hbetween, hfront⟩ := List.append_eq_append_iff.1 hcut
  · exact ⟨between, hfront.symm⟩
  · cases between with
    | nil => exact ⟨[], by rw [hbetween]; simp⟩
    | cons e between =>
      obtain ⟨f, more, rfl, -⟩ := hbehind
      obtain ⟨rfl, -⟩ := List.cons_eq_cons.1 hfront
      exact absurd (hbetween ▸ List.mem_append_right _ List.mem_cons_self) p.version_number.dashless

/-! ## Lists of packages -/

variable {packages : List Package}

/-- The version is read from the first package whose line shows the tool. -/
theorem installedVersion?_eq (h : Lists list packages) (tool : String) :
    installedVersion? list tool = (packages.findSome? fun p => behindTool? tool p.line).map
      fun rest => String.ofList (beforeDashDigit rest) := by
  have hlines : (Text.lines list).findSome? (versioned? tool) =
      ((Text.lines list).map Text.trim).findSome? (behindTool? tool) := by
    rw [List.findSome?_map]
    rfl
  rw [installedVersion?, hlines, h, List.findSome?_map]
  rfl

/-- No version is found exactly if no line shows the tool. -/
theorem installedVersion?_eq_none_iff (h : Lists list packages) :
    installedVersion? list tool = none ↔ ∀ p ∈ packages, ¬ Shows tool p.line := by
  rw [installedVersion?_eq h, Option.map_eq_none_iff, List.findSome?_eq_none_iff]
  simp only [behindTool?_eq_none_iff]

/-- A version that is found is that of the first line which shows the tool. -/
theorem installedVersion?_eq_some_iff (h : Lists list packages) :
    installedVersion? list tool = some version ↔ ∃ before p after, packages = before ++ p :: after ∧
      (∀ q ∈ before, ¬ Shows tool q.line) ∧ ShowsVersion tool version p.line := by
  simp only [installedVersion?_eq h, Option.map_eq_some_iff, List.findSome?_eq_some_iff,
    showsVersion_iff, behindTool?_eq_none_iff]
  constructor
  · rintro ⟨rest, ⟨before, p, after, hcut, hp, hbefore⟩, hversion⟩
    exact ⟨before, p, after, hcut, hbefore, rest, hp, hversion⟩
  · rintro ⟨before, p, after, hcut, hbefore, rest, hp, hversion⟩
    exact ⟨rest, ⟨before, p, after, hcut, hp, hbefore⟩, hversion⟩

/-- A line shows one version of a tool. -/
theorem ShowsVersion.unique {line other : String} (h : ShowsVersion tool version line)
    (hother : ShowsVersion tool other line) : version = other := by
  obtain ⟨rest, hrest, rfl⟩ := showsVersion_iff.1 h
  obtain ⟨rest', hrest', rfl⟩ := showsVersion_iff.1 hother
  rw [Option.some.inj (hrest.symm.trans hrest')]

/-- If only lines of packages with the name of the tool begin like it, the version is that of the
first of them. -/
theorem installedVersion?_eq_find? (h : Lists list packages)
    (honly : ∀ p ∈ packages, Shows tool p.line → p.name = tool) :
    installedVersion? list tool = (packages.find? (·.name = tool)).map Package.version := by
  cases hfind : packages.find? (·.name = tool) with
  | none =>
    refine (installedVersion?_eq_none_iff h).2 fun p hp hshows => ?_
    exact absurd (honly p hp hshows) (by simpa using List.find?_eq_none.1 hfind p hp)
  | some p =>
    obtain ⟨hname, before, after, rfl, hbefore⟩ := List.find?_eq_some_iff_append.1 hfind
    obtain rfl : p.name = tool := by simpa using hname
    refine (installedVersion?_eq_some_iff h).2
      ⟨before, p, after, rfl, fun q hq hshows => ?_, p.showsVersion_line⟩
    have hsame := honly q (List.mem_append_left _ hq) hshows
    simpa [hsame] using hbefore q hq

end ChrootScan.Rpm

namespace ChrootScan

open Effect Work

/-- The list of the packages in the chroot, as far as it can be read. -/
def Job.packageList (job : Job Hook) : String :=
  (job.bench.machine.tree.readText (Pipeline.packageList job.bench.record)).toOption.getD ""

namespace Hook

variable {tool version : String} {job : Job Hook}

theorem eval_getRecord_bind (f : Record → Work Hook Int) (job : Job Hook) :
    eval (getRecord >>= f) job = eval (f job.bench.record) job :=
  rfl

theorem eval_getFiles_bind (f : FileTree → Work Hook Int) (job : Job Hook) :
    eval (getFiles >>= f) job = eval (f job.bench.machine.tree) job :=
  rfl

/-- An error adds nothing to the metadata. -/
theorem entries_error (text : String) (ec : Int) (job : Job Hook) :
    (eval (error text ec) job).2.bench.record.entries = job.bench.record.entries := by
  obtain ⟨raised, dying, hrecord⟩ := (Scan.still_error text ec job.bench).record
  rw [error, bench_scan, hrecord]

/-- Without a version, nothing is recorded. -/
theorem entries_runToolVersion_of_none (h : Rpm.installedVersion? job.packageList tool = none) :
    (eval (runToolVersion tool) job).2.bench.record.entries = job.bench.record.entries := by
  have herror := entries_error
    ("tool \"" ++ tool ++ "\" does not seem to be installed in build root") 0 job
  rw [Job.packageList] at h
  rw [runToolVersion, eval_getRecord_bind, eval_getFiles_bind]
  simp only [h]
  rw [eval_bind]
  -- whether the error stops the scan or not, the entries are those behind it
  split
  · next hok => rwa [hok] at herror
  · next hstop => rwa [hstop] at herror

/-- A version is recorded as an entry of the metadata. -/
theorem entries_runToolVersion_of_some (h : Rpm.installedVersion? job.packageList tool = some version)
    (hopen : job.bench.record.metadataOpen = true) :
    (eval (runToolVersion tool) job).1 = .ok 0 ∧
      (eval (runToolVersion tool) job).2.bench.record.entries = job.bench.record.entries ++
        [("analyzer-version-" ++ Text.lowercase tool, Text.trim version)] := by
  obtain ⟨t, hput, -⟩ := Scan.eval_putMetadata hopen ("analyzer-version-" ++ Text.lowercase tool)
    version
  have hscan := eval_scan (Scan.putVersion (Text.lowercase tool) version) job
  rw [Scan.putVersion, hput] at hscan
  rw [Job.packageList] at h
  rw [runToolVersion, eval_getRecord_bind, eval_getFiles_bind]
  simp only [h]
  rw [Scan.putVersion, eval_bind_ok hscan]
  exact ⟨rfl, rfl⟩

/-- The first line that begins with the tool, a dash and a digit decides: without one there is no
version, and with one the version is what stands behind the tool up to the next dash in front of a
digit, which for a package with the name of the tool is its version. So if no other line begins like
that, the version is that of the first package with this name. The hook records this version, and
none if no line begins like that. -/
theorem toolVersion_of_lists {list : String} {packages : List Rpm.Package}
    (h : Rpm.Lists list packages) (tool : String) :
    (Rpm.installedVersion? list tool = none ↔ ∀ p ∈ packages, ¬ Rpm.Shows tool p.line) ∧
    (∀ version, Rpm.installedVersion? list tool = some version ↔
      ∃ before p after, packages = before ++ p :: after ∧
        (∀ q ∈ before, ¬ Rpm.Shows tool q.line) ∧ Rpm.ShowsVersion tool version p.line ∧
        (p.name = tool → version = p.version)) ∧
    ((∀ p ∈ packages, Rpm.Shows tool p.line → p.name = tool) →
      Rpm.installedVersion? list tool =
        (packages.find? (·.name = tool)).map Rpm.Package.version) ∧
    ∀ job : Job Hook, job.packageList = list →
      ((∀ p ∈ packages, ¬ Rpm.Shows tool p.line) →
        (eval (runToolVersion tool) job).2.bench.record.entries = job.bench.record.entries) ∧
      ∀ version, Rpm.installedVersion? list tool = some version →
        job.bench.record.metadataOpen = true →
        (eval (runToolVersion tool) job).1 = .ok 0 ∧
        (eval (runToolVersion tool) job).2.bench.record.entries = job.bench.record.entries ++
          [("analyzer-version-" ++ Text.lowercase tool, Text.trim version)] := by
  refine ⟨Rpm.installedVersion?_eq_none_iff h, fun version => ?_, Rpm.installedVersion?_eq_find? h,
    fun job hjob => ⟨fun hnone => ?_, fun version hversion hopen => ?_⟩⟩
  · rw [Rpm.installedVersion?_eq_some_iff h]
    constructor
    · rintro ⟨before, p, after, hcut, hbefore, hshows⟩
      refine ⟨before, p, after, hcut, hbefore, hshows, ?_⟩
      rintro rfl
      -- a package's own line shows its version, and a line shows one version only
      exact hshows.unique p.showsVersion_line
    · rintro ⟨before, p, after, hcut, hbefore, hshows, -⟩
      exact ⟨before, p, after, hcut, hbefore, hshows⟩
  · rw [← Rpm.installedVersion?_eq_none_iff h, ← hjob] at hnone
    exact entries_runToolVersion_of_none hnone
  · rw [← hjob] at hversion
    exact entries_runToolVersion_of_some hversion hopen

def gccPackages : List Rpm.Package :=
  [⟨"gcc-c++", "13.2.1", "6.fc40", "x86_64", by decide, by decide⟩,
    ⟨"gcc", "13.2.1", "6.fc40", "x86_64", by decide, by decide⟩]

/-- Behind a package whose name goes on without a digit, the tool is found. -/
theorem toolVersion_of_lists_gcc :
    let list := "gcc-c++-13.2.1-6.fc40.x86_64\ngcc-13.2.1-6.fc40.x86_64\n"
    let file : Place := ["r", "debug", "rpm-list-mock.txt"]
    let tree : FileTree := { nodes :=
      [(["r"], .dir), (["r", "debug"], .dir), (file, .file (Text.encode list) 0)] }
    let job : Job Hook :=
      { bench := { machine := { tree := tree }, record := { output := "", resdir := "/r" } }
        plan := {} }
    job.packageList = list ∧ Rpm.Lists list gccPackages ∧
      (∀ p ∈ gccPackages, Rpm.Shows "gcc" p.line → p.name = "gcc") ∧
      (eval (runToolVersion "gcc") job).2.bench.record.entries =
        [("analyzer-version-gcc", "13.2.1")] := by
  intro list file tree job
  have hjob : job.packageList = list := by decide +kernel
  have hlist : Rpm.Lists list gccPackages := by
    unfold Rpm.Lists
    decide +kernel
  have honly : ∀ p ∈ gccPackages, Rpm.Shows "gcc" p.line → p.name = "gcc" := by decide +kernel
  obtain ⟨-, -, hfind, hhook⟩ := toolVersion_of_lists hlist "gcc"
  have hversion : Rpm.installedVersion? list "gcc" = some "13.2.1" := hfind honly
  have hentries := ((hhook job hjob).2 _ hversion rfl).2
  have hentry : ("analyzer-version-" ++ Text.lowercase "gcc", Text.trim "13.2.1") =
      ("analyzer-version-gcc", "13.2.1") := by
    decide +kernel
  rw [hentry] at hentries
  exact ⟨hjob, hlist, honly, hentries⟩

/-- The version of a package whose name goes on with a dash and a digit is taken for one of the
tool, which is not installed. -/
theorem not_installed_java :
    let list := "java-1.8.0-openjdk-1.8.0.402-1.fc39.x86_64\n"
    let package : Rpm.Package :=
      ⟨"java-1.8.0-openjdk", "1.8.0.402", "1.fc39", "x86_64", by decide, by decide⟩
    Rpm.Lists list [package] ∧ package.name ≠ "java" ∧
      Rpm.installedVersion? list "java" = some "1.8.0-openjdk" := by
  intro list package
  refine ⟨?_, by decide, by decide +kernel⟩
  unfold Rpm.Lists
  decide +kernel

end Hook

end ChrootScan
