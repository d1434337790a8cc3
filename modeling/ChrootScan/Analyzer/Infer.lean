import ChrootScan.Analyzer.Steps
import ChrootScan.Report.Infer

/-!
# Infer as an analyzer

Infer is installed in the chroot from an archive of the host and analyzes after the build; its
report is filtered and converted once it is copied out.
-/

namespace ChrootScan.Infer

open Setup

structure Options where
  analyzeAddFlags : List String := []
  /-- The archive with the binary release. -/
  archivePath : Option String := none
  filter : Option Bool := none
  biabductionFilter : Option Bool := none
  inferboFilter : Option Bool := none
  uninitFilter : Option Bool := none
  deadStoreSeverity : Option Bool := none
deriving DecidableEq, Repr

/-- The filters that options choose; all run unless they are switched off. -/
def Options.filters (o : Options) : Filters :=
  if o.filter.getD true then
    { biabduction := o.biabductionFilter.getD true
      inferbo := o.inferboFilter.getD true
      uninit := o.uninitFilter.getD true
      deadStore := o.deadStoreSeverity.getD true }
  else .off

def outDir : String := "/builddir/infer-out"
def report : String := outDir ++ "/report.json"

/-- The command that analyzes what the build has recorded. -/
def Options.analyzeCmd (o : Options) : String :=
  let flags :=
    if o.analyzeAddFlags.isEmpty then "--pulse --bufferoverrun"
    else Text.join " " o.analyzeAddFlags
  "infer analyze --keep-going " ++ flags ++ " -o " ++ outDir

/-! ## The archive -/

def archiveDir : String := "/opt"

/-- The name of a binary release: the two parts on one line, in this order. -/
def isArchiveName (name : String) : Bool :=
  let rest? (s : List Char) : Option Unit :=
    ("infer-linux".toList.isPrefixOf? s).bind fun rest =>
      if Text.containsChars ".tar.xz".toList (firstLine rest) then some () else none
  (Text.cutWhere? rest? name.toList).isSome

def missingArchive : String :=
  "The Infer plugin requires an archive with the binary release of Infer. "
    ++ "The archive can be downloaded from https://github.com/facebook/infer/releases. "
    ++ "By default, the plugin looks for the archive in /opt/infer-linux*.tar.xz. "
    ++ "Alternatively, the \"--infer-archive-path INFER_ARCHIVE_PATH\" option can be used to "
    ++ "specify the path to the archive."

/-- The greatest of some names. -/
def greatest? : List String → Option String
  | [] => none
  | name :: rest => some (rest.foldl (fun a b => if a < b then b else a) name)

/-- The archive to install: the one given, or the last one by name in the usual place. -/
def findArchive {σ : Type} (given : Option String) : Setup Hook σ String := do
  match given with
  | some path =>
    if !(← ask fun host s => host.isFile s path) then
      reject ("--infer-archive-path: given path \"" ++ path ++ "\" doesn't exist")
    return Path.absolute (← read).cwd path
  | none =>
    let names ← ask fun host s => (host.names s archiveDir).toOption.getD []
    match greatest? (names.filter isArchiveName) with
    | some name => return archiveDir ++ "/" ++ name
    | none => reject missingArchive

/-! ## Configuration -/

/-- The conversion of a report into findings. -/
def conversion (filters : Filters) : Conversion where
  capture := report
  output := "infer-results.err"
  reader := "csgrep --quiet"
  convert := fun bytes =>
    match convert filters bytes with
    | .ok (text, _) => (text, .ok ())
    | .error e => ("", .error e)

def configure {σ : Type} (o : Options) : Setup Hook σ Unit := do
  install ["python", "ncurses-compat-libs", "ncurses-libs"]
  let archive ← findArchive o.archivePath
  copyIn [archive]
  let script ← helper "install-infer.sh"
  addHook .postDepinst
    (.chrootCmd "install-infer" (script ++ " " ++ archive ++ " " ++ outDir) false)
  afterBuild o.analyzeCmd
  copyOut report
  addHook .postProcess (.convert "infer-filter" (conversion o.filters))

def analyzer {σ : Type} (o : Options) : Analyzer Hook σ where
  name := "infer"
  description := "Static analysis tool for Java/C/C++ code."
  configure := configure o

end ChrootScan.Infer
