import ChrootScan.Pipeline
import ChrootScan.Report.UnicodeControl
import ChrootScan.Text.Case

/-!
# Hooks

What analyzers schedule into the phases of a scan. The first few constructors serve any analyzer,
each of the others belongs to one.
-/

namespace ChrootScan

/-- The conversion of a file copied out of the chroot into findings. -/
structure Conversion where
  /-- Where the file was in the chroot. -/
  capture : String
  /-- The name of the file that takes the findings. -/
  output : String
  /-- The command that reads the converted text. -/
  reader : String
  /-- Converts the content; what was written before a failure is kept. -/
  convert : ByteArray → String × Except Failure Unit

/-- A file that is downloaded unless it is in the cache. -/
structure Download where
  /-- The analyzer it is for. -/
  tool : String
  url : String
  cacheDir : String
  /-- It is downloaded even if it is in the cache. -/
  refresh : Bool := false
deriving DecidableEq, Repr

/-- Where an executable comes from. -/
inductive Source
  | installed (path : String)
  | download (d : Download)
deriving DecidableEq, Repr

/-- How the analyzer inside the C compiler is called. -/
structure InlineAnalyzer where
  /-- The directory of the wrapper that calls it. -/
  wrapPath : String
  /-- A compiler other than that of the chroot. -/
  compiler : Option String := none
  addFlags : List String := []
deriving DecidableEq, Repr

/-- How the rules-based scanner is called. -/
structure RulesScan where
  metrics : String := "off"
  verbose : Bool := false
  options : Option String := none
deriving DecidableEq, Repr

/-- How the online scanner is called. -/
structure OnlineScan where
  program : String
  /-- The file with the authentication token. -/
  token : String
  options : Option String := none
  /-- In seconds; zero is no limit. -/
  timeout : Nat := 18000
deriving DecidableEq, Repr

inductive Hook
  /-- Records the version of a tool from the list of installed packages. -/
  | toolVersion (tool : String)
  /-- Runs a shell command in the chroot. -/
  | chrootCmd (name command : String) (asBuilder : Bool)
  /-- Runs a shell command on the host, rendered when the hook runs; it may turn out that there is
  nothing to do. -/
  | hostCmd (name : String) (render : Bench → Option String)
  /-- Writes an entry of the metadata. -/
  | metadata (key value : String)
  | convert (name : String) (conversion : Conversion)
  | gccAnalyzer (analyzer : InlineAnalyzer)
  | cppcheckVersion (onHost : Bool)
  | valgrindCleanup
  | unicontrolScan (scanner : UnicodeControl.Scanner)
  | gitleaksFetch (tarball : Download) (config : Option String)
  | semgrepPrepare (rules : String)
  | semgrepScan (scan : RulesScan)
  | snykFetch (source : Source)
  | snykResolvConf
  | snykScan (scan : OnlineScan)
  | snykStats

namespace Hook

/-- The name of a hook in the log. -/
def name : Hook → String
  | toolVersion tool => Text.lowercase tool ++ "-version"
  | chrootCmd name _ _ => name
  | hostCmd name _ => name
  | metadata key _ => "ini-" ++ key
  | convert name _ => name
  | gccAnalyzer _ => "gcc-analyzer"
  | cppcheckVersion _ => "cppcheck-version"
  | valgrindCleanup => "valgrind-cleanup"
  | unicontrolScan _ => "unicontrol-scan"
  | gitleaksFetch _ _ => "gitleaks-fetch"
  | semgrepPrepare _ => "semgrep-prepare"
  | semgrepScan _ => "semgrep-scan"
  | snykFetch _ => "snyk-fetch"
  | snykResolvConf => "snyk-resolv-conf"
  | snykScan _ => "snyk-scan"
  | snykStats => "snyk-stats"

end Hook

end ChrootScan
