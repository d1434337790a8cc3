import ChrootScan.Analyzer.Clippy
import ChrootScan.Analyzer.Cppcheck
import ChrootScan.Analyzer.Dynamic
import ChrootScan.Analyzer.Gcc
import ChrootScan.Analyzer.Gitleaks
import ChrootScan.Analyzer.Infer
import ChrootScan.Analyzer.Semgrep
import ChrootScan.Analyzer.Snyk
import ChrootScan.Analyzer.Unicontrol

/-!
# What hooks do

The one table from hooks to the work that they stand for. No hook schedules another one into the
phase that it runs in, so all are of one rank.
-/

namespace ChrootScan.Hook

/-- Runs a hook. -/
def run : Hook → Work Hook Int
  | toolVersion tool => runToolVersion tool
  | chrootCmd _ command asBuilder => runChrootCmd command asBuilder
  | hostCmd _ render => runHostCmd render
  | metadata key value => runMetadata key value
  | convert name conversion => runConvert name conversion
  | gccAnalyzer a => Gcc.runAnalyzer a
  | cppcheckVersion onHost => Cppcheck.runVersion onHost
  | valgrindCleanup => Valgrind.runCleanup
  | unicontrolScan scanner => Unicontrol.runScan scanner
  | gitleaksFetch tarball config => Gitleaks.runFetch tarball config
  | semgrepPrepare rules => Semgrep.runPrepare rules
  | semgrepScan scan => Semgrep.runScan scan
  | snykFetch source => Snyk.runFetch source
  | snykResolvConf => Snyk.runResolvConf
  | snykScan scan => Snyk.runScan scan
  | snykStats => Snyk.runStats

/-- The hooks of the analyzers, as the pipeline sees them. -/
def model : HookModel Hook where
  name := name
  rank := fun _ => 0
  run := run

end ChrootScan.Hook
