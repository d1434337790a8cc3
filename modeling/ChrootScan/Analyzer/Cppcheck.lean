import ChrootScan.Analyzer.Steps
import ChrootScan.Hook.Basic

/-!
# Cppcheck

Called beside the compiler by a wrapper of its own; either that of the chroot, or a statically
linked one of the host.
-/

namespace ChrootScan.Cppcheck

open Setup

structure Options where
  /-- The executable of the host is used. -/
  useHost : Bool := false
  addFlags : List String := []
deriving DecidableEq, Repr

/-- Tells whether the executable of the host needs a library for XML. -/
def xmlProbe : String := "rpm -q cppcheck --requires | grep tinyxml2 > /dev/null"

/-- Takes the executable of the host along, with the data that it needs. -/
def copyInHost {σ : Type} : Setup Hook σ Unit := do
  if ← shellSucceeds xmlProbe then install ["tinyxml2"]
  copyIn ["/usr/bin/cppcheck"]
  ["/usr/share/Cppcheck", "/usr/share/cppcheck"].forM fun dir => do
    if ← ask fun host s => host.isDir s dir then copyIn [dir]

def configure {σ : Type} (o : Options) : Setup Hook σ Unit := do
  enableWrap
  limitTime ["cppcheck"]
  filterCapture ("csgrep --mode=json --invert-match --checker CPPCHECK_WARNING "
    ++ "--event 'cppcheckError|internalAstError|normalCheckLevelMaxBranches|"
    ++ "preprocessorErrorDirective|syntaxError|unknownMacro'")
  setFlagsVar "CSCPPC_ADD_OPTS" o.addFlags
  let _ ← wrapCompiler "cscppc"
  copyIn ["/usr/share/cscppc"]
  if o.useHost then copyInHost else install ["cppcheck"]
  addHook .postDepinst (.cppcheckVersion o.useHost)

/-- Records the version of the executable in the chroot. -/
def runVersion (onHost : Bool) : Work Hook Int := do
  let (code, out) ← Work.scan (Chroot.outputOf "cppcheck --version")
  if code ≠ 0 then
    if onHost then
      Hook.error "--use-host-cppcheck expects statically linked cppcheck installed on the host" 0
    Hook.error "failed to query cppcheck version" code
    return code
  let out := Text.trim out
  Work.scan (Scan.putVersion "cppcheck" ((Text.afterLead? "Cppcheck " out).getD out))
  return 0

def analyzer {σ : Type} (o : Options) : Analyzer Hook σ where
  name := "cppcheck"
  description := "Static analysis tool for C/C++ code."
  stability := .stable
  priority := 0x20
  autoEnabled := o.useHost
  configure := configure o

end ChrootScan.Cppcheck
