import ChrootScan.Analyzer.Clang
import ChrootScan.Analyzer.Clippy
import ChrootScan.Analyzer.Cppcheck
import ChrootScan.Analyzer.Dynamic
import ChrootScan.Analyzer.Gcc
import ChrootScan.Analyzer.Gitleaks
import ChrootScan.Analyzer.Infer
import ChrootScan.Analyzer.Order
import ChrootScan.Analyzer.Scripts
import ChrootScan.Analyzer.Semgrep
import ChrootScan.Analyzer.Smatch
import ChrootScan.Analyzer.Snyk
import ChrootScan.Analyzer.Unicontrol

/-!
# The registry of analyzers

The analyzers that there are, which of them a selection enables, and their configuration in order.
-/

namespace ChrootScan

/-- The options of all analyzers. -/
structure AnalyzerOptions where
  gcc : Gcc.Options := {}
  clang : Clang.Options := {}
  cppcheck : Cppcheck.Options := {}
  shellcheck : Shellcheck.Options := {}
  pylint : Pylint.Options := {}
  bandit : Bandit.Options := {}
  unicontrol : Unicontrol.Options := {}
  infer : Infer.Options := {}
  valgrind : Valgrind.Options := {}
  strace : Strace.Options := {}
  divine : Divine.Options := {}
  symbiotic : Symbiotic.Options := {}
  cbmc : Cbmc.Options := {}
  gitleaks : Gitleaks.Options := {}
  semgrep : Semgrep.Options := {}
  snyk : Snyk.Options := {}
deriving DecidableEq, Repr

/-- Which analyzers the user asks for. -/
structure ToolSelection where
  /-- The names given, if any were. -/
  tools : Option (List String) := none
  /-- All stable ones. -/
  allTools : Bool := false
deriving DecidableEq, Repr

/-- The analyzers that there are. -/
abbrev Registry (η σ : Type) := List (Analyzer η σ)

namespace Registry

variable {η σ : Type}

/-- All analyzers, with their options. -/
def ofOptions (o : AnalyzerOptions) : Registry Hook σ :=
  [Gcc.analyzer o.gcc, Clang.analyzer o.clang, Cppcheck.analyzer o.cppcheck, Smatch.analyzer,
    Shellcheck.analyzer o.shellcheck, Pylint.analyzer o.pylint, Bandit.analyzer o.bandit,
    Clippy.analyzer, Unicontrol.analyzer o.unicontrol, Infer.analyzer o.infer,
    Valgrind.analyzer o.valgrind, Strace.analyzer o.strace, Divine.analyzer o.divine,
    Symbiotic.analyzer o.symbiotic, Cbmc.analyzer o.cbmc, Gitleaks.analyzer o.gitleaks,
    Semgrep.analyzer o.semgrep, Snyk.analyzer o.snyk]

/-- The analyzer with a name. -/
def get? (r : Registry η σ) (name : String) : Option (Analyzer η σ) :=
  r.find? (·.name == name)

/-! ## Selection -/

/-- The analyzers enabled when none are asked for. -/
def defaultTools : List String := ["clang", "cppcheck", "gcc"]

/-- The names that a list of names gives, without blanks around them and without blank ones. -/
def givenNames (tools : List String) : List String :=
  (tools.map Text.trim).filter (· ≠ "")

/-- A name has to be known. -/
def known (r : Registry η σ) (name : String) : Except ScanError Unit :=
  match r.get? name with
  | some _ => .ok ()
  | none =>
    .error (.usage ("unknown tool: " ++ name
      ++ " (use 'csmock list-tools' to see the available tools)"))

/-- The names that a selection asks for by name. -/
def selected (r : Registry η σ) (s : ToolSelection) : Except ScanError (List String) :=
  match s.tools with
  | some tools => do
    (givenNames tools).forM r.known
    return givenNames tools
  | none =>
    .ok (if s.allTools then [] else defaultTools.filter fun name => (r.get? name).isSome)

/-- A selection or its own options enable an analyzer, whatever names are given. -/
def enabledAnyway (s : ToolSelection) (a : Analyzer η σ) : Bool :=
  (s.allTools && a.stability == .stable) || a.autoEnabled

/-- The names of the analyzers that are enabled, in alphabetical order. -/
def enabled (r : Registry η σ) (s : ToolSelection) : Except ScanError (List String) := do
  let names ← r.selected s
  let all := names ++ (r.filter (enabledAnyway s)).map (·.name)
  return (Dict.ofList (all.map fun name => (name, ()))).keys

/-! ## Configuration -/

/-- What decides the place of an analyzer. -/
def ranked (a : Analyzer η σ) : Ranked :=
  { name := a.name, priority := a.priority, before := a.before }

/-- Configures analyzers in the given order, those with the given names as enabled; the answer is
their names. -/
def configureAll (enabled : List String) : List (Analyzer η σ) → Setup η σ (List String)
  | [] => return []
  | a :: rest => do
    if enabled.contains a.name then
      a.configure
      return a.name :: (← configureAll enabled rest)
    else
      a.configureDisabled
      configureAll enabled rest

/-- Lets every analyzer edit the plan, in order; the answer is the names of those enabled. -/
def configure (r : Registry η σ) (s : ToolSelection) : Setup η σ (List String) := do
  let enabled ← r.enabled s
  let ordered ← Ranked.arrange ranked r
  configureAll enabled ordered

end Registry

end ChrootScan
