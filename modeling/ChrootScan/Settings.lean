import ChrootScan.Dict
import ChrootScan.Path
import ChrootScan.Text.Blank
import ChrootScan.Text.Case
import ChrootScan.Text.Decimal

/-!
# Settings

What the host decides about every scan: the chroot builder and its profile, the directory of the
helper scripts, the download cache, the time limit of the compiler wrapper, and how much the program
tells about itself. All come from environment variables with defaults.
-/

namespace ChrootScan

/-- Host-side settings that do not change between scans. -/
structure Settings where
  mockBin : String := "/usr/bin/mock"
  mockProfile : String := "default"
  /-- Directory with helper scripts that get copied into the chroot. -/
  scriptsDir : String := "/usr/share/csmock/scripts"
  /-- Download cache for analyzers that are not packaged. -/
  cacheDir : String := "/var/tmp/csmock"
  /-- Time limit for tools run by the compiler wrapper, in seconds. -/
  wrapTimeout : Nat := 30
  logLevel : String := "info"
deriving DecidableEq, Repr

namespace Settings

/-- Settings of an environment. A time limit that is not a number counts as not given. -/
def ofEnvironment (vars : Dict String) : Settings :=
  let standard : Settings := {}
  { mockBin := (vars.get? "CSMOCK_MOCK_BIN").getD standard.mockBin
    mockProfile := (vars.get? "CSMOCK_MOCK_PROFILE").getD standard.mockProfile
    scriptsDir := (vars.get? "CSMOCK_SCRIPTS_DIR").getD standard.scriptsDir
    cacheDir := (vars.get? "CSMOCK_CACHE_DIR").getD standard.cacheDir
    wrapTimeout :=
      ((vars.get? "CSMOCK_CSWRAP_TIMEOUT").bind (Text.numeral? Text.bound64)).getD standard.wrapTimeout
    logLevel := Text.lowercase ((vars.get? "CSMOCK_LOG_LEVEL").getD standard.logLevel) }

/-- What is wrong with settings, checked in the order of the constructors. -/
inductive Fault
  | emptyProfile
  | noTimeout
  | unknownLogLevel (level : String)
  | relativeScriptsDir (dir : String)
deriving DecidableEq, Repr

def Fault.message (fault : Fault) : String :=
  "Configuration validation failed: " ++
    match fault with
    | .emptyProfile => "Mock profile must not be empty"
    | .noTimeout => "cswrap timeout must be at least 1 second"
    | .unknownLogLevel level =>
      "Invalid log level: " ++ level ++ ". Valid options: trace, debug, info, warn, error"
    | .relativeScriptsDir dir => "Scripts directory must be an absolute path: " ++ dir

/-- The names of the log levels, the most detailed first. -/
def levelNames : List String := ["trace", "debug", "info", "warn", "error"]

/-- The first fault of the settings. -/
def validate (s : Settings) : Except Fault Unit :=
  if Text.isBlankText s.mockProfile then .error .emptyProfile
  else if s.wrapTimeout = 0 then .error .noTimeout
  else if !levelNames.contains s.logLevel then .error (.unknownLogLevel s.logLevel)
  else if !Path.isAbsolute s.scriptsDir then .error (.relativeScriptsDir s.scriptsDir)
  else .ok ()

/-- The path of a helper script. -/
def script (s : Settings) (name : String) : String :=
  Path.join s.scriptsDir name

/-- The settings, one `name = value` a line. -/
def display (s : Settings) : String :=
  Text.join "\n" ["mock_bin = " ++ s.mockBin, "mock_profile = " ++ s.mockProfile,
    "scripts_dir = " ++ s.scriptsDir, "cache_dir = " ++ s.cacheDir,
    "cswrap_timeout_secs = " ++ toString s.wrapTimeout, "log_level = " ++ s.logLevel]

end Settings

/-! ## Diagnostics of the program itself -/

/-- How much the program tells about its own work. -/
inductive LogLevel
  | trace | debug | info | warn | error
deriving DecidableEq, Repr

namespace LogLevel

def name : LogLevel → String
  | trace => "TRACE"
  | debug => "DEBUG"
  | info => "INFO"
  | warn => "WARN"
  | error => "ERROR"

/-- The level of a name in any case; a name of no level means `info`. -/
def ofName (s : String) : LogLevel :=
  match Text.lowercase s with
  | "trace" => trace
  | "debug" => debug
  | "warn" => warn
  | "error" => error
  | _ => info

end LogLevel

/-- How the program reports on its own work. -/
structure Logging where
  level : LogLevel := .warn
  useJson : Bool := false
  includeTarget : Bool := false
  includeLocation : Bool := false
deriving DecidableEq, Repr

/-- The reporting that an environment asks for. -/
def Logging.ofEnvironment (vars : Dict String) : Logging :=
  { level := ((vars.get? "CSMOCK_LOG_LEVEL").map LogLevel.ofName).getD .warn
    useJson := vars.get? "CSMOCK_LOG_JSON" == some "true" }

end ChrootScan
