import ChrootScan.Hook

/-!
# The common hooks

What the hooks do that any analyzer may use.
-/

namespace ChrootScan.Hook

open Work

/-! ## Steps of hooks -/

/-- Runs a command that goes into the log. -/
def exec (command : Shell.Command) : Work Hook Int :=
  scan (Scan.exec command)

/-- Records an error. -/
def error (text : String) (ec : Int) : Work Hook Unit :=
  scan (Scan.error text ec)

/-- Logs a line. -/
def print (text : String) : Work Hook Unit :=
  scan (Scan.print text)

/-- Where a file copied out of the chroot lands. -/
def rawPath (path : String) : Work Hook String := do
  return (← getRecord).rawPath path

/-- A place for findings. -/
def uniPath (name : String) : Work Hook String := do
  return Path.join (← getRecord).uniDir name

/-- A place for a temporary file. -/
def tmpPath (name : String) : Work Hook String := do
  return Path.join (← getRecord).tmpdir name

/-! ## Hooks -/

/-- Records the version of a tool, which must be installed. -/
def runToolVersion (tool : String) : Work Hook Int := do
  let list := Pipeline.packageList (← getRecord)
  let content := ((← getFiles).readText list).toOption.getD ""
  match Rpm.installedVersion? content tool with
  | some version =>
    scan (Scan.putVersion (Text.lowercase tool) version)
    return 0
  | none =>
    error ("tool \"" ++ tool ++ "\" does not seem to be installed in build root") 0
    return 1

/-- Runs a command in the chroot. -/
def runChrootCmd (command : String) (asBuilder : Bool) : Work Hook Int :=
  scan (if asBuilder then Chroot.execBuilder command else Chroot.execRoot command)

/-- Runs a command on the host, if there is one to run. -/
def runHostCmd (render : Bench → Option String) : Work Hook Int := do
  match render (← get).bench with
  | some command => exec (.shell command)
  | none => return 0

/-- Writes an entry of the metadata. -/
def runMetadata (key value : String) : Work Hook Int := do
  scan (Scan.putMetadata key value)
  return 0

/-- Converts a file into a temporary one, as far as it can be converted. -/
def convertInto (c : Conversion) (source target : String) : Work Hook (Except Failure Unit) := do
  match (← getFiles).readBytes source with
  | .error e => return .error ((Failure.ofSystem e).within ("Failed to open " ++ source))
  | .ok bytes =>
    let (text, result) := c.convert bytes
    match (← getFiles).writeBytes target (Text.encode text) with
    | .error e => return .error ((Failure.ofSystem e).within ("Failed to create " ++ target))
    | .ok tree =>
      changingFiles fun _ => .ok tree
      return result

/-- Converts a file that was copied out of the chroot and hands the text to its reader. -/
def runConvert (name : String) (c : Conversion) : Work Hook Int := do
  let source ← rawPath c.capture
  if !(← getFiles).isFile source then
    print ("capture not found: " ++ source)
    return 1
  let converted ← tmpPath (name ++ ".txt")
  match ← convertInto c source converted with
  | .error e =>
    print (name ++ ": " ++ e.full)
    return 1
  | .ok () =>
    exec (.shell (c.reader ++ Findings.operand converted ++ Findings.redirect (← uniPath c.output)))

end ChrootScan.Hook
