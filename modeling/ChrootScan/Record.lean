import ChrootScan.Archive
import ChrootScan.Chroot
import ChrootScan.Shell.Command
import ChrootScan.Text.Blank
import ChrootScan.Text.Shown

/-!
# The record of a scan

A scan leaves a directory, or a tarball of one, with a log that every command is echoed into and a
file of metadata. `Record` is its state, above all the exit code: it only grows, by every error, by
`128 + s` for every signal `s` caught, and by every exit code above 128 of a command. At a checkpoint
a code between 128 and 192 turns into a fatal error, once; after that the scan is `dying`, and what
still runs, such as cleaning up, is not stopped again.
-/

namespace ChrootScan

/-- What is known of the results while a scan runs. -/
structure Record where
  /-- The directory or tarball to write. -/
  output : String
  tool : String := "csmock"
  /-- Errors do not stop the scan. -/
  keepGoing : Bool := false
  /-- The chroot and the temporary files stay. -/
  noClean : Bool := false
  kind : OutputKind := .directory
  /-- The top-level directory inside a tarball. -/
  dirname : String := ""
  /-- The exit code so far. -/
  ec : Int := 0
  /-- A fatal error happened. -/
  dying : Bool := false
  tmpdir : String := ""
  /-- The directory of the results. -/
  resdir : String := ""
  logOpen : Bool := true
  metadataOpen : Bool := true
  /-- The metadata, in the order of writing. -/
  entries : List (String × String) := []
deriving DecidableEq, Repr

namespace Record

def debugDir (r : Record) : String := Path.join r.resdir "debug"
def rawDir (r : Record) : String := Path.join r.debugDir "raw-results"
def uniDir (r : Record) : String := Path.join r.debugDir "uni-results"
def logPath (r : Record) : String := Path.join r.resdir "scan.log"
def metadataPath (r : Record) : String := Path.join r.resdir "scan.ini"

/-- Where a file copied out of the chroot lands. -/
def rawPath (r : Record) (chrootPath : String) : String :=
  Path.join r.rawDir (Text.dropLeading '/' chrootPath)

/-- Raises the exit code. -/
def raiseCode (r : Record) (ec : Int) : Record :=
  if r.ec < ec then { r with ec := ec } else r

/-- One entry of the metadata as it is written: blanks around the value are cut off. -/
def metadataLine (key value : String) : String :=
  key ++ " = " ++ Text.trim value ++ "\n"

end Record

/-- A machine, the record of the scan that runs on it, and the chroot of the scan. -/
structure Bench where
  machine : Machine
  record : Record
  chroot : Chroot := {}

/-- Work that may fail, on a machine and a record; what was done before the failure stays. -/
abbrev Scan (α : Type) := ExceptT ScanError (StateM Bench) α

namespace Scan

/-! ## The log -/

def getRecord : StateM Bench Record := do
  return (← get).record

def modifyRecord (f : Record → Record) : StateM Bench Unit :=
  modify fun b => { b with record := f b.record }

def modifyMachine (f : Machine → Machine) : StateM Bench Unit :=
  modify fun b => { b with machine := f b.machine }

/-- Runs an operation of the machine. -/
def onMachine {α : Type} (f : Machine → α × Machine) : StateM Bench α :=
  modifyGet fun b => let (a, m) := f b.machine; (a, { b with machine := m })

/-- Appends to a file. -/
def appendFile (path : String) (bytes : ByteArray) : StateM Bench Unit :=
  modifyMachine fun m => { m with tree := m.tree.appendBytes path bytes }

/-- Appends to the log, while it is open. -/
def logBytes (bytes : ByteArray) : StateM Bench Unit := do
  let r ← getRecord
  if r.logOpen then appendFile r.logPath bytes

/-- Appends to the log, while it is open. -/
def log (text : String) : StateM Bench Unit :=
  logBytes (Text.encode text)

/-- Logs a line with the time of day. -/
def logStamped (lead text : String) : StateM Bench Unit := do
  let time := (← get).machine.clock
  log (lead ++ time ++ "\t" ++ text ++ "\n")

def infoLead : String := ">>> "
def errorLead : String := "!!! "
def doneLead : String := "<<< "

/-! ## The exit code -/

def raiseCode (ec : Int) : StateM Bench Unit :=
  modifyRecord (·.raiseCode ec)

/-- Records a signal that was caught. -/
def absorb (signal : Int) : StateM Bench Unit := do
  logStamped errorLead ("error: caught signal " ++ toString signal ++ "\n")
  raiseCode (128 + signal)

/-- Records the pending signal, if there is one. -/
def absorbPending : StateM Bench Unit := do
  match ← onMachine Machine.takeSignal with
  | some signal => absorb signal
  | none => pure ()

/-- Records an error that always stops the scan, and gives the error to stop with. From here on
the scan is dying, so the signal that may be pending does not stop it once more. -/
def fatal (text : String) (ec : Int) : StateM Bench ScanError := do
  modifyRecord fun r => { r with dying := true }
  logStamped errorLead ("fatal error: " ++ text ++ "\n")
  absorbPending
  raiseCode ec
  return .fatal (max (← getRecord).ec ec)

/-- The exit code is that of a caught signal. -/
def isSignalCode (ec : Int) : Bool :=
  128 < ec && ec < 128 + 64

/-- Stops the scan for a signal, unless it is dying already. -/
def checkpoint : Scan Unit := do
  absorbPending
  let r ← getRecord
  if !r.dying && isSignalCode r.ec then
    throw (← fatal ("caught signal " ++ toString (r.ec - 128)) r.ec)

/-- Logs a line with the given lead, then looks for signals. -/
def printLead (lead text : String) : Scan Unit := do
  logStamped lead text
  checkpoint

/-- Logs a line, then looks for signals. -/
def print (text : String) : Scan Unit :=
  printLead infoLead text

/-- Records an error. It stops the scan unless errors do not, or nothing is on record yet. -/
def error (text : String) (ec : Int) : Scan Unit := do
  logStamped errorLead ("error: " ++ text ++ "\n")
  checkpoint
  raiseCode ec
  let r ← getRecord
  if !r.dying && !r.keepGoing && r.ec ≠ 0 then throw (.fatal r.ec)

/-- Stops the scan with a fatal error. -/
def failFatal {α : Type} (text : String) (ec : Int) : Scan α := do
  throw (← fatal text ec)

/-- Takes account of an exit code above 128. -/
def noteStatus (code : Int) : Scan Unit := do
  if code > 128 then
    raiseCode code
    checkpoint

/-! ## Commands -/

/-- Starts the program of a command. -/
def start (command : Shell.Command) : StateM Bench (Except SystemError ChildRun) :=
  onMachine fun m => m.start command.program

/-- The exit code for a command that could not be started. -/
def refusalCode : SystemError → Int
  | .notFound => 127
  | _ => 126

/-- Logs why a command could not be started. -/
def logRefusal (cause : SystemError) : StateM Bench Int := do
  log (cause.message ++ "\n")
  return refusalCode cause

/-- The name of the running child, as far as anybody can tell. -/
def childName : String := "0"

/-- Passes a signal on to the running child; the answer is the signal if it was delivered. -/
def passOn (signal : Int) : StateM Bench (Option Int) := do
  absorb signal
  match ← onMachine fun m => m.forward signal childName with
  | .ok () => return some signal
  | .error e =>
    logStamped errorLead ("error: failed to kill child process: " ++ e.message ++ "\n")
    return none

/-- Passes on signals in turn; the answer is the last one delivered. -/
def passOnAll (delivered : Option Int) : List Int → StateM Bench (Option Int)
  | [] => return delivered
  | signal :: rest => do
    let now ← passOn signal
    passOnAll (now.or delivered) rest

/-- Runs a command, its output going into the log, and gives its exit code. -/
def execWith (echo : Bool) (command : Shell.Command) : Scan Int := do
  checkpoint
  if echo then print command.display
  match ← start command with
  | .error cause => logRefusal cause
  | .ok run =>
    logBytes run.out
    logBytes run.err
    let delivered ← passOnAll none run.arrivals
    log "\n"
    let code := (run.ending delivered).code
    noteStatus code
    return code

/-- Runs a command, echoing it first, and gives its exit code. -/
def exec (command : Shell.Command) : Scan Int :=
  execWith true command

/-- Runs a command for its exit code and its output; what it says on standard error goes into the
log. Signals that arrive meanwhile stay pending. -/
def output (command : Shell.Command) : Scan (Int × String) := do
  checkpoint
  match ← start command with
  | .error cause => return (← logRefusal cause, "")
  | .ok run =>
    modifyMachine fun m => run.arrivals.foldl Machine.raise m
    logBytes run.err
    let code := (run.ending none).code
    noteStatus code
    return (code, Text.decodeLossy run.out)

/-! ## Metadata -/

/-- Appends text to the metadata file, and to the log. -/
def writeMetadata (text : String) : Scan Unit := do
  let r ← getRecord
  if !r.metadataOpen then throw (.system (.other "scan.ini has already been closed"))
  appendFile r.metadataPath (Text.encode text)
  log ("scan.ini: " ++ text)

/-- Appends an entry to the metadata. -/
def putMetadata (key value : String) : Scan Unit := do
  writeMetadata (Record.metadataLine key value)
  modifyRecord fun r => { r with entries := r.entries ++ [(key, Text.trim value)] }

/-- Records the version of an analyzer. -/
def putVersion (analyzer version : String) : Scan Unit :=
  putMetadata ("analyzer-version-" ++ analyzer) version

/-! ## Files -/

/-- The files as they are now. -/
def files : StateM Bench FileTree := do
  return (← get).machine.tree

/-- A change of the files that may be refused. -/
def changeFiles (f : FileTree → Except SystemError FileTree) :
    StateM Bench (Except SystemError Unit) := do
  match f (← get).machine.tree with
  | .error e => return .error e
  | .ok tree =>
    modifyMachine fun m => { m with tree := tree }
    return .ok ()

/-- A change of the files; a refusal fails. -/
def changingFiles (f : FileTree → Except SystemError FileTree) : Scan Unit := do
  match ← changeFiles f with
  | .ok () => pure ()
  | .error e => throw (.system e)

end Scan

/-! ## Beginning and end -/

namespace Record

/-- What results are started with. -/
structure Options where
  output : String
  tool : String := "csmock"
  toolVersion : String := "0.1.0"
  /-- The command line of the scan, kept in the metadata. -/
  toolArgs : List String := []
  keepGoing : Bool := false
  noClean : Bool := false
deriving DecidableEq, Repr

/-- The directory for temporary files. -/
def tmpRoot (m : Machine) : String :=
  (m.vars.get? "TMPDIR").getD "/tmp"

/-- Creates the directory of the results and its layout. -/
def layOut (r : Record) (t : FileTree) : Except SystemError FileTree := do
  let t ← t.createDir r.debugDir
  let t ← t.createDir r.rawDir
  let t ← t.createDir r.uniDir
  let empty := Path.join r.uniDir "empty.err"
  let t ← t.writeBytes empty .empty
  let t ← t.setMode empty 0o444
  let t ← t.writeBytes r.logPath .empty
  t.writeBytes r.metadataPath .empty

/-- The record that options ask for, with its temporary directory at `tmpdir`. -/
def ofOptions (o : Options) (tmpdir : String) : Record :=
  let (kind, dirname) := OutputKind.classify o.output
  { output := o.output, tool := o.tool, keepGoing := o.keepGoing, noClean := o.noClean, kind, dirname
    tmpdir
    resdir := if kind.isArchive then Path.join tmpdir dirname else o.output }

/-- The first entries of the metadata. -/
def firstEntries (o : Options) (m : Machine) : List (String × String) :=
  [("tool", o.tool), ("tool-version", o.toolVersion),
    ("tool-args", Shell.commandLine .wrapped o.toolArgs), ("host", m.hostname),
    ("store-results-to", o.output), ("time-created", m.clock)]

/-- Takes a directory away, if it is there. -/
def discard (t : FileTree) (path : String) : FileTree :=
  (t.removeAll path).2

/-- Takes an output directory away that is to be replaced. -/
def clearOutput (r : Record) (t : FileTree) : Except SystemError Unit × FileTree :=
  if !r.kind.isArchive && t.exists? r.output then t.removeAll r.output else (.ok (), t)

/-- Makes the directory of the results and what is in it from the start. The files are those left
behind, with or without success. -/
def makeRoom (r : Record) (t : FileTree) : Except ScanError Unit × FileTree :=
  match clearOutput r t with
  | (.error e, cleared) => (.error (.system e), cleared)
  | (.ok (), cleared) =>
    match cleared.createDir r.resdir with
    | .error _ => (.error (.fatal 1), cleared)
    | .ok made =>
      match layOut r made with
      | .error e => (.error (.system e), made)
      | .ok t => (.ok (), t)

/-- Writes the first entries of the metadata. -/
def begin (o : Options) : Scan Unit := do
  Scan.writeMetadata "[scan]\n"
  (firstEntries o (← get).machine).forM fun (key, value) => Scan.putMetadata key value

/-- Creates the results of a scan and starts its log and metadata. If that fails, the temporary
directory is gone again. -/
def create (o : Options) (m : Machine) : Except ScanError Bench × Machine :=
  let tmpdir := Path.join (tmpRoot m) (o.tool ++ m.fresh)
  match m.tree.createDir tmpdir with
  | .error e => (.error (.system (.other (e.message ++ " at path " ++ Text.shown tmpdir))), m)
  | .ok tree =>
    let r := ofOptions o tmpdir
    match makeRoom r tree with
    | (.error e, t) => (.error e, { m with tree := discard t tmpdir })
    | (.ok (), t) =>
      match (begin o).run.run { machine := { m with tree := t }, record := r } with
      | (.ok (), b) => (.ok b, b.machine)
      | (.error e, b) => (.error e, { b.machine with tree := discard b.machine.tree tmpdir })

/-- Writes the tarball of the results, if there is to be one. -/
def pack : StateM Bench (Except Failure Unit) := do
  let r ← Scan.getRecord
  Scan.onMachine fun m => Archive.create m r.kind r.output r.tmpdir r.dirname

/-- Removes the temporary directory. -/
def dropTmpdir : StateM Bench Unit := do
  let r ← Scan.getRecord
  Scan.modifyMachine fun m => { m with tree := discard m.tree r.tmpdir }

/-- Closes the metadata and the log, writes the tarball and removes the temporary directory. The
answer is the exit code of the scan. -/
def finish : Scan Int := do
  let r ← Scan.getRecord
  if r.metadataOpen then
    Scan.putMetadata "time-finished" (← get).machine.clock
    Scan.putMetadata "exit-code" (toString r.ec)
    Scan.modifyRecord fun r => { r with metadataOpen := false }
  if r.noClean then
    Scan.logStamped Scan.infoLead ("temporary directory preserved: " ++ r.tmpdir)
  Scan.logStamped Scan.doneLead (r.tool ++ " exit code: " ++ toString r.ec ++ "\n")
  Scan.modifyRecord fun r => { r with logOpen := false }
  match ← pack with
  | .error _ => throw (.fatal (max r.ec 1))
  | .ok () =>
    if !r.noClean then dropTmpdir
    return r.ec

end Record

end ChrootScan
