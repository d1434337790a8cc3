import ChrootScan.Dict
import ChrootScan.FileTree

/-!
# The machine a scan runs on

A scan sees files, an environment, a clock, programs that it can start, a network, and signals that
reach it at any time. `Machine` holds all of them as a value. What programs do is given by
`behaviour`, one answer for every program start, what the network sends by `network`, one answer for
every request, and when signals arrive by `arrivals`, one answer for every time the scan looks. All
three may be any functions, so a statement about all machines is a statement about all outcomes of
programs, all answers of the network and all arrival times of signals.
-/

namespace ChrootScan

/-- How a program ended. -/
inductive Ending
  | exited (code : Int)
  | killed (signal : Int)
deriving DecidableEq, Repr

namespace Ending

/-- The exit code by which a shell reports an ending. -/
def code : Ending → Int
  | exited c => c
  | killed s => 128 + s

/-- The program exited with zero. -/
def succeeded : Ending → Bool
  | exited c => c == 0
  | killed _ => false

/-- The wording of an ending. -/
def message : Ending → String
  | exited c => "exit status: " ++ toString c
  | killed s => "signal: " ++ toString s

end Ending

/-- What a program does once it has started. -/
structure ChildRun where
  /-- The path it was found at. -/
  location : String
  /-- Files that it writes first. -/
  writes : List (String × ByteArray) := []
  out : ByteArray := .empty
  err : ByteArray := .empty
  /-- It runs until a signal ends it or nothing is left to wait for. -/
  waits : Bool := false
  /-- Signals that reach the scan while the program runs. -/
  arrivals : List Int := []
  /-- How it ends, given the last signal passed on to it, if any. -/
  ending : Option Int → Ending := fun _ => .exited 0

/-- The answer to a program start. -/
inductive Launch
  | refused (cause : SystemError)
  | started (run : ChildRun)

/-- A program start on record. -/
structure Call where
  location : String
  argv : List String
deriving DecidableEq, Repr

/-- What programs do: the answer to the `n`-th program start, given the files and the environment at
that time and the words of the call. -/
abbrev Behaviour := Nat → FileTree → Dict String → List String → Launch

/-- The status that an answer from the network begins with. -/
structure Status where
  code : Nat
  /-- What the code stands for, in words. -/
  reason : String
deriving DecidableEq, Repr

namespace Status

def isSuccess (s : Status) : Bool :=
  200 ≤ s.code && s.code < 300

/-- The wording of a status. -/
def message (s : Status) : String :=
  toString s.code ++ " " ++ s.reason

end Status

/-- The answer to a request for what is at a URL. An error is given by its messages, joined by
colons. -/
inductive Reply
  /-- No answer came. -/
  | missing (error : String)
  /-- A status came; what was sent behind it may have broken off. -/
  | received (status : Status) (body : Except String ByteArray)

/-- What the network sends: the answer to the `n`-th request, given the URL. -/
abbrev Network := Nat → String → Reply

/-- The surroundings of a scan. -/
structure Machine where
  tree : FileTree := {}
  vars : Dict String := {}
  behaviour : Behaviour := fun _ _ _ _ => .refused .notFound
  /-- Program starts so far, refused ones included. -/
  starts : Nat := 0
  /-- The programs started, in order. -/
  calls : List Call := []
  network : Network := fun _ _ => .missing "no connection"
  /-- The URLs asked for, in order. -/
  requests : List String := []
  /-- The signal that arrives right before the scan looks for the `n`-th time. -/
  arrivals : Nat → Option Int := fun _ => none
  looks : Nat := 0
  /-- The signal that arrived last and was not taken yet; zero is none. -/
  pending : Int := 0
  /-- Signals that arrive while the next waiting program runs. -/
  awaited : List Int := []
  /-- What went to standard output. -/
  stdout : ByteArray := .empty
  /-- The time of day. -/
  clock : String := ""
  hostname : String := "localhost"
  /-- The distinguishing end of the names of temporary directories. -/
  fresh : String := ""

namespace Machine

/-! ## Signals -/

/-- A signal arrives. -/
def raise (m : Machine) (signal : Int) : Machine :=
  { m with pending := signal }

/-- Takes the pending signal, after the arrival scheduled for this look. -/
def takeSignal (m : Machine) : Option Int × Machine :=
  let signal := (m.arrivals m.looks).getD m.pending
  (if signal = 0 then none else some signal, { m with looks := m.looks + 1, pending := 0 })

/-! ## Programs -/

/-- Writes a file for a program, with the directories above it. -/
def writeFor (m : Machine) (file : String × ByteArray) : Machine :=
  { m with tree := m.tree.install file.1 file.2 0o644 }

/-- Starts a program: it is on record, and the files that it writes are there. -/
def start (m : Machine) (argv : List String) : Except SystemError ChildRun × Machine :=
  let m' := { m with starts := m.starts + 1 }
  match m.behaviour m.starts m.tree m.vars argv with
  | .refused cause => (.error cause, m')
  | .started run =>
    let m'' := { m' with calls := m'.calls ++ [⟨run.location, argv⟩] }
    let m''' := run.writes.foldl writeFor m''
    if run.waits then
      (.ok { run with arrivals := run.arrivals ++ m.awaited }, { m''' with awaited := [] })
    else (.ok run, m''')

/-- Runs a program to its end, no signal being passed on. -/
def runToEnd (m : Machine) (argv : List String) : Except SystemError (ChildRun × Ending) × Machine :=
  match m.start argv with
  | (.error cause, m') => (.error cause, m')
  | (.ok run, m') => (.ok (run, run.ending none), m')

/-- Runs a program whose output goes where that of the scan goes. -/
def runInherited (m : Machine) (argv : List String) : Except SystemError Ending × Machine :=
  match m.runToEnd argv with
  | (.error cause, m') => (.error cause, m')
  | (.ok (run, ending), m') => (.ok ending, { m' with stdout := m'.stdout ++ run.out })

/-- Sends a signal to a running program by means of `kill`; on success the program gets it. -/
def forward (m : Machine) (signal : Int) (process : String) : Except SystemError Unit × Machine :=
  match m.runInherited ["kill", "-s", toString signal, process] with
  | (.error cause, m') => (.error cause, m')
  | (.ok ending, m') =>
    if ending.succeeded then (.ok (), m')
    else (.error (.other ("kill exited with " ++ ending.message)), m')

/-! ## Network and output -/

/-- Asks the network for what is at a URL. -/
def request (m : Machine) (url : String) : Reply × Machine :=
  (m.network m.requests.length url, { m with requests := m.requests ++ [url] })

/-- Puts text on standard output. -/
def print (m : Machine) (text : String) : Machine :=
  { m with stdout := m.stdout ++ Text.encode text }

end Machine

end ChrootScan
