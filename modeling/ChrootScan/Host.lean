import ChrootScan.Machine
import ChrootScan.Text.Blank
import ChrootScan.Text.Shown

/-!
# What analyzers ask the host

While a scan is configured, analyzers look for files on the host and run small commands there. A
`Host` answers such questions from a state `σ`, which commands may change. There are two: the machine
itself, and a table of answers kept in memory.
-/

namespace ChrootScan

/-- Answers to questions about the host, out of a state. -/
structure Host (σ : Type) where
  exists? : σ → String → Bool
  isDir : σ → String → Bool
  isFile : σ → String → Bool
  isReadable : σ → String → Bool
  readText : σ → String → Except Failure String
  /-- The names in a directory, sorted. -/
  names : σ → String → Except Failure (List String)
  /-- The trimmed output of a command that succeeds. -/
  commandOutput : List String → σ → Option String × σ
  /-- A shell command exits with zero. -/
  shellSucceeds : String → σ → Bool × σ
  home : σ → Option String

namespace Host

/-- Puts the home directory in place of a leading `~/`. -/
def expandTilde {σ : Type} (host : Host σ) (s : σ) (path : String) : String :=
  match Text.afterLead? "~/" path, host.home s with
  | some rest, some home => Text.dropTrailing '/' home ++ "/" ++ rest
  | _, _ => path

/-! ## The machine itself -/

/-- Runs a command to its end and gives its trimmed output if it succeeds. -/
def machineOutput (argv : List String) (m : Machine) : Option String × Machine :=
  if argv.isEmpty then (none, m)
  else
    match m.runToEnd argv with
    | (.error _, m') => (none, m')
    | (.ok (run, ending), m') =>
      (if ending.succeeded then some (Text.trim (Text.decodeLossy run.out)) else none, m')

/-- Runs a shell command to its end. -/
def machineSucceeds (command : String) (m : Machine) : Bool × Machine :=
  match m.runToEnd ["sh", "-c", command] with
  | (.error _, m') => (false, m')
  | (.ok (_, ending), m') => (ending.succeeded, m')

/-- The machine answers for itself. -/
def machine : Host Machine where
  exists? m path := m.tree.exists? path
  isDir m path := m.tree.isDir path
  isFile m path := m.tree.isFile path
  isReadable m path := m.tree.isReadable path
  readText m path :=
    match m.tree.readText path with
    | .ok text => .ok text
    | .error e => .error ((Failure.ofSystem e).within ("Failed to read " ++ path))
  names m path :=
    match m.tree.names path with
    | .ok names => .ok names
    | .error e => .error ((Failure.ofSystem e).within ("Failed to read directory " ++ path))
  commandOutput := machineOutput
  shellSucceeds := machineSucceeds
  home m := m.vars.get? "HOME"

/-! ## A host in memory -/

/-- A table of answers. Paths are kept by their components, a directory without a text. -/
structure Memory where
  entries : List (List String × Option String) := []
  /-- Command lines, their words joined by spaces, and their outputs. -/
  commands : List (String × String) := []
  succeeding : List String := []
  home : Option String := none
deriving DecidableEq, Repr

namespace Memory

/-- What is at a path: nothing, a directory, or a text. -/
def entry? (h : Memory) (path : String) : Option (Option String) :=
  h.entries.lookup (Path.components path)

/-- The proper and improper beginnings of a list, the empty one left out. -/
def beginnings (components : List String) : List (List String) :=
  (List.range components.length).map fun i => components.take (i + 1)

/-- Adds a directory and those above it, where nothing is. -/
def addDir (h : Memory) (components : List String) : Memory :=
  { h with
    entries := (beginnings components).foldl
      (fun es p => if (es.lookup p).isSome then es else es ++ [(p, none)]) h.entries }

/-- Adds a file and the directories above it. -/
def addFile (h : Memory) (path text : String) : Memory :=
  let components := Path.components path
  let made := h.addDir components.dropLast
  { made with
    entries := (components, some text) :: made.entries.filter (·.1 ≠ components) }

/-- Makes a command succeed with an output. -/
def addCommand (h : Memory) (argv : List String) (out : String) : Memory :=
  { h with commands := (Text.join " " argv, out) :: h.commands }

/-- Makes a shell command succeed. -/
def addSucceeding (h : Memory) (command : String) : Memory :=
  { h with succeeding := command :: h.succeeding }

/-- Adds files with their texts, then directories, and makes commands succeed. -/
def addAll (h : Memory) (files : List (String × String)) (dirs : List String)
    (commands : List (List String × String)) (succeeding : List String) : Memory :=
  let h := files.foldl (fun h (path, text) => h.addFile path text) h
  let h := dirs.foldl (fun h dir => h.addDir (Path.components dir)) h
  let h := commands.foldl (fun h (argv, out) => h.addCommand argv out) h
  succeeding.foldl addSucceeding h

end Memory

/-- The names below a directory in memory, sorted. -/
def memoryNames (h : Memory) (path : String) : List String :=
  let components := Path.components path
  let below := h.entries.filterMap fun (p, _) =>
    match p.getLast? with
    | some name =>
      if p.dropLast = components ∧ name ≠ ".." ∧ name ≠ "/" then some name else none
    | none => none
  below.mergeSort (· ≤ ·)

/-- The table answers. -/
def memory : Host Memory where
  exists? h path := (h.entry? path).isSome
  isDir h path := h.entry? path == some none
  isFile h path := match h.entry? path with
    | some (some _) => true
    | _ => false
  isReadable h path := match h.entry? path with
    | some (some _) => true
    | _ => false
  readText h path := match h.entry? path with
    | some (some text) => .ok text
    | some none => .error (Failure.ofText ("Not a file: " ++ Text.shown path))
    | none => .error (Failure.ofText ("File not found: " ++ Text.shown path))
  names h path :=
    if h.entry? path == some none then .ok (memoryNames h path)
    else .error (Failure.ofText ("Directory not found: " ++ Text.shown path))
  commandOutput argv h := (h.commands.lookup (Text.join " " argv), h)
  shellSucceeds command h := (h.succeeding.contains command, h)
  home h := h.home

end Host

end ChrootScan
