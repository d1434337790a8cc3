import ChrootScan.Clock
import ChrootScan.Program

/-!
# The program on a real system

Takes the files, the environment and the time that a run needs from the system, runs the program on
them, and brings back what it wrote. No other program is started from here, so a scan ends where it
needs the first one.
-/

namespace ChrootScan.Main

/-! ## What a run needs -/

/-- The environment variables that the program looks at. -/
def variableNames : List String :=
  ["CSMOCK_MOCK_BIN", "CSMOCK_MOCK_PROFILE", "CSMOCK_SCRIPTS_DIR", "CSMOCK_CACHE_DIR",
    "CSMOCK_CSWRAP_TIMEOUT", "CSMOCK_LOG_LEVEL", "CSMOCK_LOG_JSON", "HOME", "PATH", "TMPDIR"]

/-- The files that a request names. -/
def namedFiles (vars : Dict String) : Request → List String
  | .scan a =>
    a.srpm :: Program.output a :: (Settings.ofEnvironment vars).scriptsDir
      :: a.knownFalsePositives.toList
  | .findUnicodeControl a => a.paths
  | .listTools _ | .convertClippy | .filterInfer _ => []

/-- The request is about standard input. -/
def readsInput : Request → Bool
  | .convertClippy | .filterInfer _ => true
  | .scan _ | .listTools _ | .findUnicodeControl _ => false

def environment : IO (Dict String) :=
  variableNames.foldlM
    (fun vars name => do
      match ← IO.getEnv name with
      | some value => return vars.insert name value
      | none => return vars)
    .empty

/-- Takes a file, or a directory with all below it, into a tree. What cannot be read is left out.
Links are kept as links; `follow` says whether what they lead to is taken too. -/
partial def load (follow : Bool) (t : FileTree) (path : String) : IO FileTree := do
  let entry : IO.FS.DirEntry := { root := ".", fileName := path }
  try
    match (← entry.path.symlinkMetadata).type with
    | .dir =>
      (← entry.path.readDir).foldlM
        (fun t below => load false t (Path.join path below.fileName)) (t.plant path .dir)
    | .file => return t.plant path (.file (← IO.FS.readBinFile path) 0o644)
    | .symlink =>
      let target := (← IO.FS.realPath path).toString
      let linked := t.plant path (.link target)
      if follow then load false linked target else return linked
    | .other => return t
  catch _ => return t

/-- The time of day and a name that nobody uses, both of a file made for that. -/
def stamp : IO (String × String) := do
  let (_, path) ← IO.FS.createTempFile
  let time := (← path.metadata).modified
  IO.FS.removeFile path
  return (Clock.text time.sec.toNat, (Text.splitAt '.' (path.fileName.getD "")).getLastD "")

/-- The machine that a request runs on. -/
def machine (request : Request) : IO Machine := do
  let vars ← environment
  let cwd := (← IO.currentDir).toString
  let (clock, fresh) ← stamp
  let m : Machine := { vars, clock, fresh }
  let start := (m.tree.plant cwd .dir).plant (Record.tmpRoot m) .dir
  let tree ← (namedFiles vars request).foldlM (load true) { start with cwd := Path.pieces cwd }
  return { m with tree }

/-! ## What a run leaves behind -/

/-- Removes what is gone from a tree and writes what is new in it. -/
def store (old new : FileTree) : IO Unit := do
  for (place, node) in old.nodes do
    if new.node? place = none then
      if node = .dir then IO.FS.removeDirAll (FileTree.pathOf place)
      else IO.FS.removeFile (FileTree.pathOf place)
  for (place, node) in new.nodes.mergeSort fun a b => a.1.length ≤ b.1.length do
    if old.node? place ≠ some node then
      match node with
      | .dir => IO.FS.createDirAll (FileTree.pathOf place)
      | .file bytes _ => IO.FS.writeBinFile (FileTree.pathOf place) bytes
      | .link _ => pure ()

/-- What a command line needs of the system: a machine, and what stands on standard input. -/
def surroundings (words : List String) : IO (Machine × ByteArray) := do
  match CommandLine.read words.tail with
  | .error _ => return ({}, .empty)
  | .ok line =>
    let m ← machine line.request
    if readsInput line.request then return (m, ← (← IO.getStdin).readBinToEnd)
    return (m, .empty)

/-- Runs the program with the words of its command line, its own name first. -/
def run (words : List String) : IO UInt32 := do
  let (m, input) ← surroundings words
  let (ended, after) := Program.run words input m
  store m.tree after.tree
  let out ← IO.getStdout
  out.write after.stdout
  out.flush
  IO.eprint ended.complaint
  return UInt32.ofNat (ended.exitCode % 256).toNat

end ChrootScan.Main

def main (args : List String) : IO UInt32 := do
  ChrootScan.Main.run ((← IO.appPath).toString :: args)
