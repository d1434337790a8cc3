import ChrootScan.Failure
import ChrootScan.Path
import ChrootScan.Text.Utf8

/-!
# File trees

The files of a machine: an association of places with nodes, a place being the list of names from
the root. Every operation first walks a path from the working directory, through symbolic links, to
the place it means, and answers with the error of the system where there is none.
-/

namespace ChrootScan

/-- What stands at a place. -/
inductive Node
  | file (bytes : ByteArray) (mode : Nat)
  | dir
  | link (target : String)

/-- Files are equal when their bytes are, one by one. -/
instance : DecidableEq Node
  | .file x m, .file y n =>
    decidable_of_iff (x.data = y.data ∧ m = n) (by simp [ByteArray.ext_iff])
  | .dir, .dir => isTrue rfl
  | .link s, .link t => decidable_of_iff (s = t) (by simp)
  | .file .., .dir | .file .., .link _ | .dir, .file .. | .dir, .link _ | .link _, .file ..
  | .link _, .dir => isFalse nofun

/-- The names from the root to a node. -/
abbrev Place := List String

/-- A place comes before another one, or is the same: a directory before what is in it, and what is
in it in the order of the names. -/
def Place.precedes : Place → Place → Bool
  | [], _ => true
  | _ :: _, [] => false
  | a :: p, b :: q => a < b || (a == b && precedes p q)

/-- The nodes of a machine, and the working directory that relative paths start from. -/
structure FileTree where
  nodes : List (Place × Node) := []
  cwd : Place := []
deriving DecidableEq

namespace FileTree

/-! ## Places -/

/-- The node at a place. The root is a directory. -/
def node? (t : FileTree) (place : Place) : Option Node :=
  if place.isEmpty then some .dir else t.nodes.lookup place

/-- Puts a node at a place. -/
def put (t : FileTree) (place : Place) (node : Node) : FileTree :=
  { t with nodes := (place, node) :: t.nodes.filter (·.1 ≠ place) }

/-- Takes away a place and all below it. -/
def prune (t : FileTree) (place : Place) : FileTree :=
  { t with nodes := t.nodes.filter fun e => !place.isPrefixOf e.1 }

/-- The nodes right below a place, with their names. -/
def children (t : FileTree) (place : Place) : List (String × Node) :=
  t.nodes.filterMap fun (p, node) =>
    match p.getLast? with
    | some name => if p.dropLast = place then some (name, node) else none
    | none => none

/-- The nodes at and below a place, with the names that lead there from it. -/
def below (t : FileTree) (place : Place) : List (Place × Node) :=
  t.nodes.filterMap fun (p, node) =>
    if place.isPrefixOf p then some (p.drop place.length, node) else none

/-- The absolute path of a place. -/
def pathOf (place : Place) : String :=
  "/" ++ Text.join "/" place

/-- How many symbolic links a walk may pass. -/
def maxLinks : Nat := 40

/-- Walks the remaining names from a place. The place reached need not exist, but all before it
must. `follow` says whether a link at the end is passed, and `jump` walks on where a link leads. -/
def walkBy (t : FileTree) (follow : Bool) (jump : Place → List String → Except SystemError Place) :
    Place → List String → Except SystemError Place
  | here, [] => .ok here
  | here, name :: rest =>
    if name = "." then walkBy t follow jump here rest
    else if name = ".." then walkBy t follow jump here.dropLast rest
    else
      let next := here ++ [name]
      match t.node? next with
      | none => if rest.isEmpty then .ok next else .error .notFound
      | some .dir => walkBy t follow jump next rest
      | some (.file ..) => if rest.isEmpty then .ok next else .error .notADirectory
      | some (.link target) =>
        if rest.isEmpty && !follow then .ok next
        else
          let start := if Path.isAbsolute target then [] else here
          jump start (Path.pieces target ++ rest)

/-- Walks names from a place, through at most so many links. -/
def walk (t : FileTree) (follow : Bool) : Nat → Place → List String → Except SystemError Place
  | 0 => walkBy t follow fun _ _ => .error .tooManyLinks
  | links + 1 => walkBy t follow (walk t follow links)

/-- The names that a path is walked by; a slash at the end asks for a directory. -/
def route (path : String) : List String :=
  Path.pieces path ++ (if Text.endsWith "/" path then ["."] else [])

/-- The place that a path means. -/
def locate (t : FileTree) (follow : Bool) (path : String) : Except SystemError Place :=
  if path.isEmpty then .error .notFound
  else t.walk follow maxLinks (if Path.isAbsolute path then [] else t.cwd) (route path)

/-- The node that a path means, links followed. -/
def stat (t : FileTree) (path : String) : Except SystemError Node :=
  (t.locate true path).bind fun place =>
    match t.node? place with
    | some node => .ok node
    | none => .error .notFound

/-! ## Questions -/

def exists? (t : FileTree) (path : String) : Bool :=
  match t.stat path with
  | .ok _ => true
  | .error _ => false

def isDir (t : FileTree) (path : String) : Bool :=
  match t.stat path with
  | .ok .dir => true
  | _ => false

def isFile (t : FileTree) (path : String) : Bool :=
  match t.stat path with
  | .ok (.file ..) => true
  | _ => false

/-- The path can be opened for reading. -/
def isReadable (t : FileTree) (path : String) : Bool :=
  t.exists? path

/-- A file that may be run. -/
def isExecutable (t : FileTree) (path : String) : Bool :=
  match t.stat path with
  | .ok (.file _ mode) => mode &&& 0o111 ≠ 0
  | _ => false

/-- The content of a file. -/
def readBytes (t : FileTree) (path : String) : Except SystemError ByteArray :=
  (t.stat path).bind fun
    | .file bytes _ => .ok bytes
    | .dir => .error .isADirectory
    | .link _ => .error .notFound

/-- The content of a file that is text. -/
def readText (t : FileTree) (path : String) : Except SystemError String :=
  (t.readBytes path).bind fun bytes =>
    match Text.decode? bytes with
    | some s => .ok s
    | none => .error .notText

/-- The names in a directory, sorted. -/
def names (t : FileTree) (path : String) : Except SystemError (List String) :=
  (t.locate true path).bind fun place =>
    match t.node? place with
    | some .dir => .ok (((t.children place).map (·.1)).mergeSort (· ≤ ·))
    | some _ => .error .notADirectory
    | none => .error .notFound

/-! ## Changes -/

/-- The place for a new node must lie in a directory. -/
def inDirectory (t : FileTree) (place : Place) : Except SystemError Unit :=
  match t.node? place.dropLast with
  | some .dir => .ok ()
  | some _ => .error .notADirectory
  | none => .error .notFound

/-- Writes a file, over one that is there; its mode stays. -/
def writeBytes (t : FileTree) (path : String) (bytes : ByteArray) :
    Except SystemError FileTree := do
  let place ← t.locate true path
  t.inDirectory place
  match t.node? place with
  | some .dir => .error .isADirectory
  | some (.file _ mode) => .ok (t.put place (.file bytes mode))
  | _ => .ok (t.put place (.file bytes 0o644))

/-- Appends to a file that is there; a missing file stays missing. -/
def appendBytes (t : FileTree) (path : String) (bytes : ByteArray) : FileTree :=
  match t.locate true path with
  | .error _ => t
  | .ok place =>
    match t.node? place with
    | some (.file old mode) => t.put place (.file (old ++ bytes) mode)
    | _ => t

/-- Creates a directory in one that exists. -/
def createDir (t : FileTree) (path : String) : Except SystemError FileTree := do
  let place ← t.locate false (Text.dropTrailing '/' path)
  t.inDirectory place
  match t.node? place with
  | some _ => .error .alreadyExists
  | none => .ok (t.put place .dir)

/-- Creates a directory and those above it, from the path with `n` components down. -/
def createDirsFrom (t : FileTree) (names : List String) : Nat → Except SystemError FileTree
  | 0 => .ok t
  | n + 1 =>
    let path := Path.ofComponents (names.take (n + 1))
    match t.createDir path with
    | .ok t' => .ok t'
    | .error .notFound => do
      let t' ← createDirsFrom t names n
      match t'.createDir path with
      | .ok t'' => .ok t''
      | .error e => if t'.isDir path then .ok t' else .error e
    | .error e => if t.isDir path then .ok t else .error e

/-- Creates a directory and those above it; one that exists is no error. -/
def createDirs (t : FileTree) (path : String) : Except SystemError FileTree :=
  let names := Path.components path
  t.createDirsFrom names names.length

/-- Takes away all below a place. -/
def empty (t : FileTree) (place : Place) : FileTree :=
  { t with nodes := t.nodes.filter fun e => e.1 = place || !place.isPrefixOf e.1 }

/-- Removes a directory with all in it; of a link, the link alone. A directory that the path names
by a dot loses what is in it, but stays. -/
def removeAll (t : FileTree) (path : String) : Except SystemError Unit × FileTree :=
  match t.locate false path with
  | .error e => (.error e, t)
  | .ok place =>
    match t.node? place, (Path.pieces path).getLast? with
    | none, _ => (.error .notFound, t)
    | some (.file ..), _ => (.error .notADirectory, t)
    | some _, some "." => (.error .invalidArgument, t.empty place)
    | some _, some ".." => (.error .directoryNotEmpty, t.empty place)
    | some _, _ => (.ok (), t.prune place)

/-- Sets the mode of a file. -/
def setMode (t : FileTree) (path : String) (mode : Nat) : Except SystemError FileTree := do
  let place ← t.locate true path
  match t.node? place with
  | some (.file bytes _) => .ok (t.put place (.file bytes mode))
  | some _ => .ok t
  | none => .error .notFound

/-- Copies a file with its mode. -/
def copyFile (t : FileTree) (source target : String) : Except SystemError FileTree := do
  match ← t.stat source with
  | .file bytes mode => do
    let t' ← t.writeBytes target bytes
    t'.setMode target mode
  | _ => .error (.other "the source path is neither a regular file nor a symlink to a regular file")

/-- Writes a file and the directories above it, whatever stands in the way being left alone. -/
def install (t : FileTree) (path : String) (bytes : ByteArray) (mode : Nat) : FileTree :=
  let made :=
    match (Path.parent? path).map t.createDirs with
    | some (.ok t') => t'
    | _ => t
  match made.writeBytes path bytes with
  | .ok t' =>
    match t'.setMode path mode with
    | .ok t'' => t''
    | .error _ => t'
  | .error _ => made

/-- Puts a symbolic link at a path, and the directories above it. -/
def installLink (t : FileTree) (path target : String) : FileTree :=
  let made :=
    match (Path.parent? path).map t.createDirs with
    | some (.ok t') => t'
    | _ => t
  match made.locate false path with
  | .ok place => made.put place (.link target)
  | .error _ => made

/-- Puts a node at a path, with the directories above it. -/
def plant (t : FileTree) (path : String) : Node → FileTree
  | .file bytes mode => t.install path bytes mode
  | .dir => (t.createDirs path).toOption.getD t
  | .link target => t.installLink path target

end FileTree

end ChrootScan
