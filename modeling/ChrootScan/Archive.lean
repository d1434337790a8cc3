import ChrootScan.Archive.Gzip
import ChrootScan.Archive.Kind
import ChrootScan.Archive.Tar
import ChrootScan.Machine

/-!
# Tarballs on a machine

Packing a directory into the output of a scan, and taking a single file out of a downloaded tarball.
-/

namespace ChrootScan.Archive

/-- The member for a node. -/
def memberOf (name : String) : Node → Tar.Member
  | .file bytes mode => { name, mode, content := bytes }
  | .dir => { name, kind := .directory, mode := 0o755 }
  | .link target => { name, kind := .symlink, mode := 0o777, target }

/-- The members for a place and all below it, named from `name` on. -/
def membersOf (t : FileTree) (place : Place) (name : String) : List Tar.Member :=
  let inside := (t.below place).map fun (names, node) => memberOf (Text.join "/" (name :: names)) node
  inside.mergeSort fun a b => a.name ≤ b.name

/-- The members of a tarball, read as its name says. What cannot be read has none. -/
def list (t : FileTree) (path : String) : Except SystemError (List Tar.Member) :=
  (t.readBytes path).map fun bytes =>
    match (OutputKind.classify path).1 with
    | .tar => (Tar.read bytes none).1
    | .tarGz =>
      let (content, fault) := Gzip.decompress bytes
      (Tar.read content fault).1
    | _ => []

/-- Writes a tarball of `parent/dirname`, compressed by `compress`. -/
def writeTarball (m : Machine) (compress : ByteArray → ByteArray) (output parent dirname : String) :
    Except Failure Unit × Machine :=
  match m.tree.writeBytes output .empty with
  | .error e => (.error ((Failure.ofSystem e).within ("Failed to create " ++ output)), m)
  | .ok created =>
    let m := { m with tree := created }
    match m.tree.locate true (Path.join parent dirname) with
    | .error e => (.error (Failure.ofSystem e), m)
    | .ok place =>
      if (m.tree.node? place).isNone then (.error (Failure.ofSystem .notFound), m)
      else
        match m.tree.writeBytes output (compress (Tar.write (membersOf m.tree place dirname))) with
        | .error e => (.error (Failure.ofSystem e), m)
        | .ok tree => (.ok (), { m with tree := tree })

/-- Packs `parent/dirname` into `output`. The compressor of `.tar.xz` is a program, whose exit code
one, for a file that changed while it was read, counts as success. -/
def create (m : Machine) (kind : OutputKind) (output parent dirname : String) :
    Except Failure Unit × Machine :=
  match kind with
  | .directory => (.ok (), m)
  | .tar => writeTarball m id output parent dirname
  | .tarGz => writeTarball m Gzip.store output parent dirname
  | .tarXz =>
    match m.runInherited ["tar", "-cJf", output, "-C", parent, dirname] with
    | (.error e, m) => (.error ((Failure.ofSystem e).within "Failed to run tar"), m)
    | (.ok (.exited 0), m) | (.ok (.exited 1), m) => (.ok (), m)
    | (.ok ending, m) => (.error (Failure.ofText ("tar exited with " ++ ending.message)), m)

/-- Writes a member to a path. -/
def unpack (t : FileTree) (path : String) (m : Tar.Member) : Except SystemError FileTree :=
  match m.kind with
  | .regular | .other => do
    let place ← t.locate false path
    if t.node? place == some .dir then .error .isADirectory
    let t' ← (t.prune place).writeBytes path m.content
    t'.setMode path (m.mode &&& 0o777)
  | .directory => if t.isDir path then .ok t else t.createDir path
  | .symlink => do
    let place ← t.locate false path
    t.inDirectory place
    if m.target.isEmpty then .error .notFound
    .ok (t.put place (.link m.target))
  | .hardLink => do
    let source ← t.locate false m.target
    let place ← t.locate false path
    t.inDirectory place
    match t.node? source with
    | some node => if (t.node? place).isSome then .error .alreadyExists else .ok (t.put place node)
    | none => .error .notFound

/-- Why a member could not be written. -/
def unpackFailure (path : String) (m : Tar.Member) (cause : Failure) : Failure :=
  (cause.within ("failed to unpack \x60" ++ m.name ++ "\x60 into \x60" ++ path ++ "\x60")).within
    ("Failed to unpack " ++ path)

/-- Why the content of a member is not complete. -/
def cutText : Option Tar.ReadError → String
  | some (.stream fault) => fault.message
  | _ => "failed to write entire file"

/-- Unpacks a single member of a compressed tarball into a directory; the answer is its path. What
there is of a member that is cut off is written. -/
def extractMember (t : FileTree) (tarball member directory : String) :
    Except Failure String × FileTree :=
  match t.stat tarball with
  | .error e => (.error ((Failure.ofSystem e).within ("Failed to open " ++ tarball)), t)
  | .ok .dir => (.error (Failure.ofSystem .isADirectory), t)
  | .ok (.link _) => (.error (Failure.ofSystem .notFound), t)
  | .ok (.file bytes _) =>
    let (content, fault) := Gzip.decompress bytes
    let (members, broken) := Tar.read content fault
    match members.find? fun m => Path.same m.name member, broken with
    | some m, _ =>
      let path := Path.join directory member
      match unpack t path m with
      | .error e => (.error (unpackFailure path m (Failure.ofSystem e)), t)
      | .ok t' =>
        if m.complete then (.ok path, t')
        else (.error (unpackFailure path m (Failure.ofText (cutText broken))), t')
    | none, some e => (.error (Failure.ofText e.message), t)
    | none, none => (.error (Failure.ofText (member ++ " not found in " ++ tarball)), t)

end ChrootScan.Archive
