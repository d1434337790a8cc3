import ChrootScan.Path

/-!
# Kinds of output

The results of a scan end up in a directory or in a tarball; the file name of the output decides.
-/

namespace ChrootScan

/-- Where results go. -/
inductive OutputKind
  | directory
  | tar
  | tarGz
  | tarXz
deriving DecidableEq, Repr

namespace OutputKind

def isArchive (kind : OutputKind) : Bool :=
  kind != directory

/-- The file name endings of tarballs. -/
def endings : List (String × OutputKind) :=
  [(".tar.xz", tarXz), (".tar.gz", tarGz), (".tgz", tarGz), (".tar", tar)]

/-- The kind and the stem of a file name with the given ending, unless the stem is empty. -/
def withEnding? (name : String) (ending : String × OutputKind) : Option (OutputKind × String) :=
  ((Text.beforeTail? ending.1 name).filter (· ≠ "")).map fun stem => (ending.2, stem)

/-- The kind of an output path, and the name of the top-level directory of the results. -/
def classify (output : String) : OutputKind × String :=
  let name := (Path.fileName? output).getD ""
  (endings.findSome? (withEnding? name)).getD (directory, name)

end OutputKind

end ChrootScan
