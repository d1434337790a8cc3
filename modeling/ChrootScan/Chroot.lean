import ChrootScan.Path
import ChrootScan.Shell.Quote

/-!
# The chroot

The package is built in a chroot that a program of its own sets up. `Chroot` says how that program is
called, and what is known of the chroot so far.
-/

namespace ChrootScan

/-- A chroot and the program that manages it. -/
structure Chroot where
  program : String := "/usr/bin/mock"
  profile : String := "default"
  addRepos : List String := []
  /-- Its directory on the host, once it was asked for. -/
  root : Option String := none
  /-- Its creation was begun, so it has to be cleaned away. -/
  initialized : Bool := false
deriving DecidableEq, Repr

namespace Chroot

/-- The path on the host of a file inside the chroot. -/
def hostPath (c : Chroot) (path : String) : Option String :=
  c.root.map fun root => Path.join root (Text.dropLeading '/' path)

/-- The words of a call of the managing program. -/
def call (c : Chroot) (args : List String) : List String :=
  c.program :: "-r" :: c.profile :: c.addRepos.map ("--addrepo=" ++ ·) ++ args

/-- The command that runs another one as the unprivileged user of the build. -/
def asBuilder (command : String) : String :=
  "su mockbuild -c " ++ Shell.quote command

end Chroot

end ChrootScan
