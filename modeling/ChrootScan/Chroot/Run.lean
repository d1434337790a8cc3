import ChrootScan.Record

/-!
# Work in the chroot

The steps of a scan that call the program which manages the chroot.
-/

namespace ChrootScan.Chroot

open Scan

def resolvConf : String := "/etc/resolv.conf"

/-- Calls the managing program. -/
def exec (args : List String) : Scan Int := do
  Scan.exec (.argv ((← get).chroot.call args))

/-- Runs a shell command in the chroot as root. -/
def execRoot (command : String) : Scan Int :=
  exec ["--chroot", command]

/-- Runs a shell command in the chroot as root, with network. -/
def execOnline (command : String) : Scan Int :=
  exec ["--enable-network", "--chroot", command]

/-- Runs a shell command in the chroot as the unprivileged user of the build. -/
def execBuilder (command : String) : Scan Int :=
  execRoot (asBuilder command)

/-- Asks for the output of a shell command in the chroot. -/
def outputOf (command : String) : Scan (Int × String) := do
  Scan.output (.argv ((← get).chroot.call ["--chroot", command]))

/-- Copies a file of the host into the chroot, to the same path. -/
def copyInFile (file : String) : Scan Unit := do
  let code ← exec ["--copyin", file, file]
  if code ≠ 0 then error ("failed to copy '" ++ file ++ "' into the chroot") 1

/-- Copies files of the host into the chroot, each to the same path. -/
def copyIn (files : List String) : Scan Unit :=
  files.forM copyInFile

/-- Makes name resolution work in the chroot. -/
def copyInResolvConf : Scan Unit :=
  copyIn [resolvConf]

/-- Copies a path of the chroot to the raw results. -/
def copyOut (path : String) : Scan Int := do
  let target := (← getRecord).rawPath path
  match Path.parent? target with
  | some parent => changingFiles fun t => t.createDirs parent
  | none => pure ()
  exec ["--copyout", path, target]

/-- Asks where the chroot lives on the host, and keeps the answer. -/
def findRoot : Scan Unit := do
  let (code, out) ← Scan.output (.argv ((← get).chroot.call ["--print-root-path"]))
  if code ≠ 0 then failFatal "failed to get the root path of the chroot" code
  let root := Text.dropTrailing '/' (Text.trim out)
  modify fun b => { b with chroot := { b.chroot with root := some root } }

/-- Creates the chroot. From here on it has to be cleaned away. -/
def init : Scan Unit := do
  modify fun b => { b with chroot := { b.chroot with initialized := true } }
  let code ← exec ["--init"]
  if code ≠ 0 then failFatal "failed to init mock profile" 1

/-- Installs packages in the chroot. -/
def install (pkgs : List String) : Scan Unit := do
  if !pkgs.isEmpty then
    let code ← exec ("--install" :: pkgs)
    if code ≠ 0 then failFatal "failed to install tools into the chroot" 1

/-- Cleans the chroot away. -/
def clean : Scan Unit := do
  let code ← exec ["--clean"]
  if code ≠ 0 then error "failed to clean the chroot" 0

end ChrootScan.Chroot
