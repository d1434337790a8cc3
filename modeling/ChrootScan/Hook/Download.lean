import ChrootScan.Hook.Basic

/-!
# Downloads

Executables that are not packaged are kept in a cache, and what is not there is asked for on the
network. Whatever the network answers, a download that fails is an error of the scan and no more.
-/

namespace ChrootScan.Download

/-- The name that a file is cached under: what follows the last slash, slashes at the end not
counted. -/
def urlName (url : String) : String :=
  (Text.splitAt '/' (Text.dropTrailing '/' url)).getLastD ""

/-- The path of a file in the cache. -/
def path (d : Download) : String :=
  Path.join d.cacheDir (urlName d.url)

/-- What an answer brings. Nothing sent is a failure, too. -/
def content (url : String) : Reply → Except Failure ByteArray
  | .missing error =>
    .error ((Failure.ofText error).within
      ("Failed to download " ++ url ++ " (check network connectivity)"))
  | .received status body =>
    if !status.isSuccess then
      .error (Failure.ofText ("Download failed with HTTP " ++ status.message ++ " from " ++ url))
    else
      match body with
      | .error error =>
        .error ((Failure.ofText error).within ("Failed to read response body from " ++ url))
      | .ok bytes =>
        if bytes.isEmpty then
          .error (Failure.ofText ("Downloaded file is empty (HTTP 200 but 0 bytes): " ++ url))
        else .ok bytes

/-- Writes a file. -/
def write (t : FileTree) (path : String) (bytes : ByteArray) : Except Failure Unit × FileTree :=
  match t.writeBytes path bytes with
  | .error e => (.error ((Failure.ofSystem e).within ("Failed to write " ++ path)), t)
  | .ok written => (.ok (), written)

/-- Writes a file and the directories above it; what was done before a failure stays. -/
def save (t : FileTree) (path : String) (bytes : ByteArray) : Except Failure Unit × FileTree :=
  match Path.parent? path with
  | none => write t path bytes
  | some dir =>
    match t.createDirs dir with
    | .error e =>
      (.error ((Failure.ofSystem e).within ("Failed to create cache directory: " ++ dir)), t)
    | .ok made => write made path bytes

/-- Asks the network for a file and writes what is sent into the cache, over what is there. -/
def download (d : Download) : Work Hook (Except Failure Unit) := do
  match content d.url (← Work.request d.url) with
  | .error e => return .error e
  | .ok bytes =>
    let (result, tree) := save (← Work.getFiles) d.path bytes
    Work.changingFiles fun _ => .ok tree
    return result

/-- Provides a file in the cache; if that fails, the error is on record and there is no path. -/
def fetch (d : Download) : Work Hook (Option String) := do
  match (← Work.getFiles).createDirs d.cacheDir with
  | .error e =>
    Hook.error
      ("failed to create " ++ d.tool ++ " cache directory: " ++ d.cacheDir ++ ": " ++ e.message) 1
    return none
  | .ok tree =>
    Work.changingFiles fun _ => .ok tree
    if !d.refresh && tree.exists? d.path then
      Hook.print ("reusing previously downloaded " ++ d.tool ++ ": " ++ d.path)
      return some d.path
    match ← d.download with
    | .error e =>
      Hook.error ("failed to download " ++ d.tool ++ ": " ++ e.full) 1
      return none
    | .ok () => return some d.path

/-- Makes a file executable for everybody. -/
def makeExecutable (path : String) : Work Hook Unit :=
  Work.within ("Failed to make " ++ path ++ " executable")
    (Work.changingFiles fun t => t.setMode path 0o755)

/-- Asks a program for its version. -/
def versionOf (program : String) : Work Hook (Int × String) :=
  Work.scan (Scan.output (.argv [program, "version"]))

end ChrootScan.Download
