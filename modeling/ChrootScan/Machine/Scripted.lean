import ChrootScan.Machine
import ChrootScan.Machine.Script

/-!
# Machines with canned programs

A behaviour given by a table: every program of one directory answers by the first rule whose text
occurs in its command line, and exits silently with zero when there is none. Programs outside that
directory are scripts (`Machine.Script`).
-/

namespace ChrootScan

/-- What a program does when its command line holds a text. -/
structure Rule where
  pattern : String
  writes : List (String × ByteArray) := []
  out : ByteArray := .empty
  err : ByteArray := .empty
  code : Int := 0
  /-- It dies of this signal instead of exiting. -/
  signal : Option Int := none
  waits : Bool := false

namespace Rule

/-- The last component of a program's name. -/
def baseName (program : String) : String :=
  (Text.splitAt '/' program).getLastD program

/-- The command line that rules look at. -/
def line (argv : List String) : String :=
  match argv with
  | [] => ""
  | program :: args => Text.join " " (baseName program :: args)

/-- The run of a program that a rule answers for. -/
def run (rule : Rule) (base location : String) : ChildRun :=
  { location := location
    writes := rule.writes.map fun (path, bytes) => (Path.join base path, bytes)
    out := rule.out
    err := rule.err
    waits := rule.waits
    ending := fun passedOn =>
      match rule.waits, passedOn, rule.signal with
      | true, some s, _ => .killed s
      | _, _, some s => .killed s
      | _, _, none => .exited rule.code }

/-- The first rule for a command line. -/
def select (rules : List Rule) (argv : List String) : Rule :=
  (rules.find? fun r => Text.contains r.pattern (line argv)).getD { pattern := "" }

end Rule

namespace Scripted

/-- Why a path cannot be run, or nothing if it can. -/
def refusal? (t : FileTree) (path : String) : Option SystemError :=
  match t.stat path with
  | .error e => some e
  | .ok (.file _ mode) => if mode &&& 0o111 = 0 then some .permissionDenied else none
  | .ok _ => some .permissionDenied

/-- Where a program is found: at its path, or in the first directory of `PATH` that has it. -/
def find (t : FileTree) (vars : Dict String) (program : String) : Except SystemError String :=
  if program.isEmpty then .error .notFound
  else if Text.contains "/" program then
    match refusal? t program with
    | some e => .error e
    | none => .ok program
  else
    let candidates :=
      (Text.splitAt ':' ((vars.get? "PATH").getD "")).map fun dir => Path.join dir program
    match candidates.find? fun path => (refusal? t path).isNone with
    | some path => .ok path
    | none =>
      if candidates.any fun path => refusal? t path == some .permissionDenied then
        .error .permissionDenied
      else .error .notFound

/-- The behaviour of a machine whose directory `bin` holds canned programs; the files that they
write lie under `base`. -/
def behaviour (base bin : String) (rules : List Rule) : Behaviour := fun _ t vars argv =>
  let program := argv.headD ""
  if argv.any fun word => word.toList.contains '\x00' then
    .refused (.other "nul byte found in provided data")
  else
    match find t vars program with
    | .error e => .refused e
    | .ok path =>
      if (t.locate true path).toOption.map List.dropLast
          == (t.locate true bin).toOption then
        .started ((Rule.select rules argv).run base path)
      else
        match (t.readText path).toOption.bind Script.ofText? with
        | none => .refused .notExecutable
        | some script =>
          let (out, code) := script.run argv
          .started
            { location := path, out := Text.encode out, ending := fun _ => .exited code }

end Scripted

end ChrootScan
