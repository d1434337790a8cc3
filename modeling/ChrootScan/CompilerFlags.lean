import ChrootScan.Dict
import ChrootScan.Text.Fields

/-!
# Compiler flags

The flags that the compiler wrapper adds to, and removes from, the compiler calls of a build. They
travel in four environment variables, as items between colons; a `FlagMatrix` holds one list for
each, and `FlagMatrix.writeTo` appends its flags to what the variables hold already, each flag at
most once.
-/

namespace ChrootScan

/-- The environment of a build. -/
abbrev Env := Dict String

/-- Flags given one by one on the command line. -/
structure CustomFlags where
  add : List String := []
  addCOnly : List String := []
  addCxxOnly : List String := []
  del : List String := []
deriving DecidableEq, Repr

namespace CustomFlags

def isEmpty (c : CustomFlags) : Bool :=
  c.add.isEmpty && c.addCOnly.isEmpty && c.addCxxOnly.isEmpty && c.del.isEmpty

/-- The lists under the options that they are given with. -/
def groups (c : CustomFlags) : List (String × List String) :=
  [("--gcc-add-flag", c.add), ("--gcc-add-c-only-flag", c.addCOnly),
    ("--gcc-add-cxx-only-flag", c.addCxxOnly), ("--gcc-del-flag", c.del)]

/-- One flag as an option of a command line, after a space. -/
def encodeFlag (option flag : String) : String :=
  " " ++ option ++ "='" ++ flag ++ "'"

/-- The flags as options of a command line, each after a space. -/
def encode (c : CustomFlags) : String :=
  String.join (c.groups.flatMap fun (option, flags) => flags.map (encodeFlag option))

end CustomFlags

/-- The flags to add to and to remove from the calls of the C and of the C++ compiler. -/
structure FlagMatrix where
  addC : List String := []
  delC : List String := []
  addCxx : List String := []
  delCxx : List String := []
deriving DecidableEq, Repr

namespace FlagMatrix

/-! ## Warning levels -/

/-- The flags that a warning level removes for both languages. -/
def levelRemoves : Nat → List String
  | 0 => ["-Werror*", "-fdiagnostics-color*", "-no-canonical-prefixes",
      "-Wno-error=deprecated-register"]
  | _ => []

/-- The flags that a warning level adds for both languages. -/
def levelAdds : Nat → List String
  | 1 => ["-Wall", "-Wextra"]
  | 2 => ["-Wunreachable-code", "-Wundef", "-Wcast-align", "-Wpointer-arith", "-Wfloat-equal",
      "-Wshadow", "-Wwrite-strings", "-Wformat=2"]
  | _ => []

/-- The flags that a warning level adds for C alone. -/
def levelAddsC : Nat → List String
  | 0 => ["-Wno-unknown-pragmas"]
  | 2 => ["-Wstrict-prototypes"]
  | _ => []

/-- The flags that a warning level adds for C++ alone. -/
def levelAddsCxx : Nat → List String
  | 2 => ["-Wctor-dtor-privacy", "-Woverloaded-virtual"]
  | _ => []

/-- The flags of a warning level and of all levels below it. -/
def ofWarningLevel (level : Nat) : FlagMatrix :=
  let levels := List.range (level + 1)
  { addC := levels.flatMap fun l => levelAdds l ++ levelAddsC l
    delC := levels.flatMap levelRemoves
    addCxx := levels.flatMap fun l => levelAdds l ++ levelAddsCxx l
    delCxx := levels.flatMap levelRemoves }

/-! ## Edits -/

/-- Adds flags for both languages. -/
def append (m : FlagMatrix) (flags : List String) : FlagMatrix :=
  { m with addC := m.addC ++ flags, addCxx := m.addCxx ++ flags }

/-- Removes flags for both languages. -/
def remove (m : FlagMatrix) (flags : List String) : FlagMatrix :=
  { m with delC := m.delC ++ flags, delCxx := m.delCxx ++ flags }

/-- Merges the flags of the command line. -/
def appendCustom (m : FlagMatrix) (c : CustomFlags) : FlagMatrix :=
  { addC := m.addC ++ c.add ++ c.addCOnly
    delC := m.delC ++ c.del
    addCxx := m.addCxx ++ c.add ++ c.addCxxOnly
    delCxx := m.delCxx ++ c.del }

/-! ## The environment variables -/

/-- The non-empty items of a colon-separated value. -/
def items (value : String) : List String :=
  (Text.splitAt ':' value).filter (· ≠ "")

/-- `flags` behind `old`, leaving out those already present. -/
def merge (old flags : List String) : List String :=
  flags.foldl (fun acc f => if acc.contains f then acc else acc ++ [f]) old

/-- The value of a variable after flags were written on top of `old`. -/
def mergedValue (old : Option String) (flags : List String) : String :=
  Text.join ":" (merge ((old.map items).getD []) flags)

def addCVar : String := "CSWRAP_ADD_CFLAGS"
def delCVar : String := "CSWRAP_DEL_CFLAGS"
def addCxxVar : String := "CSWRAP_ADD_CXXFLAGS"
def delCxxVar : String := "CSWRAP_DEL_CXXFLAGS"

/-- The variables and the flags that go into each. -/
def entries (m : FlagMatrix) : List (String × List String) :=
  [(addCVar, m.addC), (delCVar, m.delC), (addCxxVar, m.addCxx), (delCxxVar, m.delCxx)]

/-- Writes flags into one variable. -/
def writeVariable (env : Env) (entry : String × List String) : Env :=
  env.insert entry.1 (mergedValue (env.get? entry.1) entry.2)

/-- Writes the matrix into the environment, behind the flags that are there already. -/
def writeTo (m : FlagMatrix) (env : Env) : Env :=
  m.entries.foldl writeVariable env

end FlagMatrix

end ChrootScan
