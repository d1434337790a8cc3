import ChrootScan.Text.Fields

/-!
# Paths

Paths are texts. Components are what stands between slashes: repeated slashes, slashes at the end
and components `.` other than a leading one do not count, so `a//b/.` has the components `a` and
`b`.
-/

namespace ChrootScan.Path

/-- The path starts at the root. -/
def isAbsolute (path : String) : Bool :=
  Text.startsWith "/" path

/-- The non-empty pieces between slashes. -/
def pieces (path : String) : List String :=
  (Text.splitAt '/' path).filter (· ≠ "")

/-- The components of a path: `/` for the root, then the pieces without `.`, which stays only at the
start of a relative path. -/
def components (path : String) : List String :=
  if isAbsolute path then "/" :: (pieces path).filter (· ≠ ".")
  else
    match Text.splitAt '/' path with
    | "." :: rest => "." :: rest.filter fun p => p ≠ "" ∧ p ≠ "."
    | all => all.filter fun p => p ≠ "" ∧ p ≠ "."

/-- The path of a list of components. -/
def ofComponents : List String → String
  | "/" :: rest => "/" ++ Text.join "/" rest
  | all => Text.join "/" all

/-- The last component, if it names something. -/
def fileName? (path : String) : Option String :=
  match (components path).getLast? with
  | none | some "/" | some ".." | some "." => none
  | some name => some name

/-- The path without its last component. -/
def parent? (path : String) : Option String :=
  match components path with
  | [] => none
  | ["/"] => none
  | all => some (ofComponents all.dropLast)

/-- `path` seen from `base`: an absolute path replaces it. -/
def join (base path : String) : String :=
  if isAbsolute path || base.isEmpty then path
  else if Text.endsWith "/" base then base ++ path
  else base ++ "/" ++ path

/-- What follows the last dot of the file name, unless that dot is its first character. -/
def extension? (path : String) : Option String :=
  (fileName? path).bind fun name =>
    match (Text.fields '.' name.toList).reverse with
    | [] | [_] => none
    | last :: before =>
      if before.all (·.isEmpty) && before.length == 1 then none else some (String.ofList last)

/-- The absolute form of a path: seen from `cwd`, without empty and `.` components, but with exactly
two leading slashes kept and with the slash at its end. -/
def absolute (cwd path : String) : String :=
  let names := (pieces path).filter (· ≠ ".")
  let base :=
    if !isAbsolute path then cwd
    else if Text.startsWith "//" path && !Text.startsWith "///" path then "//"
    else "/"
  let body := names.foldl join base
  if Text.endsWith "/" path then join body "" else body

/-- Equality of paths, component by component. -/
def same (p q : String) : Bool :=
  components p == components q

end ChrootScan.Path
