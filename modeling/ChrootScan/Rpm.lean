import ChrootScan.Path
import ChrootScan.Text.Blank
import ChrootScan.Text.Decimal

/-!
# Package names

Source packages are files named `NAME-VERSION-RELEASE.src.rpm`; a list of installed packages holds
lines `NAME-VERSION-RELEASE.ARCH`.
-/

namespace ChrootScan.Rpm

/-- `NAME-VERSION-RELEASE` of the file name of a source package. -/
def nvr? (path : String) : Option String :=
  (Path.fileName? path).bind (Text.beforeTail? ".src.rpm")

/-- The text before the last two dashes, if there are two. -/
def beforeTwoDashes? (s : List Char) : Option (List Char) :=
  match (Text.fields '-' s).reverse with
  | _ :: _ :: name => if name.isEmpty then none else some (Text.joinChars ['-'] name.reverse)
  | _ => none

/-- `NAME` of the file name of a source package, which must not be empty. -/
def name? (path : String) : Option String :=
  (nvr? path).bind fun nvr =>
    ((beforeTwoDashes? nvr.toList).filter (!·.isEmpty)).map String.ofList

/-- A digit `0` to `9`. -/
def isAsciiDigit (c : Char) : Bool :=
  '0' ≤ c && c ≤ '9'

/-- What stands before the first dash that a digit follows. -/
def beforeDashDigit : List Char → List Char
  | [] => []
  | c :: rest =>
    if c = '-' && (rest.head?.map isAsciiDigit).getD false then [] else c :: beforeDashDigit rest

/-- What follows `tool` and a dash on a line, when it starts with a digit. -/
def versioned? (tool line : String) : Option (List Char) :=
  ((Text.afterLead? (tool ++ "-") (Text.trim line)).map String.toList).filter fun rest =>
    (rest.head?.map isAsciiDigit).getD false

/-- The version of `tool` on the first line of a package list that shows one. -/
def installedVersion? (list tool : String) : Option String :=
  ((Text.lines list).findSome? (versioned? tool)).map fun rest =>
    String.ofList (beforeDashDigit rest)

end ChrootScan.Rpm
