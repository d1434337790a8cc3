import ChrootScan.Shell.Quote

/-!
# Commands

A command to run on the host: a text for `sh -c`, or the words of a program call.
-/

namespace ChrootScan.Shell

/-- A command run on behalf of a scan. -/
inductive Command
  /-- Interpreted by a shell. -/
  | shell (text : String)
  /-- Run directly, the program first. -/
  | argv (words : List String)
deriving DecidableEq, Repr

namespace Command

/-- The command as it is echoed into the scan log. -/
def display : Command → String
  | shell text => quote text
  | argv words => commandLine .escaped words

/-- The program and its arguments. -/
def program : Command → List String
  | shell text => ["sh", "-c", text]
  | argv [] => [""]
  | argv words => words

end Command

end ChrootScan.Shell
