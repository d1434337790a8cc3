/-!
# Failures

What can stop a scan, said by its cause. A `ScanError` decides the exit code of the process; a
`Failure` is any cause with the contexts it passed on its way out, the outermost first.
-/

namespace ChrootScan

/-- What the operating system refuses. -/
inductive SystemError
  | notFound
  | permissionDenied
  | notExecutable
  | alreadyExists
  | notADirectory
  | isADirectory
  | invalidArgument
  | tooManyLinks
  | directoryNotEmpty
  /-- Bytes that were expected to be text. -/
  | notText
  /-- An error without a number of its own. -/
  | other (text : String)
deriving DecidableEq, Repr

/-- The wording of an error of the operating system. -/
def SystemError.message : SystemError → String
  | notFound => "No such file or directory (os error 2)"
  | permissionDenied => "Permission denied (os error 13)"
  | notExecutable => "Exec format error (os error 8)"
  | alreadyExists => "File exists (os error 17)"
  | notADirectory => "Not a directory (os error 20)"
  | isADirectory => "Is a directory (os error 21)"
  | invalidArgument => "Invalid argument (os error 22)"
  | tooManyLinks => "Too many levels of symbolic links (os error 40)"
  | directoryNotEmpty => "Directory not empty (os error 39)"
  | notText => "stream did not contain valid UTF-8"
  | other text => text

/-- An error that decides the exit code of the process. -/
inductive ScanError
  /-- The scan was given up; the exit code is already on record. -/
  | fatal (ec : Int)
  /-- The command line or its use is inconsistent. -/
  | usage (text : String)
  | system (cause : SystemError)
deriving DecidableEq, Repr

/-- The exit code of a command line that cannot be used. -/
def usageExitCode : Int := 2

namespace ScanError

def exitCode : ScanError → Int
  | fatal ec => ec
  | usage _ => usageExitCode
  | system _ => 1

def isFatal : ScanError → Bool
  | fatal _ => true
  | _ => false

def message : ScanError → String
  | fatal ec => "scan aborted with exit code " ++ toString ec
  | usage text => text
  | system cause => "I/O error: " ++ cause.message

/-- The message and, behind it, that of the system error it wraps. -/
def messages : ScanError → List String
  | system cause => [(system cause).message, cause.message]
  | e => [e.message]

end ScanError

/-- The innermost cause of a failure. -/
inductive Cause
  | scan (e : ScanError)
  | system (e : SystemError)
  | text (message : String)
deriving DecidableEq, Repr

/-- The messages of a cause, the outermost first. -/
def Cause.messages : Cause → List String
  | scan e => e.messages
  | system e => [e.message]
  | text message => [message]

/-- A cause and the contexts put around it, the outermost first. -/
structure Failure where
  contexts : List String := []
  cause : Cause
deriving DecidableEq, Repr

namespace Failure

def ofScan (e : ScanError) : Failure := ⟨[], .scan e⟩

def ofSystem (e : SystemError) : Failure := ⟨[], .system e⟩

def ofText (message : String) : Failure := ⟨[], .text message⟩

/-- Puts one more context around a failure. -/
def within (context : String) (f : Failure) : Failure :=
  { f with contexts := context :: f.contexts }

/-- All messages of the chain, the outermost first. -/
def messages (f : Failure) : List String :=
  f.contexts ++ f.cause.messages

/-- The outermost message. -/
def brief (f : Failure) : String :=
  f.messages.headD ""

/-- All messages of the chain, joined by colons. -/
def full (f : Failure) : String :=
  ": ".intercalate f.messages

/-- The scan error at the bottom of the chain. -/
def scanError? (f : Failure) : Option ScanError :=
  match f.cause with
  | .scan e => some e
  | _ => none

/-- A scan error anywhere in the chain decides the exit code, anything else is a plain failure. -/
def exitCode (f : Failure) : Int :=
  (f.scanError?.map ScanError.exitCode).getD 1

/-- The chain ends in a fatal scan error. -/
def isFatal (f : Failure) : Bool :=
  (f.scanError?.map ScanError.isFatal).getD false

end Failure

end ChrootScan
