import RefNav.Fault

/-! # Refusals and exit codes

A command that cannot do what it was asked for ends with a message and an exit
code that says why.
-/

namespace RefNav

/-- Why a command ended. -/
inductive ExitReason where
  | success
  | error
  | usage
  | notFound
  | noConnection
  | invalidFormat
deriving Repr, DecidableEq

namespace ExitReason

/-- All reasons, in the order of their codes. -/
def all : List ExitReason :=
  [.success, .error, .usage, .notFound, .noConnection, .invalidFormat]

/-- The exit code of a reason. -/
def code : ExitReason → Int
  | .success => 0
  | .error => 1
  | .usage => 2
  | .notFound => 3
  | .noConnection => 4
  | .invalidFormat => 5

/-- What a reason means. -/
def description : ExitReason → String
  | .success => "success"
  | .error => "unexpected error"
  | .usage => "invalid usage (bad arguments or flags)"
  | .notFound => "no definition found"
  | .noConnection => "no server connection configured -- see `ccsnav config`"
  | .invalidFormat => "invalid jump address -- use Label+Offset^Routine"

/-- The reason with an exit code. -/
def ofCode? (n : Int) : Option ExitReason :=
  all.find? fun r => r.code = n

end ExitReason

/-- The end of a command that did not do what it was asked for. -/
structure Refusal where
  exitCode : Int
  message : String
deriving Repr, DecidableEq

namespace Refusal

/-- A refusal without a reason of its own. -/
def general (message : String) : Refusal :=
  { exitCode := ExitReason.error.code, message }

/-- There is no reference, or no definition for it. -/
def notFound (message : String) : Refusal :=
  { exitCode := ExitReason.notFound.code, message }

/-- What is said where nothing more is known about a missing definition. -/
def notFoundText : String :=
  "No definition found."

/-- A server connection is needed. -/
def noConnection (message : String) : Refusal :=
  { exitCode := ExitReason.noConnection.code, message }

/-- What is said where a connection is missing. -/
def noConnectionText : String :=
  "No server connection configured. Run `ccsnav config --host ...`."

/-- A jump address has the wrong form. -/
def invalidFormat (message : String) : Refusal :=
  { exitCode := ExitReason.invalidFormat.code, message }

/-- What the exit code of a refusal means, if it is one of the known ones. -/
def description? (r : Refusal) : Option String :=
  (ExitReason.ofCode? r.exitCode).map ExitReason.description

end Refusal

end RefNav
