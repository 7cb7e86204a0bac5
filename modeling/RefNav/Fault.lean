import RefNav.FileFault
import RefNav.Number.Decimal
import RefNav.Text.Unpaired

/-! # Faults

Everything that can end an operation without a result.  Faults of a transport
are classified, because only a time-out is worth another attempt; the rest is
told apart by what went wrong.
-/

namespace RefNav

open RefNav.Number

/-- Why a request to the server gave no usable response. -/
inductive TransportFault where
  | timedOut (url : String) (seconds : Binary64)
  | network (url message : String)
  | status (url : String) (code : Int)
deriving Repr, DecidableEq

namespace TransportFault

/-- The class of a transport fault. -/
def kind : TransportFault → String
  | .timedOut _ _ => "timeout"
  | .network _ _ => "network"
  | .status _ _ => "http-status"

/-- The wording of a transport fault. -/
def message : TransportFault → String
  | .timedOut url seconds => "POST " ++ url ++ " timed out after " ++ Decimal.fixed 3 seconds ++ "s"
  | .network url message => "POST " ++ url ++ " failed: " ++ message
  | .status url code => "POST " ++ url ++ " returned HTTP " ++ Text.showInt code

end TransportFault

/-- The kinds of faults that carry nothing but a wording. -/
inductive FailureKind where
  /-- A value of a kind that the operation does not take. -/
  | badType
  /-- A value of the right kind that the operation refuses. -/
  | badValue
  /-- A text with half of a surrogate pair, which has no encoding. -/
  | unencodable
  /-- A number outside the range of its target. -/
  | outOfRange
  /-- An operation that a value of this kind does not have. -/
  | missingOperation
  /-- A failure of the surrounding program. -/
  | broken
  /-- A failure of the operating system. -/
  | system
  /-- A text nested more deeply than the reader follows. -/
  | tooDeep
deriving Repr, DecidableEq

/-- The label of a failure in diagnostics. -/
def FailureKind.label : FailureKind → String
  | .badType => "TypeError"
  | .badValue => "ValueError"
  | .unencodable => "UnicodeEncodeError"
  | .outOfRange => "OverflowError"
  | .missingOperation => "AttributeError"
  | .broken => "RuntimeError"
  | .system => "OSError"
  | .tooDeep => "RecursionError"

/-- Why an operation ended without a result. -/
inductive Fault where
  /-- A jump address that does not have the form `Label+Offset^Routine`. -/
  | invalidAddress
  /-- A line number outside a document whose last line is given. -/
  | lineOutOfRange (line last : Int)
  /-- A connection without a host or a port. -/
  | noConnection
  | transport (t : TransportFault)
  /-- A file system fault with its wording. -/
  | file (cause : FileFault) (message : String)
  /-- A document named on the command line that cannot be read. -/
  | unreadable (path hint : String)
  /-- Any other failure. -/
  | failure (kind : FailureKind) (message : String)
deriving Repr, DecidableEq

namespace Fault

/-- A file system fault at a path. -/
def atPath (cause : FileFault) (path : String) : Fault :=
  .file cause (cause.report path)

/-- A path with the character that marks the end of a path for the system. -/
def brokenPath : Fault :=
  .failure .badValue "embedded null byte"

/-- A text that cannot be encoded. -/
def unencodable (u : Text.Unpaired) : Fault :=
  .failure .unencodable u.message

/-- Did the operating system refuse something? -/
def isSystem : Fault → Bool
  | .file _ _ => true
  | .failure .system _ => true
  | _ => false

/-- The wording of the refusal of a jump address. -/
def addressFormat : String :=
  "Invalid format. Use Label+Offset^Routine"

/-- The wording used where a document has no server connection. -/
def noConnectionText : String :=
  "No active server connection for this document."

/-- The wording of a fault. -/
def message : Fault → String
  | .invalidAddress => addressFormat
  | .lineOutOfRange line last =>
      "line " ++ Text.showInt line ++ " out of range (0.." ++ Text.showInt last ++ ")"
  | .noConnection => noConnectionText
  | .transport t => t.message
  | .file _ message => message
  | .unreadable path hint => "Could not open file " ++ Text.quoted path ++ ": " ++ hint
  | .failure _ message => message

/-- The integer does not fit a double. -/
def tooLargeForDouble : Fault :=
  .failure .outOfRange "int too large to convert to float"

end Fault

theorem eq_ok_of_toOption {ε α : Type} {outcome : Except ε α} {value : α}
    (h : outcome.toOption = some value) : outcome = .ok value := by
  cases outcome with
  | error f => cases h
  | ok found => exact congrArg Except.ok (Option.some.inj h)

end RefNav
