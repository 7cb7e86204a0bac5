import RefNav.Text.Quoted
import RefNav.Text.Digit

/-! # Faults of the file system

The ways in which opening, reading or making a file can fail, with the number
and the wording under which the system reports them.
-/

namespace RefNav

/-- Why the file system refuses an operation. -/
inductive FileFault where
  | noEntry
  | alreadyExists
  | notDirectory
  | isDirectory
  | nameTooLong
deriving Repr, DecidableEq

namespace FileFault

/-- The system's number for a fault. -/
def number : FileFault → Nat
  | .noEntry => 2
  | .alreadyExists => 17
  | .notDirectory => 20
  | .isDirectory => 21
  | .nameTooLong => 36

/-- The system's wording for a fault. -/
def wording : FileFault → String
  | .noEntry => "No such file or directory"
  | .alreadyExists => "File exists"
  | .notDirectory => "Not a directory"
  | .isDirectory => "Is a directory"
  | .nameTooLong => "File name too long"

/-- A fault at a path, as it is reported. -/
def report (f : FileFault) (path : String) : String :=
  "[Errno " ++ Text.showInt f.number ++ "] " ++ f.wording ++ ": " ++ Text.quoted path

end FileFault

end RefNav
