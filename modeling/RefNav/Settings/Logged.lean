import RefNav.Fault
import RefNav.Log

/-! # Computations that log

Reading settings may leave warnings behind, also where it fails in the end.
-/

namespace RefNav

/-- A computation that writes log records and may fail. -/
abbrev Logged (α : Type) := ExceptT Fault (StateM (List LogRecord)) α

namespace Logged

/-- Write records. -/
def writeAll (records : List LogRecord) : Logged Unit :=
  modify fun log => log ++ records

/-- Write a warning about the settings. -/
def warn (message : String) : Logged Unit :=
  writeAll [⟨.warning, .settings, message⟩]

/-- Go on with an outcome that was computed without logging. -/
def ofExcept {α : Type} (outcome : Except Fault α) : Logged α :=
  ExceptT.mk (pure outcome)

/-- The outcome and the records written on the way to it. -/
def outcome {α : Type} (m : Logged α) : Except Fault α × List LogRecord :=
  (ExceptT.run m).run []

end Logged

end RefNav
