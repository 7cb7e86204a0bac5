/-! # Log records

Diagnostics have a level and name the part of the program that writes them.
-/

namespace RefNav

/-- How important a record is. -/
inductive Level where
  | debug
  | warning
deriving Repr, DecidableEq

/-- The name of a level. -/
def Level.name : Level → String
  | .debug => "DEBUG"
  | .warning => "WARNING"

/-- The part of the program that writes a record. -/
inductive Source where
  | lookup
  | transport
  | provider
  | jump
  | workspace
  | settings
deriving Repr, DecidableEq

/-- The name of a part in records. -/
def Source.name : Source → String
  | .lookup => "ccsnav.resolve.remote"
  | .transport => "ccsnav.resolve.transport"
  | .provider => "ccsnav.resolve.provider"
  | .jump => "ccsnav.resolve.jump"
  | .workspace => "ccsnav.resolve.fallback"
  | .settings => "ccsnav.config"

/-- A line of diagnostics. -/
structure LogRecord where
  level : Level
  source : Source
  message : String
deriving Repr, DecidableEq

/-- The record with its level and source. -/
def LogRecord.display (r : LogRecord) : String :=
  r.level.name ++ " " ++ r.source.name ++ ": " ++ r.message

end RefNav
