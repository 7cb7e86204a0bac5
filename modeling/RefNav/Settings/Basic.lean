import RefNav.Exchange
import RefNav.Remote.Lookup
import RefNav.Settings.Config
import RefNav.Text.Letter

/-! # Settings

Settings come from the configuration file of a project; variables of the
environment override them.  A number that is not usable is ignored with a
warning, and the default stands in for it.
-/

namespace RefNav

open RefNav.Text

/-- Variables of the environment. -/
abbrev Environment := List (String × String)

/-- The integer that a value denotes. -/
def Json.toInteger : Json → Except FailureKind Int
  | .bool b => .ok (if b then 1 else 0)
  | .int n => .ok n
  | .float .nan => .error .badValue
  | .float x =>
      match x.truncate? with
      | some n => .ok n
      | none => .error .outOfRange
  | .str s =>
      match readInteger s with
      | .ok n => .ok n
      | .error _ => .error .badValue
  | .unpaired _ => .error .badValue
  | _ => .error .badType

/-- Does a value switch something on?  Truth values speak for themselves; other
values do if their text is one of a few words. -/
def Json.isOn : Json → Bool
  | .bool b => b
  | v => ["1", "true", "yes", "on"].contains (lowered (trimmed v.plain))

/-- How the value of a variable is converted. -/
inductive Conversion where
  | text
  | integer
  | switch
deriving Repr, DecidableEq

/-- Convert the value of a variable; `none` if it cannot be. -/
def Conversion.apply : Conversion → String → Option Json
  | .text, raw => some (.str raw)
  | .integer, raw => (readInteger raw).toOption.map Json.int
  | .switch, raw => some (.bool (Json.str raw).isOn)

/-- The variables that override connection settings. -/
def connectionVariables : List (String × String × Conversion) :=
  [("CCSNAV_HOST", "host", .text), ("CCSNAV_PORT", "port", .integer),
   ("CCSNAV_NAMESPACE", "namespace", .text), ("CCSNAV_USERNAME", "username", .text),
   ("CCSNAV_PASSWORD", "password", .text), ("CCSNAV_HTTPS", "https", .switch),
   ("CCSNAV_PATH_PREFIX", "path_prefix", .text)]

/-- The variable that overrides the request time-out. -/
def timeoutVariable : String := "CCSNAV_TIMEOUT_MS"

/-- The variable that switches the logging of lookups on. -/
def debugVariable : String := "CCSNAV_DEBUG_RESOLVER"

/-- The value of a variable that is set and not empty. -/
def Environment.value? (env : Environment) (name : String) : Option String :=
  match List.lookup name env with
  | some "" => none
  | other => other

/-- The settings of a project. -/
structure Settings where
  requestTimeoutMs : Int := 500
  maxAttempts : Int := 2
  strictSsl : Bool := true
  debugResolver : Bool := false
  connection : Block := []

namespace Settings

/-- All variables that have an effect. -/
def variableNames : List String :=
  connectionVariables.map (·.1) ++ [timeoutVariable, debugVariable]

/-- Override connection settings by the variables that are set. -/
def overrideConnection (env : Environment) :
    List (String × String × Conversion) → Block → Logged Block
  | [], block => return block
  | (name, key, conversion) :: rest, block => do
      match env.value? name with
      | none => overrideConnection env rest block
      | some raw =>
          match conversion.apply raw with
          | some v => overrideConnection env rest (Block.set (.str key) v block)
          | none =>
              Logged.warn ("Ignoring invalid " ++ name ++ "=" ++ quoted raw)
              overrideConnection env rest block

/-- An integer setting; a value that is no integer is ignored with a warning. -/
def integerSetting (what : String) (default : Int) (value : Json) : Logged Int := do
  match value.toInteger with
  | .ok n => return n
  | .error .outOfRange =>
      throw (.failure .outOfRange "cannot convert float infinity to integer")
  | .error _ =>
      Logged.warn ("Ignoring invalid " ++ what ++ " " ++ value.literal)
      return default

/-- The value of a variable, else that of a configuration key, else a default. -/
def valueOf (env : Environment) (name : String) (data : Members) (key : String)
    (default : Json) : Json :=
  match env.value? name with
  | some raw => .str raw
  | none => (Members.get? key data).getD default

/-- The settings of a project in an environment. -/
def load (t : FileTree) (root : PathName) (env : Environment) : Logged Settings := do
  let data ← Config.load t root
  let block ← Logged.ofExcept (Block.ofJson ((Members.get? "connection" data).getD .null))
  let connection ← overrideConnection env connectionVariables block
  let requestTimeoutMs ← integerSetting "request timeout" 500
    (valueOf env timeoutVariable data "request_timeout_ms" (.int 500))
  let maxAttempts ← integerSetting "max_attempts" 2
    ((Members.get? "max_attempts" data).getD (.int 2))
  return {
    requestTimeoutMs, maxAttempts, connection
    strictSsl := ((Members.get? "strict_ssl" data).getD (.bool true)).isOn
    debugResolver :=
      (valueOf env debugVariable data "debug_resolver" (.bool false)).isOn }

/-- The port of a connection; null if it is absent or not a number. -/
def portOf (value : Json) : Logged Json := do
  match value with
  | .null | .str "" => return .null
  | v =>
      match v.toInteger with
      | .ok n => return .int n
      | .error .outOfRange =>
          throw (.failure .outOfRange "cannot convert float infinity to integer")
      | .error _ =>
          Logged.warn ("Ignoring non-numeric port " ++ v.literal)
          return .null

/-- The connection that a block describes. -/
def connectionOf (block : Block) : Logged Connection := do
  let value (key : String) : Json := (Block.get? key block).getD .null
  let port ← portOf (value "port")
  return {
    active := .bool ((Block.get? "active" block).getD (.bool true)).isOn
    namespaceName := (value "namespace").orElse .null
    host := (value "host").orElse .null
    port
    username := (value "username").orElse .null
    password := (value "password").orElse .null
    https := .bool ((Block.get? "https" block).getD (.bool false)).isOn
    pathPrefix := (value "path_prefix").orElse (.str "") }

/-- The connection of the project around a document. -/
def connectionFor (t : FileTree) (env : Environment) (uri : String) : Logged Connection := do
  let root ← Logged.ofExcept (t.projectRoot (PathName.ofString uri).parent)
  let settings ← load t (.ofPlace root) env
  connectionOf settings.connection

/-- How definitions are looked up under these settings. -/
def resolver (s : Settings) : Resolver :=
  { timeoutMs := s.requestTimeoutMs
    maxAttempts := s.maxAttempts
    connect := Endpoint.ofConnection s.strictSsl }

end Settings

/-- Run a computation that logs as part of an operation. -/
def Act.ofLogged {α : Type} (m : Logged α) : Act α := do
  let (outcome, log) := m.outcome
  Act.writeAll log
  Act.ofExcept outcome

end RefNav
