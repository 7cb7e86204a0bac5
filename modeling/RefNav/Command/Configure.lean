import RefNav.Command.Invocation

/-! # Showing and changing the configuration

Settings given on the command line are merged into the configuration file of the
project; without any, or on demand, the settings in force are shown.  A password
is never printed.
-/

namespace RefNav

/-- Settings given on the command line. -/
structure ConfigChange where
  host : Option String := none
  port : Option Int := none
  namespaceName : Option String := none
  username : Option String := none
  password : Option String := none
  https : Option Bool := none
  pathPrefix : Option String := none
  timeoutMs : Option Int := none
  strictSsl : Option Bool := none
  debugResolver : Option Bool := none
deriving Repr, DecidableEq

namespace ConfigChange

/-- A member for a value that was given. -/
def member (key : String) (value : Option Json) : Members :=
  match value with
  | some v => [(key, v)]
  | none => []

/-- The connection settings given. -/
def connection (c : ConfigChange) : Members :=
  member "host" (c.host.map .str) ++ member "port" (c.port.map .int)
    ++ member "namespace" (c.namespaceName.map .str) ++ member "username" (c.username.map .str)
    ++ member "password" (c.password.map .str) ++ member "https" (c.https.map .bool)
    ++ member "path_prefix" (c.pathPrefix.map .str)

/-- The settings given besides those of the connection. -/
def others (c : ConfigChange) : Members :=
  member "request_timeout_ms" (c.timeoutMs.map .int) ++ member "strict_ssl" (c.strictSsl.map .bool)
    ++ member "debug_resolver" (c.debugResolver.map .bool)

/-- All settings given, with a block for the connection. -/
def updates (c : ConfigChange) (block : Json) : Members :=
  (if c.connection.isEmpty then [] else [("connection", block)]) ++ c.others

/-- The settings as they are written. -/
def written (c : ConfigChange) : Members :=
  c.updates (.obj c.connection)

/-- The settings as they are shown. -/
def shown (c : ConfigChange) : Members :=
  c.updates (Block.masked (Block.ofMembers c.connection)).toJson

end ConfigChange

namespace Invocation

/-- A setting in a listing. -/
def settingLine (key value : String) : String :=
  "  " ++ key ++ " = " ++ value

/-- Say what was saved. -/
def reportSaved (i : Invocation) (path : String) (shown : Members) : Act Ending := do
  if i.json then
    i.answer "config" [("verdict", .str "saved")] (("config_path", .str path) :: shown)
  else
    Act.print "Saved settings:"
    for (key, value) in shown do Act.print (settingLine key value.literal)
    Act.print ("Config written to " ++ path)
    return .done

/-- Save settings; yields the files afterwards. -/
def saveConfig (i : Invocation) (change : ConfigChange) : Act Ending × FileTree :=
  match i.projectRoot with
  | .error f => (throw f, i.tree)
  | .ok root =>
      let (saved, tree) := Config.write i.tree root change.written
      let act := do
        Act.ofLogged saved
        i.reportSaved (Config.path root).toString change.shown
      (act, tree)

/-- The settings in force besides those of the connection. -/
def inForce (s : Settings) : Members :=
  [("request_timeout_ms", .int s.requestTimeoutMs), ("max_attempts", .int s.maxAttempts),
   ("strict_ssl", .bool s.strictSsl), ("debug_resolver", .bool s.debugResolver)]

/-- The settings in force as JSON.  The keys of the connection are in the order of
their values, not of their texts; keys that cannot be put into an order cannot be
written. -/
def answerConfig (i : Invocation) (s : Settings) (ready : Bool) : Act Ending := do
  let block := s.connection.masked
  if !Block.isSortable block then
    throw (.failure .badType "keys of different kinds cannot be put into an order")
  let envelope ← Act.ofExcept (Envelope.members i.timestamp "config"
    [("verdict", .str "ok"), ("connection_ready", .bool ready)]
    (inForce s ++ [("connection", Block.toJson block)]))
  let sorted := Json.sortMembers (Json.sortedMembers envelope)
  Act.print (Json.obj (Members.set "connection" (Block.toSortedJson block) sorted)).pretty
  return .done

/-- Whether lookups can be made, in words. -/
def readyText (ready : Bool) : String :=
  "Connection ready: " ++ (if ready then "yes" else "no (lookups fall back to local scan)")

/-- Show the settings in force. -/
def showConfig (i : Invocation) : Act Ending := do
  let root ← Act.ofExcept i.projectRoot
  let current ← Act.ofLogged (Config.load i.tree root)
  let settings ← Act.ofLogged (Settings.load i.tree root i.environment)
  let connection ← Act.ofLogged (Settings.connectionOf settings.connection)
  let ready := connection.isComplete
  if i.json then i.answerConfig settings ready
  else
    if current.isEmpty then
      Act.print "No .ccsnav/config.json found (using defaults and environment)."
    for (key, value) in inForce settings do Act.print (settingLine key value.literal)
    Act.print (settingLine "connection" (Block.literal settings.connection.masked))
    Act.print (readyText ready)
    return .done

/-- Save the settings given, or show those in force. -/
def configure (i : Invocation) (change : ConfigChange) (showOnly : Bool) : Act Ending × FileTree :=
  if !change.written.isEmpty && !showOnly then i.saveConfig change else (i.showConfig, i.tree)

end Invocation

end RefNav
