import RefNav.Fault
import RefNav.Json.Writer

/-! # Envelopes

The JSON output of every command is wrapped in an envelope that says what it is:
schema, command, version and summary, then the command's own members, which win
over those of the same name, and last the time of the answer.  Command and
summary are given apart, and a member may not name them again.
-/

namespace RefNav.Envelope

/-- The name of the schema. -/
def schema : String := "ccsnav-envelope-v1"

/-- The version of the schema. -/
def schemaVersion : String := "1.0.0"

/-- The version of the program. -/
def programVersion : String := "0.3.0"

/-- The names that a command's own members may not have. -/
def reserved : List String :=
  ["command", "summary"]

/-- The members of the envelope of a command's answer. -/
def members (timestamp command : String) (summary payload : Members) : Except Fault Members :=
  let head : Members :=
    [("schema", .str schema), ("schema_version", .str schemaVersion), ("command", .str command),
     ("version", .str programVersion), ("summary", .obj summary)]
  if payload.any fun p => reserved.contains p.1 then
    .error (.failure .badType "command and summary are given apart")
  else
    .ok (Members.set "_meta" (.obj [("timestamp", .str timestamp)]) (Members.merge head payload))

/-- The text of the envelope of a command's answer. -/
def text (timestamp command : String) (summary payload : Members) : Except Fault String :=
  (members timestamp command summary payload).map fun ms => (Json.obj ms).canonical

end RefNav.Envelope
