import RefNav.Remote.Post

/-! # Looking up definitions on the server

A lookup asks the server for a query and gives a location or nothing.  Only a
time-out is tried again, after a pause of a tenth of the time-out, but at least
150 and at most 500 milliseconds.  Every other trouble ends the lookup without
a result, so that the caller can turn to a local search.
-/

namespace RefNav

open RefNav.Number

/-- The pause before another attempt, in milliseconds. -/
def backoff (timeoutMs : Int) : Except Fault Binary64 :=
  match Binary64.ofInt? timeoutMs with
  | none => .error .tooLargeForDouble
  | some x =>
      let share := x.mul Binary64.tenth
      let atLeast := if share.gtNat 150 then share else .ofSmall 150
      .ok (if atLeast.ltNat 500 then atLeast else .ofSmall 500)

/-- How definitions are looked up. -/
structure Resolver where
  timeoutMs : Int := 500
  maxAttempts : Int := 2
  /-- How an endpoint is made for a connection. -/
  connect : Connection → Except Fault Endpoint := Endpoint.ofConnection true

namespace Resolver

/-- The number of attempts: at least one. -/
def attempts (r : Resolver) : Nat :=
  (max 1 r.maxAttempts).toNat

/-- The time-out of a call: its own unless it is absent or zero. -/
def effectiveTimeout (r : Resolver) (callTimeout : Option Int) : Int :=
  match callTimeout with
  | some t => if t = 0 then r.timeoutMs else t
  | none => r.timeoutMs

/-- A failure in diagnostics. -/
def diagnostic : Fault → String
  | .failure kind message => kind.label ++ "(" ++ Text.quoted message ++ ")"
  | f => f.message

/-- A lookup under way. -/
structure Call where
  endpoint : Endpoint
  path : String
  query : String
  timeoutMs : Int
  /-- Is the call bound to the caller's token? -/
  bound : Bool

/-- The body of a definition request. -/
def Call.body (c : Call) : Json :=
  .obj [("query", .str c.query)]

/-- One attempt of a call. -/
def Call.attempt (c : Call) : Act Attempt :=
  match seconds c.timeoutMs with
  | .error f => return .failed f
  | .ok timeout => Act.post c.endpoint c.path c.body timeout c.bound

/-- The result of a call that ended with an attempt other than a time-out. -/
def Call.conclude (c : Call) : Attempt → Act (Option Location)
  | .cancelled => do
      Act.debug .lookup ("Definition lookup cancelled: " ++ Text.quoted c.query)
      return none
  | .refused t => do
      Act.debug .lookup ("Definition lookup failed (" ++ t.kind ++ "): " ++ t.message)
      return none
  | .failed f => do
      Act.debug .lookup ("Definition lookup failed unexpectedly: " ++ diagnostic f)
      return none
  | .answered _ body => do
      let found ← ExceptT.mk (pure (Location.ofAnswer body))
      if found.isNone then
        Act.debug .lookup ("Definition lookup returned empty payload: " ++ body.literal)
      return found

/-- The end of a call whose last attempt timed out. -/
def Call.giveUp (number : Nat) (t : TransportFault) : Act (Option Location) := do
  Act.debug .lookup ("Definition lookup timed out after " ++ Text.showInt number
    ++ " attempt(s): " ++ t.message)
  return none

/-- The pause after a time-out; yields whether another attempt follows. -/
def Call.wait (c : Call) (number : Nat) : Act Bool := do
  let delay ← ExceptT.mk (pure (backoff c.timeoutMs))
  Act.debug .lookup ("Definition lookup timed out (attempt " ++ Text.showInt number
    ++ "), retrying in " ++ Decimal.fixed 0 delay ++ "ms")
  if ← Act.pause c.bound (delay.divNat 1000) then return true
  else
    Act.debug .lookup ("Definition lookup cancelled during backoff: " ++ Text.quoted c.query)
    return false

/-- Attempt a call for the `number`-th time, with so many attempts left after it. -/
def Call.run (c : Call) : Nat → Nat → Act (Option Location)
  | 0, number => do
      match ← c.attempt with
      | .refused (.timedOut url timeout) => giveUp number (.timedOut url timeout)
      | attempt => c.conclude attempt
  | left + 1, number => do
      match ← c.attempt with
      | .refused (.timedOut _ _) =>
          if ← c.wait number then c.run left (number + 1) else return none
      | attempt => c.conclude attempt

/-- Look up a query over a connection. -/
def lookup (r : Resolver) (query : String) (connection : Connection) (bound : Bool)
    (callTimeout : Option Int) : Act (Option Location) := do
  if !connection.isComplete then
    Act.debug .lookup ("Definition lookup skipped: missing connection metadata "
      ++ connection.summary.literal)
    return none
  if query = "" then
    Act.debug .lookup "Definition lookup skipped: empty query"
    return none
  match r.connect connection with
  | .error f =>
      Act.debug .lookup ("Failed to create source-control transport: " ++ f.message)
      return none
  | .ok endpoint =>
      let path ← ExceptT.mk (pure (Route.definition connection.namespaceName))
      let call : Call :=
        { endpoint, path, query, timeoutMs := r.effectiveTimeout callTimeout, bound }
      call.run (r.attempts - 1) 1

end Resolver

end RefNav
