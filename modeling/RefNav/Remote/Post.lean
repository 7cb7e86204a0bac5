import RefNav.Exchange
import RefNav.Json.Reader
import RefNav.Remote.Connection

/-! # Posting a request

One request is sent as a JSON body.  A time-out, a network failure and a status
outside the two hundreds are classified; other failures are passed on as they
are.  A body that is not JSON counts as null.
-/

namespace RefNav

open RefNav.Number

/-- How one request ended. -/
inductive Attempt where
  | answered (status : Int) (body : Json)
  /-- A classified failure. -/
  | refused (t : TransportFault)
  /-- A failure of another kind. -/
  | failed (f : Fault)
  /-- The caller cancelled. -/
  | cancelled
deriving Repr

namespace Act

/-- The value of a response body.  An empty body and a body that is not JSON are
null; a body nested too deeply is a failure. -/
def readBody (text : String) : Act (Except Fault Json) := do
  if text = "" then return .ok .null
  match Json.read text with
  | .ok v => return .ok v
  | .error (.tooDeep kind) =>
      return .error (.failure .tooDeep (Json.ReadFault.message text.toList (.tooDeep kind)))
  | .error _ =>
      debug .transport ("Response body is not JSON (" ++ Text.showInt text.length ++ " bytes)")
      return .ok .null

/-- Send a body to a path of an endpoint. -/
def post (e : Endpoint) (path : String) (body : Json) (timeout : Binary64) (bound : Bool) :
    Act Attempt := do
  let url := e.baseUrl ++ path
  let reply ← send bound
    { url, headers := e.headers, verifyTls := e.verifyTls, timeout, body }
  match reply with
  | none => return .cancelled
  | some .timeout => return .refused (.timedOut url timeout)
  | some (.network message) => return .refused (.network url message)
  | some (.failure kind message) => return .failed (.failure kind message)
  | some (.response status text) =>
      if 200 ≤ status ∧ status < 300 then
        match ← readBody text with
        | .ok v => return .answered status v
        | .error f => return .failed f
      else return .refused (.status url status)

end Act

/-- Milliseconds as seconds. -/
def seconds (milliseconds : Int) : Except Fault Binary64 :=
  match Binary64.ofInt? milliseconds with
  | some x => .ok (x.divNat 1000)
  | none => .error .tooLargeForDouble

end RefNav
