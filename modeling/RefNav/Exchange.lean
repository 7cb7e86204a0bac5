import RefNav.Cancellation.Token
import RefNav.Json.Value
import RefNav.Location
import RefNav.Log

/-! # Exchanges

An operation that may talk to a server runs against an exchange: how the server
answers, at what point the caller cancels, and a trace of everything the
operation did, in order.  Requests and back-off pauses can be bound to the
caller's token; a bound one registers a listener, is aborted if the token fires
while it is under way, and releases its listener in every case.
-/

namespace RefNav

open RefNav.Number

/-- What comes back for a request. -/
inductive Reply where
  /-- A response with a status and the text of its body. -/
  | response (status : Int) (text : String)
  | timeout
  | network (message : String)
  /-- A failure that the transport does not classify. -/
  | failure (kind : FailureKind) (message : String)
deriving Repr, DecidableEq

/-- A server answers some queries by name and all other requests in turn. -/
structure Server where
  byQuery : List (String × Reply) := []
  inTurn : Nat → Reply

/-- The answer given where nothing was arranged. -/
def Server.silence : Reply :=
  .network "no reply scripted"

/-- A server that goes through a list of replies and repeats the last. -/
def Server.ofReplies (byQuery : List (String × Reply)) (replies : List Reply) : Server :=
  { byQuery, inTurn := fun n => replies[n]?.getD (replies.getLast?.getD silence) }

/-- The reply to a request body after `served` replies were given in turn, and
whether it is one of those given in turn. -/
def Server.reply (s : Server) (served : Nat) (body : Json) : Reply × Bool :=
  match body.field "query" with
  | .str query =>
      match s.byQuery.lookup query with
      | some reply => (reply, false)
      | none => (s.inTurn served, true)
  | _ => (s.inTurn served, true)

/-- A request as it is sent. -/
structure Request where
  url : String
  headers : List (String × String)
  verifyTls : Bool
  timeout : Binary64
  body : Json
deriving Repr

/-- What the operation tells its caller while it runs. -/
inductive Notice where
  /-- The server had nothing for this query. -/
  | missed (query : String)
  /-- A lookup of the caller's own was asked. -/
  | asked (name : String)
  /-- A strategy gave no result and was passed over. -/
  | passed (name : String)
  | opened (uri : String)
  | revealed (location : Location)
  | warned (message : String)
  /-- A line was written to the output. -/
  | printed (line : String)
deriving Repr, DecidableEq

/-- One thing that happened during an operation. -/
inductive Event where
  | log (record : LogRecord)
  | request (request : Request)
  | pause (seconds : Binary64)
  | notice (notice : Notice)
deriving Repr

/-- The point at which the caller cancels. -/
inductive Interrupt where
  | never
  /-- Right after the `n`-th request is sent. -/
  | atRequest (n : Nat)
  /-- Right after the `n`-th back-off pause begins. -/
  | atPause (n : Nat)
deriving Repr, DecidableEq

/-- The surroundings of an operation and the trace of what it did. -/
structure Exchange where
  server : Server
  interrupt : Interrupt := .never
  /-- How many replies were given in turn. -/
  served : Nat := 0
  /-- The caller's token; its listeners abort what is under way. -/
  token : Token Unit := {}
  trace : List Event := []

namespace Event

/-- The request of an event. -/
def request? : Event → Option Request
  | .request r => some r
  | _ => none

/-- The pause of an event. -/
def pause? : Event → Option Binary64
  | .pause s => some s
  | _ => none

/-- The log record of an event. -/
def log? : Event → Option LogRecord
  | .log r => some r
  | _ => none

/-- The notice of an event. -/
def notice? : Event → Option Notice
  | .notice n => some n
  | _ => none

end Event

namespace Exchange

/-- The requests sent, in order. -/
def requests (x : Exchange) : List Request :=
  x.trace.filterMap Event.request?

/-- The back-off pauses begun, in order. -/
def pauses (x : Exchange) : List Binary64 :=
  x.trace.filterMap Event.pause?

/-- The log records written, in order. -/
def log (x : Exchange) : List LogRecord :=
  x.trace.filterMap Event.log?

/-- The notices given, in order. -/
def notices (x : Exchange) : List Notice :=
  x.trace.filterMap Event.notice?

/-- Add an event to the trace. -/
def add (x : Exchange) (e : Event) : Exchange :=
  { x with trace := x.trace ++ [e] }

/-- Does the caller cancel at an event that was just recorded? -/
def interruptsAt (x : Exchange) : Event → Bool
  | .request _ => x.interrupt = .atRequest x.requests.length
  | .pause _ => x.interrupt = .atPause x.pauses.length
  | _ => false

/-- Cancel the caller's token. -/
def cancel (x : Exchange) : Exchange :=
  { x with token := x.token.fire.1 }

/-- Begin something: record it, and let the caller cancel if this is the point. -/
def begin (x : Exchange) (e : Event) : Exchange :=
  let y := x.add e
  if y.interruptsAt e then y.cancel else y

/-- Run something under way to its end, bound to the caller's token if `bound`.
Yields whether it came to its end; a token that was cancelled before keeps it
from beginning at all. -/
def carryOut (x : Exchange) (bound : Bool) (e : Event) : Bool × Exchange :=
  if bound then
    if x.token.cancelled then (false, x)
    else
      let (token, handle) := x.token.register ()
      let y := { x with token := token }.begin e
      (!y.token.cancelled, { y with token := y.token.release handle })
  else (true, x.begin e)

end Exchange

/-- An operation that runs against an exchange and may fail. -/
abbrev Act (α : Type) := ExceptT Fault (StateM Exchange) α

namespace Act

/-- Add an event to the trace. -/
def emit (e : Event) : Act Unit :=
  modify fun x => x.add e

/-- Write a log record. -/
def write (level : Level) (source : Source) (message : String) : Act Unit :=
  emit (.log ⟨level, source, message⟩)

/-- Write a diagnostic record. -/
def debug (source : Source) (message : String) : Act Unit :=
  write .debug source message

/-- Write log records that were collected elsewhere. -/
def writeAll (records : List LogRecord) : Act Unit :=
  modify fun x => { x with trace := x.trace ++ records.map Event.log }

/-- Tell the caller something. -/
def tell (n : Notice) : Act Unit :=
  emit (.notice n)

/-- Write a line to the output. -/
def print (line : String) : Act Unit :=
  tell (.printed line)

/-- Go on with an outcome that was computed without the exchange. -/
def ofExcept {α : Type} (outcome : Except Fault α) : Act α :=
  ExceptT.mk (pure outcome)

/-- Run an operation and look at its outcome instead of failing with it. -/
def outcome {α : Type} (act : Act α) : Act (Except Fault α) :=
  ExceptT.lift (ExceptT.run act)

/-- Run an operation against an exchange. -/
def runOn {α : Type} (act : Act α) (x : Exchange) : Except Fault α × Exchange :=
  (ExceptT.run act).run x

/-- Send a request and wait for its reply; `none` if the caller cancelled. -/
def send (bound : Bool) (r : Request) : Act (Option Reply) := do
  let (finished, y) := (← get).carryOut bound (.request r)
  set y
  if finished then
    let (reply, inTurn) := y.server.reply y.served r.body
    if inTurn then set { y with served := y.served + 1 }
    return some reply
  else return none

/-- Pause for a time; yields whether the pause came to its end. -/
def pause (bound : Bool) (seconds : Binary64) : Act Bool := do
  let (finished, y) := (← get).carryOut bound (.pause seconds)
  set y
  return finished

end Act

end RefNav
