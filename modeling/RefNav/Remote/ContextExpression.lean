import RefNav.Remote.Post
import RefNav.Text.Blank
import RefNav.Text.Letter

/-! # Context expressions

The server expands an expression in the context of a routine into source text.
One request is sent and never repeated.  Unlike a lookup, an expansion reports
why it did not succeed.
-/

namespace RefNav

open RefNav.Text (CodePoint)

/-- The outcome of an expansion. -/
structure Expansion where
  ok : Bool
  text : List CodePoint := []
  message : String := ""
deriving Repr, DecidableEq

namespace Expansion

/-- An expansion that did not succeed. -/
def refused (message : String) : Expansion :=
  { ok := false, message }

/-- The text with a tab in front and the given line breaks. -/
def formatted (e : Expansion) (eol : String) : List CodePoint :=
  .char '\t' :: Text.withEol (eol.toList.map .char) e.text

/-- What is reported where the server gives no reason. -/
def failureText : String :=
  "Failed to resolve context expression."

/-- The expansion in a server's answer. -/
def ofAnswer (answer : Json) : Expansion :=
  let reported := (answer.field "message").orElse (.str failureText)
  match answer.field "status", (answer.field "textExpression").points? with
  | .str status, some text =>
      if Text.lowered status = "success" ∧ text ≠ [] then { ok := true, text }
      else refused reported.plain
  | _, _ => refused reported.plain

end Expansion

/-- How context expressions are expanded. -/
structure Expander where
  timeoutMs : Int := 5000
  connect : Connection → Except Fault Endpoint := Endpoint.ofConnection true

namespace Expander

/-- Report a failure of the request in the outcome. -/
def reportFailure (message : String) : Act Expansion := do
  Act.debug .lookup ("Context expression request failed: " ++ message)
  return .refused (Expansion.failureText ++ " " ++ message)

/-- Failures that are reported in the outcome: those of the transport and values
that were refused, texts that have no encoding among them.  Others end the
operation. -/
def absorb (f : Fault) : Act Expansion :=
  match f with
  | .transport t => reportFailure t.message
  | .noConnection => reportFailure Fault.noConnectionText
  | .failure .badValue message => reportFailure message
  | .failure .unencodable message => reportFailure message
  | f => throw f

/-- The body of an expansion request. -/
def body (routine expression : String) : Json :=
  .obj [("routine", .str routine), ("contextExpression", .str (Text.trimmed expression))]

/-- Expand an expression in the context of a routine. -/
def expand (e : Expander) (routine expression : String) (connection : Connection) (bound : Bool) :
    Act Expansion := do
  if Text.trimmed expression = "" then return .refused "Context expression is empty."
  if !connection.host.truthy || !connection.port.truthy then
    return .refused Fault.noConnectionText
  match e.connect connection with
  | .error f => absorb f
  | .ok endpoint =>
      let timeout ← ExceptT.mk (pure (seconds e.timeoutMs))
      let request := body routine expression
      match ← Act.post endpoint Route.contextExpression request timeout bound with
      | .cancelled => return .refused "Cancelled."
      | .refused t => absorb (.transport t)
      | .failed f => absorb f
      | .answered _ answer => return Expansion.ofAnswer answer

end Expander

end RefNav
