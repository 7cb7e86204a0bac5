import RefNav.Proofs.Json.RoundTrip
import RefNav.Proofs.Remote.Endpoint
import RefNav.Proofs.Remote.Lookup
import RefNav.Remote.ContextExpression

/-! # What an expansion can do

An expansion is refused without a request, or sends one and is settled by its reply.  It succeeds
exactly if the reply gives a text, and otherwise says why it did not.
-/

namespace RefNav

open RefNav.Number RefNav.Exchange

open RefNav.Text (CodePoint)

/-! ## Messages say something -/

namespace Json

/-- The answer expands an expression to this text, which may hold halves of surrogate pairs. -/
def Expands (answer : Json) (text : List CodePoint) : Prop :=
  ∃ members status given, answer = .obj members ∧
    Members.get? "status" members = some (.str status) ∧ Text.lowered status = "success" ∧
      Members.get? "textExpression" members = some given ∧ given.points? = some text ∧ text ≠ []

end Json

/-! ## Results -/

namespace Expansion

/-- A result gives one of the texts that are right, or no text and a reason. -/
structure Fits (result : Expansion) (right : List CodePoint → Prop) : Prop where
  succeeds_iff : ∀ text, result.ok = true ∧ result.text = text ↔ right text
  refuses : result.ok = false → result.text = [] ∧ result.message ≠ ""

variable {right : List CodePoint → Prop}

theorem Fits.congr {result : Expansion} {right' : List CodePoint → Prop} (h : result.Fits right)
    (same : ∀ text, right text ↔ right' text) : result.Fits right' where
  succeeds_iff := fun text => (h.succeeds_iff text).trans (same text)
  refuses := h.refuses

end Expansion

/-! ## Replies -/

namespace Reply

/-- The reply expands an expression to this text. -/
def Expands (reply : Reply) (text : List CodePoint) : Prop :=
  ∃ status body answer, reply = .response status body ∧ 200 ≤ status ∧ status < 300 ∧
    Json.read body = .ok answer ∧ answer.Expands text

end Reply

/-! ## Sending once -/

namespace Exchange

/-- The caller's token keeps nothing from being sent that is bound to it. -/
def Open (x : Exchange) (bound : Bool) : Prop :=
  bound = true → x.token.cancelled = false

/-- The caller cancels at the next request. -/
def StruckNext (x : Exchange) : Prop :=
  x.interrupt = .atRequest (x.requests.length + 1)

instance (x : Exchange) (bound : Bool) : Decidable (x.Open bound) :=
  inferInstanceAs (Decidable (_ → _))

instance (x : Exchange) : Decidable x.StruckNext :=
  inferInstanceAs (Decidable (_ = _))

/-- The token after the next request, had the request nothing to do with it. -/
def tokenAfter (x : Exchange) : Token Unit :=
  if x.StruckNext then x.token.fire.1 else x.token

end Exchange

namespace Expander

/-- The request of an expansion. -/
def request (endpoint : Endpoint) (routine expression : String) (timeout : Binary64) : Request :=
  { url := endpoint.baseUrl ++ Route.contextExpression
    headers := endpoint.headers
    verifyTls := endpoint.verifyTls
    timeout := timeout
    body := body routine expression }

/-- There is an expression to expand and a server to ask. -/
structure Askable (expression : String) (connection : Connection) : Prop where
  expression : Text.trimmed expression ≠ ""
  host : connection.host.truthy = true
  port : connection.port.truthy = true

/-- What the end of the request means for the expansion. -/
def conclude : Attempt → Act Expansion
  | .cancelled => return .refused "Cancelled."
  | .refused t => absorb (.transport t)
  | .failed f => absorb f
  | .answered _ answer => return Expansion.ofAnswer answer

variable (e : Expander) {routine expression : String} {connection : Connection} {bound : Bool}
variable {endpoint : Endpoint} {timeout : Binary64} {x y : Exchange}

/-- The request of an expansion is sent. -/
structure Sends (expression : String) (connection : Connection) (bound : Bool) (x : Exchange) :
    Prop where
  askable : Askable expression connection
  encodable : connection.Encodable
  isOpen : x.Open bound

/-- How an expansion runs that sends one request with this body, or none. -/
structure Settles (body : Json) (sends : Prop) (bound : Bool) (x : Exchange)
    (run : Except Fault Expansion × Exchange) : Prop where
  returns : ∃ result, run.1 = .ok result ∧ result.Fits fun text =>
    sends ∧ ¬ (bound = true ∧ x.StruckNext) ∧ (x.server.inTurn x.served).Expands text
  /-- The listeners are those that the token would have without the request. -/
  sent : sends → ∃ request, request.body = body ∧ run.2.steps = x.steps ++ [.request request] ∧
    run.2.token.listeners = x.tokenAfter.listeners
  unsent : ¬ sends → run.2.steps = x.steps ∧ run.2.token = x.token

/-- Only the caller's cancellation itself takes listeners away, those of others. -/
theorem Settles.listenerCount_eq {body : Json} {sends : Prop}
    {run : Except Fault Expansion × Exchange} (h : Settles body sends bound x run)
    (kept : x.token.listeners = [] ∨ x.token.cancelled = true ∨ ¬ (sends ∧ x.StruckNext)) :
    run.2.token.listenerCount = x.token.listenerCount := by
  by_cases now : sends
  · obtain ⟨request, -, -, listeners⟩ := h.sent now
    rw [Token.listenerCount, listeners, tokenAfter]
    by_cases struck : x.StruckNext
    · rw [if_pos struck]
      refine Token.listenerCount_fire ?_
      rcases kept with nobody | cancelled | calm
      · exact .inl nobody
      · exact .inr cancelled
      · exact absurd ⟨now, struck⟩ calm
    · rw [if_neg struck]
      rfl
  · rw [(h.unsent now).2]

end Expander

end RefNav
