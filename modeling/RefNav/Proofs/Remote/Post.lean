import RefNav.Proofs.Exchange
import RefNav.Remote.Post

/-! # How one request ends

The end of a request is settled by its reply; apart from that a request leaves
nothing but log records behind.
-/

namespace RefNav

open RefNav.Number

/-- The value of a response body: null if it is empty or no JSON, and a fault if it is
nested too deeply to be read. -/
def bodyValue (text : String) : Except Fault Json :=
  if text = "" then .ok .null
  else
    match Json.read text with
    | .ok v => .ok v
    | .error (.tooDeep kind) =>
        .error (.failure .tooDeep (Json.ReadFault.message text.toList (.tooDeep kind)))
    | .error _ => .ok .null

namespace Reply

/-- How a request ends with a reply. -/
def attempt (url : String) (timeout : Binary64) : Reply → Attempt
  | .timeout => .refused (.timedOut url timeout)
  | .network message => .refused (.network url message)
  | .failure kind message => .failed (.failure kind message)
  | .response status text =>
      if 200 ≤ status ∧ status < 300 then
        match bodyValue text with
        | .ok body => .answered status body
        | .error f => .failed f
      else .refused (.status url status)

/-- What a reply means for the lookup of a definition: a body that was read is
taken as an answer, and everything else is no result. -/
def verdict : Reply → Except Fault (Option Location)
  | .response status text =>
      if 200 ≤ status ∧ status < 300 then
        match bodyValue text with
        | .ok body => Location.ofAnswer body
        | .error _ => .ok none
      else .ok none
  | _ => .ok none

end Reply

namespace Attempt

/-- Is this a time-out? -/
def isTimeOut : Attempt → Bool
  | .refused (.timedOut _ _) => true
  | _ => false

/-- What the end of a request means for the lookup of a definition. -/
def verdict : Attempt → Except Fault (Option Location)
  | .answered _ body => Location.ofAnswer body
  | _ => .ok none

end Attempt

theorem Reply.verdict_attempt (url : String) (timeout : Binary64) (reply : Reply) :
    (reply.attempt url timeout).verdict = reply.verdict := by
  cases reply with
  | response status text =>
      dsimp only [attempt, verdict]
      split
      · cases bodyValue text <;> rfl
      · rfl
  | _ => rfl

theorem Reply.isTimeOut_attempt {url : String} {timeout : Binary64} {reply : Reply} :
    (reply.attempt url timeout).isTimeOut = true ↔ reply = .timeout := by
  cases reply with
  | response status text =>
      dsimp only [attempt]
      split
      · cases bodyValue text <;> simp [Attempt.isTimeOut]
      · simp [Attempt.isTimeOut]
  | _ => simp [attempt, Attempt.isTimeOut]

namespace Act

theorem runOn_readBody (text : String) (x : Exchange) :
    ∃ y, (readBody text).runOn x = (.ok (bodyValue text), y) ∧ x.Quiet y := by
  unfold readBody bodyValue
  by_cases empty : text = ""
  · exact ⟨x, by simp [empty], .refl x⟩
  · simp only [empty, if_false]
    cases Json.read text with
    | ok v => exact ⟨x, rfl, .refl x⟩
    | error f =>
        cases f with
        | tooDeep kind => exact ⟨x, rfl, .refl x⟩
        | malformed defect offset => exact ⟨_, rfl, .add_log x _⟩
        | tooManyDigits digits => exact ⟨_, rfl, .add_log x _⟩

variable {e : Endpoint} {path : String} {body : Json} {timeout : Binary64} {bound : Bool}
variable {x y : Exchange}

theorem runOn_post_of_stopped
    (h : (send bound ⟨e.baseUrl ++ path, e.headers, e.verifyTls, timeout, body⟩).runOn x =
      (.ok none, y)) :
    (post e path body timeout bound).runOn x = (.ok .cancelled, y) := by
  unfold post
  dsimp only
  rw [runOn_bind_of_ok h]
  rfl

theorem runOn_post_of_reply {reply : Reply}
    (h : (send bound ⟨e.baseUrl ++ path, e.headers, e.verifyTls, timeout, body⟩).runOn x =
      (.ok (some reply), y)) :
    ∃ z, (post e path body timeout bound).runOn x =
      (.ok (reply.attempt (e.baseUrl ++ path) timeout), z) ∧ y.Quiet z := by
  unfold post
  dsimp only
  rw [runOn_bind_of_ok h]
  cases reply with
  | response status text =>
      dsimp only [Reply.attempt]
      split
      · obtain ⟨z, hz, quiet⟩ := runOn_readBody text y
        refine ⟨z, ?_, quiet⟩
        rw [runOn_bind_of_ok hz]
        cases bodyValue text <;> rfl
      · exact ⟨y, rfl, .refl y⟩
  | _ => exact ⟨y, rfl, .refl y⟩

end Act

end RefNav
