import RefNav.Proofs.Number.Binary64
import RefNav.Proofs.Remote.Cancellation
import RefNav.Proofs.Remote.Retry
import RefNav.Settings.Basic

/-! # Lookups that fail

Whatever the server does ends a lookup with a location or with nothing, except
for two things: a namespace that is no text that can be encoded, and an answer
whose line number is too large for a double.
-/

namespace RefNav

open RefNav.Number RefNav.Exchange

/-! ## Answers -/

/-- An answer that names a text and a line number too large for a double. -/
def Json.Overlong (answer : Json) : Prop :=
  ∃ members uri n, answer = .obj members ∧ (answer.field "uri").text? = some uri ∧ uri ≠ "" ∧
    answer.field "line" = .int n ∧ Binary64.overflow ≤ n.natAbs

/-- A successful response whose body is such an answer. -/
def Reply.Overlong : Reply → Prop
  | .response status text =>
      200 ≤ status ∧ status < 300 ∧ ∃ answer, bodyValue text = .ok answer ∧ answer.Overlong
  | _ => False

theorem Location.lineOfNumber?_error_iff {v : Json} :
    (∃ f, lineOfNumber? v = .error f) ↔ ∃ n, v = .int n ∧ Binary64.overflow ≤ n.natAbs := by
  cases v with
  | int n =>
      simp only [lineOfNumber?, Json.int.injEq, exists_eq_left', ← Binary64.ofInt?_eq_none_iff]
      cases Binary64.ofInt? n <;> simp
  | _ => simp [lineOfNumber?]

theorem Location.ofAnswer_error_iff {answer : Json} :
    (∃ f, ofAnswer answer = .error f) ↔ answer.Overlong := by
  cases answer with
  | obj members =>
      have named : ∀ uri, ((Json.obj members).field "uri").text? = some uri → uri ≠ "" →
          ((∃ f, ofAnswer (.obj members) = .error f) ↔
            ∃ f, lineOfNumber? ((Json.obj members).field "line") = .error f) := by
        intro uri huri nonempty
        simp only [ofAnswer, huri, nonempty, if_false]
        rcases lineOfNumber? ((Json.obj members).field "line") with f | _ | n <;> simp
      constructor
      · rintro ⟨f, failed⟩
        obtain ⟨uri, huri, nonempty⟩ : ∃ uri, ((Json.obj members).field "uri").text? = some uri ∧
            uri ≠ "" := by
          unfold ofAnswer at failed
          dsimp only at failed
          split at failed
          next uri huri =>
            refine ⟨uri, huri, fun empty => ?_⟩
            rw [if_pos empty] at failed
            cases failed
          next => cases failed
        obtain ⟨n, hn, large⟩ :=
          lineOfNumber?_error_iff.mp ((named uri huri nonempty).mp ⟨f, failed⟩)
        exact ⟨members, uri, n, rfl, huri, nonempty, hn, large⟩
      · rintro ⟨_, uri, n, _, huri, nonempty, hn, large⟩
        exact (named uri huri nonempty).mpr (lineOfNumber?_error_iff.mpr ⟨n, hn, large⟩)
  | _ => simp [ofAnswer, Json.Overlong]

theorem Reply.verdict_error_iff {reply : Reply} :
    (∃ f, reply.verdict = .error f) ↔ reply.Overlong := by
  cases reply with
  | response status text =>
      by_cases success : 200 ≤ status ∧ status < 300
      · simp only [verdict, Overlong, success, and_self, if_true, true_and]
        cases bodyValue text with
        | error f => simp
        | ok body => simp [Location.ofAnswer_error_iff]
      · have fine : verdict (.response status text) = .ok none := by
          rw [verdict, if_neg success]
        rw [fine]
        constructor
        · rintro ⟨f, failed⟩
          cases failed
        · rintro ⟨lower, upper, _⟩
          exact absurd ⟨lower, upper⟩ success
  | _ => simp [verdict, Overlong]

/-! ## Lookups -/

namespace Resolver

variable {r : Resolver} {query : String} {connection : Connection} {bound : Bool}
variable {callTimeout : Option Int} {x : Exchange} {endpoint : Endpoint} {name : String}
variable {timeout delay : Binary64}

/-- The lookup comes to a reply with an overlong answer before its caller cancels. -/
def Overruns (r : Resolver) (query : String) (connection : Connection) (bound : Bool)
    (callTimeout : Option Int) (x : Exchange) : Prop :=
  ∃ endpoint name timeout delay n,
    r.Sends query connection callTimeout endpoint name timeout delay ∧ n < r.attempts ∧
    (∀ i < n, x.server.replyTo query x.served i = .timeout) ∧
    (x.server.replyTo query x.served n).Overlong ∧
    Undisturbed bound x (x.requests.length + (n + 1)) (x.pauses.length + n)

/-- Stopped on the way, a lookup ends with nothing. -/
theorem lookup_disturbed {n : Nat}
    (sends : r.Sends query connection callTimeout endpoint name timeout delay)
    (hn : Call.retries (x.server.replyTo query x.served) (r.attempts - 1) = n)
    (disturbed : ¬ Undisturbed bound x (x.requests.length + (n + 1)) (x.pauses.length + n)) :
    ((r.lookup query connection bound callTimeout).runOn x).1 = .ok none := by
  cases bound with
  | false => exact absurd (fun h => nomatch h) disturbed
  | true =>
      cases hc : x.token.cancelled with
      | true =>
          obtain ⟨y, hy, _⟩ := lookup_of_cancelled sends hc
          rw [hy]
      | false =>
          by_cases point : x.pointBy (x.requests.length + (n + 1)) (x.pauses.length + n)
          · obtain ⟨y, hy, _⟩ := lookup_struck sends hn hc point
            rw [hy]
          · exact absurd (fun _ => ⟨hc, point⟩) disturbed

theorem lookup_overruns (h : r.Overruns query connection bound callTimeout x) :
    ∃ f, ((r.lookup query connection bound callTimeout).runOn x).1 = .error f := by
  obtain ⟨endpoint, name, timeout, delay, n, sends, hn, before, overlong, calm⟩ := h
  have settled : x.server.replyTo query x.served n ≠ .timeout := by
    intro timedOut
    rw [timedOut] at overlong
    exact overlong
  have first := Call.retries_of_first (Nat.le_sub_one_of_lt hn) before settled
  obtain ⟨y, hy, _⟩ := lookup_undisturbed sends first calm
  rw [hy]
  exact Reply.verdict_error_iff.mpr overlong

/-- A call fails only with the reply that decides it. -/
theorem overruns_of_fails {f : Fault}
    (sends : r.Sends query connection callTimeout endpoint name timeout delay)
    (failed : ((r.lookup query connection bound callTimeout).runOn x).1 = .error f) :
    r.Overruns query connection bound callTimeout x := by
  have attempts := r.attempts_pos
  obtain ⟨n, hn⟩ : ∃ n, Call.retries (x.server.replyTo query x.served) (r.attempts - 1) = n :=
    ⟨_, rfl⟩
  have bounded : n ≤ r.attempts - 1 := hn ▸ Call.retries_le _ _
  by_cases calm : Undisturbed bound x (x.requests.length + (n + 1)) (x.pauses.length + n)
  · obtain ⟨y, hy, _⟩ := lookup_undisturbed sends hn calm
    rw [hy] at failed
    refine ⟨endpoint, name, timeout, delay, n, sends, by omega, fun i hi => ?_,
      Reply.verdict_error_iff.mp ⟨f, failed⟩, calm⟩
    exact Call.timeout_of_lt_retries (hn ▸ hi)
  · rw [lookup_disturbed sends hn calm] at failed
    cases failed

/-- A lookup absorbs every failure but two. -/
theorem lookup_fails_iff (r : Resolver) (query : String) (connection : Connection)
    (bound : Bool) (callTimeout : Option Int) (x : Exchange) :
    (∃ f, ((r.lookup query connection bound callTimeout).runOn x).1 = .error f) ↔
      r.Misnamed query connection ∨ r.Overruns query connection bound callTimeout x := by
  constructor
  · rintro ⟨f, failed⟩
    rcases lookup_cases r query connection callTimeout with ⟨skips, _⟩ | misnamed | sends
    · obtain ⟨y, hy, _⟩ := skips bound x
      rw [hy] at failed
      cases failed
    · exact .inl misnamed
    · obtain ⟨endpoint, name, timeout, delay, sends⟩ := sends
      exact .inr (overruns_of_fails sends failed)
  · rintro (misnamed | overruns)
    · exact ⟨misnamedFault connection.namespaceName, by rw [lookup_misnamed misnamed]⟩
    · exact lookup_overruns overruns

/-- Settings can name a namespace by a number, and then no lookup gets to its request. -/
theorem lookup_numbered_namespace_fails :
    let settings : Block := Block.ofMembers
      [("namespace", .int 5), ("host", .str "iris.local"), ("port", .int 52773),
        ("username", .str "dev"), ("password", .str "secret")]
    ∃ connection, (Settings.connectionOf settings).outcome.1 = .ok connection ∧
      ((lookup {} "^A" connection false none).runOn
        { server := Server.ofReplies [] [.response 200 "{}"] }).1 =
          .error (misnamedFault (.int 5)) :=
  ⟨_, rfl, rfl⟩

end Resolver

end RefNav
