import RefNav.Proofs.Remote.Call

/-! # What a lookup can do

A lookup is skipped without a request, fails because the namespace is no text that
can be encoded, or makes one call.
-/

namespace RefNav.Resolver

open RefNav.Number RefNav.Exchange

variable {r : Resolver} {query : String} {connection : Connection} {callTimeout : Option Int}

/-- The lookup gets an endpoint to send a query to. -/
structure Connects (r : Resolver) (query : String) (connection : Connection)
    (endpoint : Endpoint) : Prop where
  complete : connection.isComplete = true
  query_ne : query ≠ ""
  connect_eq : r.connect connection = .ok endpoint

/-- The lookup gets an endpoint, but its route fails: the namespace is no text that can be
encoded. -/
def Misnamed (r : Resolver) (query : String) (connection : Connection) : Prop :=
  (∃ endpoint, r.Connects query connection endpoint) ∧
    ∀ name, connection.namespaceName ≠ .str name

/-- The fault of a namespace that is no text, or a text with half of a surrogate pair. -/
def misnamedFault : Json → Fault
  | .unpaired u => .unencodable u
  | _ => .failure .badType "the name of a namespace is a text"

/-- The call that a lookup makes in a namespace. -/
def callIn (r : Resolver) (query : String) (endpoint : Endpoint) (name : String) (bound : Bool)
    (callTimeout : Option Int) : Call :=
  { endpoint := endpoint
    path := "/namespaces/" ++ Text.Percent.segment name ++ "/resolveDefinition"
    query := query
    timeoutMs := r.effectiveTimeout callTimeout
    bound := bound }

/-- The lookup sends requests with a time-out that a double can hold. -/
structure Sends (r : Resolver) (query : String) (connection : Connection)
    (callTimeout : Option Int) (endpoint : Endpoint) (name : String) (timeout delay : Binary64) :
    Prop extends r.Connects query connection endpoint where
  namespace_eq : connection.namespaceName = .str name
  seconds_eq : seconds (r.effectiveTimeout callTimeout) = .ok timeout
  backoff_eq : backoff (r.effectiveTimeout callTimeout) = .ok delay

theorem exists_seconds {milliseconds : Int}
    (fits : (Binary64.ofInt? milliseconds).isSome = true) :
    ∃ timeout, seconds milliseconds = .ok timeout := by
  obtain ⟨x, hx⟩ := Option.isSome_iff_exists.mp fits
  exact ⟨x.divNat 1000, by rw [seconds, hx]⟩

theorem exists_backoff {milliseconds : Int} {timeout : Binary64}
    (h : seconds milliseconds = .ok timeout) : ∃ delay, backoff milliseconds = .ok delay := by
  unfold seconds at h
  unfold backoff
  cases hx : Binary64.ofInt? milliseconds with
  | none => simp [hx] at h
  | some x => exact ⟨_, rfl⟩

theorem lookup_skipped (h : ¬ ∃ endpoint, r.Connects query connection endpoint) (bound : Bool)
    (callTimeout : Option Int) (x : Exchange) :
    ∃ y, (r.lookup query connection bound callTimeout).runOn x = (.ok none, y) ∧ x.Quiet y := by
  unfold lookup
  cases complete : connection.isComplete with
  | false => exact ⟨_, rfl, .add_log x _⟩
  | true =>
      by_cases empty : query = ""
      · subst empty
        exact ⟨_, rfl, .add_log x _⟩
      cases hc : r.connect connection with
      | ok endpoint => exact absurd ⟨endpoint, complete, empty, hc⟩ h
      | error f =>
          simp only [empty, if_false]
          exact ⟨_, rfl, .add_log x _⟩

theorem lookup_connected {endpoint : Endpoint} (h : r.Connects query connection endpoint)
    (bound : Bool) (callTimeout : Option Int) (x : Exchange) :
    (r.lookup query connection bound callTimeout).runOn x =
      match Route.definition connection.namespaceName with
      | .error f => (.error f, x)
      | .ok path =>
          (Call.run ⟨endpoint, path, query, r.effectiveTimeout callTimeout, bound⟩
            (r.attempts - 1) 1).runOn x := by
  unfold lookup
  simp only [h.complete, h.query_ne, h.connect_eq, Bool.not_true, if_false]
  cases hroute : Route.definition connection.namespaceName <;>
    simp [Act.runOn_bind, Act.runOn_mk_pure]

theorem lookup_misnamed (h : r.Misnamed query connection) (bound : Bool)
    (callTimeout : Option Int) (x : Exchange) :
    (r.lookup query connection bound callTimeout).runOn x =
      (.error (misnamedFault connection.namespaceName), x) := by
  obtain ⟨⟨endpoint, connects⟩, noName⟩ := h
  have hroute : Route.definition connection.namespaceName =
      .error (misnamedFault connection.namespaceName) := by
    unfold Route.definition misnamedFault
    split
    next name hname => exact absurd hname (noName name)
    next u hu => rw [hu]
    next noText notUnpaired => split <;> simp_all
  rw [lookup_connected connects, hroute]

theorem lookup_named {endpoint : Endpoint} {name : String}
    (h : r.Connects query connection endpoint) (hname : connection.namespaceName = .str name)
    (bound : Bool) (callTimeout : Option Int) (x : Exchange) :
    (r.lookup query connection bound callTimeout).runOn x =
      ((r.callIn query endpoint name bound callTimeout).run (r.attempts - 1) 1).runOn x := by
  rw [lookup_connected h, hname]
  rfl

/-- A call whose time-out no double holds ends at once. -/
theorem Call.run_unsendable {c : Call} {f : Fault} (h : seconds c.timeoutMs = .error f)
    (left number : Nat) (x : Exchange) :
    ∃ y, (c.run left number).runOn x = (.ok none, y) ∧ x.Quiet y := by
  have hattempt : c.attempt.runOn x = (.ok (.failed f), x) := by
    unfold Call.attempt
    rw [h]
    rfl
  exact runOn_run_of_settled hattempt rfl left number

/-- A lookup does nothing, fails at its route, or makes a call. -/
theorem lookup_cases (r : Resolver) (query : String) (connection : Connection)
    (callTimeout : Option Int) :
    (∀ bound x, ∃ y, (r.lookup query connection bound callTimeout).runOn x = (.ok none, y) ∧
      Quiet x y) ∧ ¬ r.Misnamed query connection ∨
    r.Misnamed query connection ∨
    ∃ endpoint name timeout delay,
      r.Sends query connection callTimeout endpoint name timeout delay := by
  by_cases connects : ∃ endpoint, r.Connects query connection endpoint
  · by_cases named : ∃ name, connection.namespaceName = .str name
    · obtain ⟨endpoint, hc⟩ := connects
      obtain ⟨name, hname⟩ := named
      cases hs : seconds (r.effectiveTimeout callTimeout) with
      | error f =>
          refine .inl ⟨fun bound x => ?_, fun h => h.2 name hname⟩
          rw [lookup_named hc hname]
          exact Call.run_unsendable hs _ _ x
      | ok timeout =>
          obtain ⟨delay, hb⟩ := exists_backoff hs
          exact .inr (.inr ⟨endpoint, name, timeout, delay, hc, hname, hs, hb⟩)
    · exact .inr (.inl ⟨connects, fun name h => named ⟨name, h⟩⟩)
  · exact .inl ⟨fun bound x => lookup_skipped connects bound callTimeout x, fun h => connects h.1⟩

/-- `y` comes after `x` by a request and then so many times a pause and the same
request again. -/
structure Alternates (x y : Exchange) (request : Request) (pause : Binary64) (n : Nat) : Prop where
  steps : y.steps = x.steps ++ Call.alternation request pause n
  requests : y.requests = x.requests ++ List.replicate (n + 1) request
  pauses : y.pauses = x.pauses ++ List.replicate n pause

theorem Alternates.of_steps {x y : Exchange} {request : Request} {pause : Binary64} {n : Nat}
    (h : y.steps = x.steps ++ Call.alternation request pause n) :
    Alternates x y request pause n where
  steps := h
  requests := by
    rw [requests_eq, h, List.filterMap_append, Call.alternation_requests, ← requests_eq]
  pauses := by
    rw [pauses_eq, h, List.filterMap_append, Call.alternation_pauses, ← pauses_eq]

/-- Undisturbed, a lookup is decided by the reply after the time-outs that come
first. -/
theorem lookup_undisturbed {bound : Bool} {x : Exchange} {endpoint : Endpoint} {name : String}
    {timeout delay : Binary64} {n : Nat}
    (sends : r.Sends query connection callTimeout endpoint name timeout delay)
    (hn : Call.retries (x.server.replyTo query x.served) (r.attempts - 1) = n)
    (calm : Undisturbed bound x (x.requests.length + (n + 1)) (x.pauses.length + n)) :
    ∃ y, (r.lookup query connection bound callTimeout).runOn x =
        ((x.server.replyTo query x.served n).verdict, y) ∧
      Onward bound x y (Call.alternation
        ((r.callIn query endpoint name bound callTimeout).request timeout)
        (delay.divNat 1000) n) := by
  subst hn
  rw [lookup_named sends.toConnects sends.namespace_eq]
  exact Call.run_undisturbed sends.seconds_eq sends.backoff_eq _ 1 x calm (Nat.lt_succ_self _)
    (Nat.le_refl _)

end RefNav.Resolver
