import RefNav.Proofs.Agreement
import RefNav.Remote.Lookup

/-! # Dialogues

A dialogue is put together from requests, pauses and log records.  Log records are
written but never read, so a dialogue runs the same whatever was logged before; and
it leaves nothing in the trace but its own requests, pauses and log records.
-/

namespace RefNav

open RefNav.Number

/-! ## Exchanges without their log -/

/-- Is this a log record? -/
def Event.isLog (e : Event) : Bool :=
  e.log?.isSome

namespace Exchange

/-- The exchange with the log records of its trace left out. -/
def unlogged (x : Exchange) : Exchange :=
  { x with trace := x.trace.filter fun e => !e.isLog }

theorem filterMap_unlogged {β : Type} {f : Event → Option β}
    (h : ∀ record, f (.log record) = none) (x : Exchange) :
    x.unlogged.trace.filterMap f = x.trace.filterMap f := by
  unfold unlogged
  rw [List.filterMap_filter]
  congr 1
  funext e
  cases e with
  | log record => rw [h record, ite_self]
  | _ => rfl

theorem requests_unlogged (x : Exchange) : x.unlogged.requests = x.requests :=
  filterMap_unlogged (fun _ => rfl) x

theorem notices_unlogged (x : Exchange) : x.unlogged.notices = x.notices :=
  filterMap_unlogged (fun _ => rfl) x

/-- Exchanges that differ in log records only have the same requests. -/
theorem requests_congr {x y : Exchange} (h : x.unlogged = y.unlogged) :
    x.requests = y.requests := by
  rw [← requests_unlogged x, h, requests_unlogged]

theorem notices_congr {x y : Exchange} (h : x.unlogged = y.unlogged) :
    x.notices = y.notices := by
  rw [← notices_unlogged x, h, notices_unlogged]

theorem steps_unlogged (x : Exchange) : x.unlogged.steps = x.steps := by
  unfold unlogged steps
  rw [List.filter_filter]
  congr 1
  funext e
  cases e <;> rfl

theorem steps_congr {x y : Exchange} (h : x.unlogged = y.unlogged) : x.steps = y.steps := by
  rw [← steps_unlogged x, h, steps_unlogged]

theorem unlogged_add_log (x : Exchange) (record : LogRecord) :
    (x.add (.log record)).unlogged = x.unlogged := by
  simp [unlogged, add, Event.isLog, Event.log?]

/-- Leaving the log out leaves every request and every pause in. -/
theorem countsSteps_unlogged : CountsSteps fun trace => trace.filter fun e => !e.isLog where
  append _ _ := List.filter_append _ _
  requests trace := by
    rw [List.countP_filter]
    congr 1
    funext e
    cases e <;> rfl
  pauses trace := by
    rw [List.countP_filter]
    congr 1
    funext e
    cases e <;> rfl

/-! ## What the caller is told -/

/-- The exchange after its caller was told something. -/
def told (x : Exchange) (notices : List Notice) : Exchange :=
  { x with trace := x.trace ++ notices.map .notice }

theorem requests_told (x : Exchange) (notices : List Notice) :
    (x.told notices).requests = x.requests := by
  simp [told, requests, Event.request?]

theorem notices_told (x : Exchange) (notices : List Notice) :
    (x.told notices).notices = x.notices ++ notices := by
  have all : (notices.map Event.notice).filterMap Event.notice? = notices := by
    rw [List.filterMap_map]
    exact List.filterMap_some
  rw [told, Exchange.notices, List.filterMap_append, all]
  rfl

theorem steps_told (x : Exchange) (notices : List Notice) : (x.told notices).steps = x.steps := by
  have none_is_step : (notices.map Event.notice).filter Event.isStep = [] := by
    simp [Event.isStep, Event.isRequest, Event.isPause, Event.request?, Event.pause?]
  rw [told, steps, List.filter_append, none_is_step, List.append_nil]
  rfl

theorem told_told (x : Exchange) (first second : List Notice) :
    (x.told first).told second = x.told (first ++ second) := by
  simp [told]

theorem unlogged_told (x : Exchange) (notices : List Notice) :
    (x.told notices).unlogged = x.unlogged.told notices := by
  simp [told, unlogged, Event.isLog, Event.log?]

end Exchange

/-! ## Operations that do not read the log -/

namespace Act

variable {α β : Type}

/-- Two operations agree if they come to the same outcome and do the same, log records
aside, whenever they start from exchanges that are the same, log records aside. -/
def Agrees (a b : Act α) : Prop :=
  ∀ x y : Exchange, x.unlogged = y.unlogged →
    (a.runOn x).1 = (b.runOn y).1 ∧ (a.runOn x).2.unlogged = (b.runOn y).2.unlogged

namespace Agrees

variable {a b c : Act α} {f g : α → Act β}

theorem symm (h : Agrees a b) : Agrees b a := by
  intro x y hxy
  obtain ⟨outcome, rest⟩ := h y x hxy.symm
  exact ⟨outcome.symm, rest.symm⟩

theorem trans (hab : Agrees a b) (hbc : Agrees b c) : Agrees a c := by
  intro x y hxy
  obtain ⟨outcome, rest⟩ := hab x x rfl
  obtain ⟨outcome', rest'⟩ := hbc x y hxy
  exact ⟨outcome.trans outcome', rest.trans rest'⟩

theorem bind (h : Agrees a b) (next : ∀ v, Agrees (f v) (g v)) :
    Agrees (a >>= f) (b >>= g) :=
  AgreesUpTo.bind h next

/-- Passing a value on as it is makes no difference. -/
theorem then_pure {f : α → Act α} (h : Agrees a b) (same : ∀ v, Agrees (f v) (Pure.pure v)) :
    Agrees (a >>= f) b := by
  have agreed : Agrees (a >>= f) (b >>= Pure.pure) := h.bind same
  rwa [bind_pure] at agreed

theorem pure (v : α) : Agrees (Pure.pure v : Act α) (Pure.pure v) :=
  AgreesUpTo.of_outcome (.ok v)

/-- A log record makes no difference. -/
theorem debug (source : Source) (message : String) :
    Agrees (Act.debug source message) (Pure.pure ()) := by
  intro x y hxy
  refine ⟨rfl, ?_⟩
  rw [runOn_debug, runOn_pure, Exchange.unlogged_add_log, hxy]

end Agrees

/-! ## Dialogues -/

/-- An operation put together from log records, pauses, and requests that satisfy `p`. -/
inductive Dialogue (p : Request → Prop) : {α : Type} → Act α → Prop
  | ofOutcome {α : Type} (outcome : Except Fault α) : Dialogue p (ExceptT.mk (pure outcome))
  | bind {α β : Type} {a : Act α} {f : α → Act β} (first : Dialogue p a)
      (next : ∀ v, Dialogue p (f v)) : Dialogue p (a >>= f)
  | debug (source : Source) (message : String) : Dialogue p (Act.debug source message)
  | pause (bound : Bool) (seconds : Binary64) : Dialogue p (Act.pause bound seconds)
  | send (bound : Bool) {r : Request} (h : p r) : Dialogue p (Act.send bound r)

end Act

/-- What may stand in the trace of a dialogue whose requests satisfy `p`. -/
def Event.Spoken (p : Request → Prop) : Event → Prop
  | .log _ => True
  | .request r => p r
  | .pause _ => True
  | .notice _ => False

namespace Exchange

/-- `y` is `x` with nothing added to its trace but what a dialogue says. -/
def Speaks (p : Request → Prop) (x y : Exchange) : Prop :=
  ∃ said : List Event, y.trace = x.trace ++ said ∧ ∀ e ∈ said, e.Spoken p

namespace Speaks

variable {p : Request → Prop} {x y z : Exchange}

theorem of_trace_eq (h : y.trace = x.trace) : Speaks p x y :=
  ⟨[], by simpa using h, by simp⟩

theorem add {e : Event} (h : e.Spoken p) : Speaks p x (x.add e) :=
  ⟨[e], rfl, by simpa using h⟩

theorem trans (hxy : Speaks p x y) (hyz : Speaks p y z) : Speaks p x z := by
  obtain ⟨first, hy, spoken⟩ := hxy
  obtain ⟨second, hz, spoken'⟩ := hyz
  refine ⟨first ++ second, by rw [hz, hy, List.append_assoc], fun e he => ?_⟩
  rcases List.mem_append.mp he with he | he
  · exact spoken e he
  · exact spoken' e he

theorem carryOut {e : Event} (h : e.Spoken p) (x : Exchange) (bound : Bool) :
    Speaks p x (x.carryOut bound e).2 := by
  have added : Speaks p x (x.add e) := add h
  cases bound with
  | false =>
      rw [carryOut_unbound, begin_with_token x x.token]
      exact added
  | true =>
      cases hc : x.token.cancelled with
      | true =>
          rw [carryOut_of_cancelled hc]
          exact of_trace_eq rfl
      | false =>
          rw [carryOut_of_not_cancelled hc]
          exact added

theorem notices_eq (h : Speaks p x y) : y.notices = x.notices := by
  obtain ⟨said, hy, spoken⟩ := h
  have none_told : said.filterMap Event.notice? = [] := by
    rw [List.filterMap_eq_nil_iff]
    intro e he
    have := spoken e he
    cases e with
    | notice n => exact this.elim
    | _ => rfl
  rw [notices, hy, List.filterMap_append, none_told, List.append_nil]
  rfl

theorem exists_requests (h : Speaks p x y) :
    ∃ sent, y.requests = x.requests ++ sent ∧ ∀ r ∈ sent, p r := by
  obtain ⟨said, hy, spoken⟩ := h
  refine ⟨said.filterMap Event.request?, ?_, fun r hr => ?_⟩
  · rw [requests, hy, List.filterMap_append]
    rfl
  · obtain ⟨e, he, hr⟩ := List.mem_filterMap.mp hr
    have := spoken e he
    cases e with
    | request q => exact Option.some.inj hr ▸ this
    | _ => cases hr

end Speaks

end Exchange

namespace Act.Dialogue

variable {α : Type} {p : Request → Prop} {act : Act α}

theorem pure (v : α) : Dialogue p (Pure.pure v : Act α) :=
  ofOutcome (.ok v)

/-- A dialogue shows no more than it was started from shows. -/
theorem agreesUpTo {view : List Event → List Event} (counts : Exchange.CountsSteps view)
    (h : Dialogue p act) : AgreesUpTo view act act := by
  induction h with
  | ofOutcome outcome => exact .of_outcome outcome
  | bind _ _ first next => exact first.bind next
  | debug source message => exact .debug counts source message
  | pause bound seconds => exact .pause counts bound seconds
  | send bound _ => exact .send counts bound rfl rfl

/-- What a dialogue does and comes to does not depend on the log. -/
theorem agrees (h : Dialogue p act) : Agrees act act :=
  h.agreesUpTo Exchange.countsSteps_unlogged

/-- A dialogue says nothing but what it is put together from. -/
theorem speaks (h : Dialogue p act) (x : Exchange) : x.Speaks p (act.runOn x).2 := by
  induction h generalizing x with
  | ofOutcome outcome => exact .of_trace_eq rfl
  | @bind _ _ a f _ _ first next =>
      have said := first x
      rw [runOn_bind]
      rcases hx : a.runOn x with ⟨outcome, y⟩
      rw [hx] at said
      cases outcome with
      | ok v => exact said.trans (next v y)
      | error fault => exact said
  | debug source message => exact .add trivial
  | pause bound seconds =>
      rw [runOn_pause]
      exact .carryOut (e := .pause seconds) trivial x bound
  | @send bound r hr =>
      have said : x.Speaks p (x.carryOut bound (.request r)).2 :=
        .carryOut (e := .request r) hr x bound
      rw [runOn_send]
      dsimp only
      split
      · refine said.trans (.of_trace_eq ?_)
        unfold Exchange.advance
        split <;> rfl
      · exact said

end Act.Dialogue

/-! ## Lookups are dialogues -/

/-- Does a request ask for a query? -/
def Request.Asks (query : String) (r : Request) : Prop :=
  r.body = .obj [("query", .str query)]

/-- Does a request ask for a query, with so many milliseconds for the answer? -/
def Request.AsksWithin (query : String) (milliseconds : Int) (r : Request) : Prop :=
  r.Asks query ∧ seconds milliseconds = .ok r.timeout

namespace Act.Dialogue

variable {p q : Request → Prop}

theorem mono {α : Type} {act : Act α} (weaker : ∀ r, p r → q r) (h : Dialogue p act) :
    Dialogue q act := by
  induction h with
  | ofOutcome outcome => exact .ofOutcome outcome
  | bind _ _ first next => exact .bind first next
  | debug source message => exact .debug source message
  | pause bound seconds => exact .pause bound seconds
  | send bound sent => exact .send bound (weaker _ sent)

theorem readBody (text : String) : Dialogue p (Act.readBody text) := by
  unfold Act.readBody
  split
  · exact .pure _
  · split
    · exact .pure _
    · exact .pure _
    · exact .bind (.debug _ _) fun _ => .pure _

theorem post {e : Endpoint} {path : String} {body : Json} {timeout : Binary64} (bound : Bool)
    (h : p ⟨e.baseUrl ++ path, e.headers, e.verifyTls, timeout, body⟩) :
    Dialogue p (Act.post e path body timeout bound) := by
  refine .bind (.send bound h) fun reply => ?_
  split
  · exact .pure _
  · exact .pure _
  · exact .pure _
  · exact .pure _
  · split
    · refine .bind (readBody _) fun value => ?_
      cases value <;> exact .pure _
    · exact .pure _

end Act.Dialogue

namespace Resolver

open Act (Dialogue)

namespace Call

theorem dialogue_attempt (c : Call) :
    Dialogue (Request.AsksWithin c.query c.timeoutMs) c.attempt := by
  unfold attempt
  split
  · exact .pure _
  next read => exact .post _ ⟨rfl, read⟩

theorem dialogue_conclude {p : Request → Prop} (c : Call) (attempt : Attempt) :
    Dialogue p (c.conclude attempt) := by
  cases attempt with
  | answered status body =>
      refine .bind (.ofOutcome _) fun found => ?_
      split
      · exact .bind (.debug _ _) fun _ => .pure _
      · exact .pure _
  | refused t => exact .bind (.debug _ _) fun _ => .pure _
  | failed f => exact .bind (.debug _ _) fun _ => .pure _
  | cancelled => exact .bind (.debug _ _) fun _ => .pure _

theorem dialogue_wait {p : Request → Prop} (c : Call) (number : Nat) :
    Dialogue p (c.wait number) := by
  refine .bind (.ofOutcome _) fun delay => .bind (.debug _ _) fun _ => .bind (.pause _ _) ?_
  intro finished
  split
  · exact .pure _
  · exact .bind (.debug _ _) fun _ => .pure _

theorem dialogue_run (c : Call) (left number : Nat) :
    Dialogue (Request.AsksWithin c.query c.timeoutMs) (c.run left number) := by
  induction left generalizing number with
  | zero =>
      refine .bind c.dialogue_attempt fun attempt => ?_
      split
      · exact .bind (.debug _ _) fun _ => .pure _
      · exact c.dialogue_conclude _
  | succ left ih =>
      refine .bind c.dialogue_attempt fun attempt => ?_
      split
      · refine .bind (c.dialogue_wait number) fun again => ?_
        split
        · exact ih (number + 1)
        · exact .pure _
      · exact c.dialogue_conclude _

end Call

/-- A lookup asks for nothing but its query, each time within its time-out. -/
theorem dialogue_lookup_within (r : Resolver) (query : String) (connection : Connection)
    (bound : Bool) (callTimeout : Option Int) :
    Dialogue (Request.AsksWithin query (r.effectiveTimeout callTimeout))
      (r.lookup query connection bound callTimeout) := by
  unfold lookup
  split
  · exact .bind (.debug _ _) fun _ => .pure _
  · split
    · exact .bind (.debug _ _) fun _ => .pure _
    · cases r.connect connection with
      | error fault => exact .bind (.debug _ _) fun _ => .pure _
      | ok endpoint =>
          exact .bind (.ofOutcome _) fun path => Call.dialogue_run
            ⟨endpoint, path, query, r.effectiveTimeout callTimeout, bound⟩ (r.attempts - 1) 1

theorem dialogue_lookup (r : Resolver) (query : String) (connection : Connection) (bound : Bool)
    (callTimeout : Option Int) :
    Dialogue (Request.Asks query) (r.lookup query connection bound callTimeout) :=
  (r.dialogue_lookup_within query connection bound callTimeout).mono fun _ => And.left

end Resolver

end RefNav
