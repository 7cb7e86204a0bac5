import RefNav.Exchange
import RefNav.Proofs.Cancellation.Token

/-! # Runs of operations

What running an operation does to an exchange, operation by operation.  The
requests and pauses of a trace are its steps; only they can be a point at which
the caller cancels, and log records between them change nothing that later
steps depend on.
-/

namespace RefNav

open RefNav.Number

/-! ## Running composed operations -/

namespace Act

variable {α β : Type}

@[simp]
theorem runOn_pure (a : α) (x : Exchange) : (pure a : Act α).runOn x = (.ok a, x) := rfl

@[simp]
theorem runOn_get (x : Exchange) : (get : Act Exchange).runOn x = (.ok x, x) := rfl

@[simp]
theorem runOn_set (y x : Exchange) : (set y : Act Unit).runOn x = (.ok (), y) := rfl

/-- What comes after a failure is not run. -/
theorem runOn_bind (act : Act α) (f : α → Act β) (x : Exchange) :
    (act >>= f).runOn x =
      match act.runOn x with
      | (.ok a, y) => (f a).runOn y
      | (.error e, y) => (.error e, y) := by
  change ExceptT.bindCont f (act x).1 (act x).2 =
    match act x with
    | (.ok a, y) => (f a).runOn y
    | (.error e, y) => (.error e, y)
  rcases act x with ⟨outcome, y⟩
  cases outcome <;> rfl

theorem runOn_bind_of_ok {act : Act α} {a : α} {x y : Exchange}
    (h : act.runOn x = (.ok a, y)) (f : α → Act β) : (act >>= f).runOn x = (f a).runOn y := by
  rw [runOn_bind, h]

theorem runOn_ite (p : Prop) [Decidable p] (a b : Act α) (x : Exchange) :
    (if p then a else b).runOn x = if p then a.runOn x else b.runOn x := by
  split <;> rfl

@[simp]
theorem runOn_debug (source : Source) (message : String) (x : Exchange) :
    (debug source message).runOn x = (.ok (), x.add (.log ⟨.debug, source, message⟩)) := rfl

@[simp]
theorem runOn_mk_pure (outcome : Except Fault α) (x : Exchange) :
    runOn (ExceptT.mk (pure outcome)) x = (outcome, x) := rfl

theorem runOn_pause (bound : Bool) (seconds : Binary64) (x : Exchange) :
    (pause bound seconds).runOn x =
      (.ok (x.carryOut bound (.pause seconds)).1, (x.carryOut bound (.pause seconds)).2) := rfl

end Act

/-- Count a reply if it was one of those given in turn. -/
def Exchange.advance (x : Exchange) (inTurn : Bool) : Exchange :=
  if inTurn then { x with served := x.served + 1 } else x

theorem Exchange.server_advance (x : Exchange) (inTurn : Bool) :
    (x.advance inTurn).server = x.server := by
  unfold advance
  split <;> rfl

theorem Act.runOn_send (bound : Bool) (r : Request) (x : Exchange) :
    (send bound r).runOn x =
      let (finished, y) := x.carryOut bound (.request r)
      if finished then
        (.ok (some (y.server.reply y.served r.body).1),
          y.advance (y.server.reply y.served r.body).2)
      else (.ok none, y) := by
  unfold send
  simp only [runOn_bind, runOn_get, runOn_set, runOn_ite, runOn_pure]
  split
  · split <;> simp [Exchange.advance, *]
  · rfl

/-! ## Replies to one query -/

/-- The reply to the `n`-th request for a query, counted from zero, if `served`
replies were given in turn before the first. -/
def Server.replyTo (s : Server) (query : String) (served n : Nat) : Reply :=
  match s.byQuery.lookup query with
  | some reply => reply
  | none => s.inTurn (served + n)

/-- Is a query answered in turn? -/
def Server.answersInTurn (s : Server) (query : String) : Bool :=
  (s.byQuery.lookup query).isNone

theorem Server.reply_query (s : Server) (served : Nat) (query : String) :
    s.reply served (.obj [("query", .str query)]) =
      (s.replyTo query served 0, s.answersInTurn query) := by
  have field : Json.field "query" (.obj [("query", .str query)]) = .str query := rfl
  unfold Server.reply Server.replyTo Server.answersInTurn
  rw [field]
  dsimp only
  cases s.byQuery.lookup query <;> rfl

/-- After a reply the following ones move up by one. -/
theorem Server.replyTo_advance (x : Exchange) (s : Server) (query : String) (n : Nat) :
    s.replyTo query (x.advance (s.answersInTurn query)).served n =
      s.replyTo query x.served (n + 1) := by
  unfold Server.replyTo Server.answersInTurn Exchange.advance
  cases s.byQuery.lookup query with
  | some reply => rfl
  | none => simp [Nat.add_assoc, Nat.add_comm 1 n]

/-! ## Steps -/

namespace Event

/-- A request was sent. -/
def isRequest (e : Event) : Bool :=
  e.request?.isSome

/-- A back-off pause began. -/
def isPause (e : Event) : Bool :=
  e.pause?.isSome

/-- A step is a request or a pause. -/
def isStep (e : Event) : Bool :=
  e.isRequest || e.isPause

end Event

namespace Exchange

/-- The requests and pauses, in order. -/
def steps (x : Exchange) : List Event :=
  x.trace.filter Event.isStep

theorem requests_eq (x : Exchange) : x.requests = x.steps.filterMap Event.request? := by
  unfold requests steps
  rw [List.filterMap_filter]
  congr 1
  funext e
  cases e <;> rfl

theorem pauses_eq (x : Exchange) : x.pauses = x.steps.filterMap Event.pause? := by
  unfold pauses steps
  rw [List.filterMap_filter]
  congr 1
  funext e
  cases e <;> rfl

theorem requests_length (x : Exchange) : x.requests.length = x.steps.countP Event.isRequest := by
  rw [requests_eq, List.length_filterMap_eq_countP]
  rfl

theorem pauses_length (x : Exchange) : x.pauses.length = x.steps.countP Event.isPause := by
  rw [pauses_eq, List.length_filterMap_eq_countP]
  rfl

theorem steps_add (x : Exchange) (e : Event) :
    (x.add e).steps = if e.isStep then x.steps ++ [e] else x.steps := by
  unfold steps add
  rw [List.filter_append]
  split <;> simp [*]

/-! ## Written records -/

/-- `y` is `x` after some log records were written. -/
def Quiet (x y : Exchange) : Prop :=
  ∃ records : List LogRecord, y = { x with trace := x.trace ++ records.map Event.log }

namespace Quiet

variable {x y z : Exchange}

theorem refl (x : Exchange) : Quiet x x :=
  ⟨[], by simp⟩

theorem trans (hxy : Quiet x y) (hyz : Quiet y z) : Quiet x z := by
  obtain ⟨first, rfl⟩ := hxy
  obtain ⟨second, rfl⟩ := hyz
  exact ⟨first ++ second, by simp⟩

theorem add_log (x : Exchange) (record : LogRecord) : Quiet x (x.add (.log record)) :=
  ⟨[record], rfl⟩

theorem server_eq (h : Quiet x y) : y.server = x.server := by
  obtain ⟨_, rfl⟩ := h
  rfl

theorem served_eq (h : Quiet x y) : y.served = x.served := by
  obtain ⟨_, rfl⟩ := h
  rfl

theorem interrupt_eq (h : Quiet x y) : y.interrupt = x.interrupt := by
  obtain ⟨_, rfl⟩ := h
  rfl

theorem token_eq (h : Quiet x y) : y.token = x.token := by
  obtain ⟨_, rfl⟩ := h
  rfl

theorem steps_eq (h : Quiet x y) : y.steps = x.steps := by
  obtain ⟨records, rfl⟩ := h
  have none_is_step : (records.map Event.log).filter Event.isStep = [] := by
    rw [List.filter_eq_nil_iff]
    intro e he
    obtain ⟨record, _, rfl⟩ := List.mem_map.mp he
    exact Bool.false_ne_true
  unfold steps
  rw [List.filter_append, none_is_step, List.append_nil]

end Quiet

/-! ## Carrying out a step -/

/-- Does the caller cancel right after an event that comes next? -/
def strikes (x : Exchange) (e : Event) : Bool :=
  (x.add e).interruptsAt e

/-- Whether the caller cancels does not depend on who listens. -/
theorem begin_with_token (x : Exchange) (t : Token Unit) (e : Event) :
    begin { x with token := t } e =
      { x.add e with token := if x.strikes e then t.fire.1 else t } := by
  have same : interruptsAt (add { x with token := t } e) e = x.strikes e := rfl
  unfold begin
  dsimp only
  rw [same]
  split <;> rfl

theorem carryOut_unbound (x : Exchange) (e : Event) : x.carryOut false e = (true, x.begin e) := rfl

theorem carryOut_of_cancelled {x : Exchange} (h : x.token.cancelled = true) (e : Event) :
    x.carryOut true e = (false, x) := by
  simp [carryOut, h]

/-- The token after a listener was registered and released again. -/
def visited (t : Token Unit) : Token Unit :=
  (t.register ()).1.release (t.register ()).2

/-- The token after it fired while a listener was registered. -/
def stopped (t : Token Unit) : Token Unit :=
  (t.register ()).1.fire.1.release (t.register ()).2

theorem carryOut_of_not_cancelled {x : Exchange} (h : x.token.cancelled = false) (e : Event) :
    x.carryOut true e =
      (!x.strikes e, { x.add e with
        token := if x.strikes e then stopped x.token else visited x.token }) := by
  have uncancelled : (x.token.register ()).1.cancelled = false := by simp [Token.register, h]
  simp only [carryOut, h, begin_with_token]
  cases x.strikes e <;> simp [visited, stopped, uncancelled]

theorem served_carryOut (x : Exchange) (bound : Bool) (e : Event) :
    (x.carryOut bound e).2.served = x.served := by
  cases bound with
  | false =>
      rw [carryOut_unbound, begin_with_token x x.token]
      rfl
  | true =>
      cases h : x.token.cancelled with
      | true => rw [carryOut_of_cancelled h]
      | false =>
          rw [carryOut_of_not_cancelled h]
          rfl

/-! ## Undisturbed stretches -/

/-- `y` comes after `x` by some steps, and the caller did not cancel on the way.  The
listeners that were there before are there again. -/
structure Onward (bound : Bool) (x y : Exchange) (steps : List Event) : Prop where
  server : y.server = x.server
  interrupt : y.interrupt = x.interrupt
  steps : y.steps = x.steps ++ steps
  uncancelled : bound = true → x.token.cancelled = false → y.token.cancelled = false
  listeners : bound = true → x.token.Fresh →
    y.token.Fresh ∧ y.token.listeners = x.token.listeners

namespace Onward

variable {bound : Bool} {x y z : Exchange} {first second : List Event}

theorem trans (hxy : Onward bound x y first) (hyz : Onward bound y z second) :
    Onward bound x z (first ++ second) where
  server := hyz.server.trans hxy.server
  interrupt := hyz.interrupt.trans hxy.interrupt
  steps := by rw [hyz.steps, hxy.steps, List.append_assoc]
  uncancelled hb hx := hyz.uncancelled hb (hxy.uncancelled hb hx)
  listeners hb hx := by
    obtain ⟨freshY, sameY⟩ := hxy.listeners hb hx
    obtain ⟨freshZ, sameZ⟩ := hyz.listeners hb freshY
    exact ⟨freshZ, sameZ.trans sameY⟩

theorem of_quiet (h : Quiet x y) : Onward bound x y [] where
  server := h.server_eq
  interrupt := h.interrupt_eq
  steps := by rw [h.steps_eq, List.append_nil]
  uncancelled _ hx := by rwa [h.token_eq]
  listeners _ hx := by rw [h.token_eq]; exact ⟨hx, rfl⟩

theorem advance (x : Exchange) (inTurn : Bool) : Onward bound x (x.advance inTurn) [] := by
  unfold Exchange.advance
  split <;> exact ⟨rfl, rfl, (List.append_nil _).symm, fun _ h => h, fun _ h => ⟨h, rfl⟩⟩

/-- A step at which the caller does not cancel comes to its end. -/
theorem of_carryOut {e : Event} (isStep : e.isStep = true)
    (calm : bound = true → x.token.cancelled = false ∧ x.strikes e = false) :
    (x.carryOut bound e).1 = true ∧ Onward bound x (x.carryOut bound e).2 [e] := by
  have grown : (x.add e).steps = x.steps ++ [e] := by rw [steps_add, if_pos isStep]
  cases bound with
  | false =>
      rw [carryOut_unbound, begin_with_token x x.token]
      exact ⟨rfl, rfl, rfl, grown, (nomatch ·), (nomatch ·)⟩
  | true =>
      obtain ⟨hc, hs⟩ := calm rfl
      rw [carryOut_of_not_cancelled hc, hs]
      refine ⟨rfl, rfl, rfl, grown, fun _ _ => ?_, fun _ fresh => ⟨?_, ?_⟩⟩
      · simp [visited, Token.register, hc]
      · exact (fresh.register ()).release _
      · exact Token.listeners_release_register fresh ()

end Onward

/-! ## The point of cancellation -/

/-- Does the point at which the caller cancels lie behind what was done so far, but
not behind so many requests and pauses in all? -/
def pointBy (x : Exchange) (requests pauses : Nat) : Prop :=
  match x.interrupt with
  | .never => False
  | .atRequest n => x.requests.length < n ∧ n ≤ requests
  | .atPause n => x.pauses.length < n ∧ n ≤ pauses

instance (x : Exchange) (requests pauses : Nat) : Decidable (x.pointBy requests pauses) := by
  unfold pointBy
  split <;> infer_instance

theorem strikes_request {x : Exchange} {r : Request} :
    x.strikes (.request r) = true ↔ x.interrupt = .atRequest (x.requests.length + 1) := by
  simp [strikes, interruptsAt, add, requests, Event.request?]

theorem strikes_pause {x : Exchange} {seconds : Binary64} :
    x.strikes (.pause seconds) = true ↔ x.interrupt = .atPause (x.pauses.length + 1) := by
  simp [strikes, interruptsAt, add, pauses, Event.pause?]

/-- The caller cancelled at the last of some steps, and all listeners were told. -/
structure Halted (x : Exchange) (steps : List Event) : Prop where
  steps : x.steps = steps
  cancelled : x.token.cancelled = true
  listeners : x.token.listeners = []

theorem Halted.of_quiet {x y : Exchange} {steps : List Event} (h : x.Halted steps)
    (quiet : Quiet x y) : y.Halted steps where
  steps := by rw [quiet.steps_eq, h.steps]
  cancelled := by rw [quiet.token_eq, h.cancelled]
  listeners := by rw [quiet.token_eq, h.listeners]

/-- A step at which the caller cancels is the last. -/
theorem Halted.of_strikes {x : Exchange} {e : Event} (isStep : e.isStep = true)
    (uncancelled : x.token.cancelled = false) (struck : x.strikes e = true) :
    (x.carryOut true e).1 = false ∧ (x.carryOut true e).2.Halted (x.steps ++ [e]) := by
  rw [carryOut_of_not_cancelled uncancelled, struck]
  refine ⟨rfl, ?_, ?_, ?_⟩
  · change (x.add e).steps = x.steps ++ [e]
    rw [steps_add, if_pos isStep]
  · simp [stopped]
  · simp [stopped, Token.register, Token.fire, Token.release, Token.unregister, uncancelled]

/-- The caller does not cancel before so many requests and pauses in all are begun. -/
def Undisturbed (bound : Bool) (x : Exchange) (requests pauses : Nat) : Prop :=
  bound = true → x.token.cancelled = false ∧ ¬ x.pointBy requests pauses

/-- If the last request is the next one, the point can only be there. -/
theorem interrupt_of_pointBy {x : Exchange}
    (h : x.pointBy (x.requests.length + 1) x.pauses.length) :
    x.interrupt = .atRequest (x.requests.length + 1) := by
  unfold pointBy at h
  cases hi : x.interrupt with
  | never => simp [hi] at h
  | atRequest n =>
      simp only [hi] at h
      rw [show n = x.requests.length + 1 by omega]
  | atPause n =>
      simp only [hi] at h
      omega

theorem Undisturbed.of_never {bound : Bool} {x : Exchange}
    (calm : bound = true → x.token.cancelled = false ∧ x.interrupt = .never) (a b : Nat) :
    Undisturbed bound x a b := by
  intro hbound
  obtain ⟨uncancelled, never⟩ := calm hbound
  refine ⟨uncancelled, ?_⟩
  unfold pointBy
  rw [never]
  exact not_false

namespace Onward

variable {bound : Bool} {x y : Exchange} {done : List Event}

theorem requests_length_eq (h : Onward bound x y done) :
    y.requests.length = x.requests.length + done.countP Event.isRequest := by
  rw [requests_length, requests_length, h.steps, List.countP_append]

theorem pauses_length_eq (h : Onward bound x y done) :
    y.pauses.length = x.pauses.length + done.countP Event.isPause := by
  rw [pauses_length, pauses_length, h.steps, List.countP_append]

theorem pointBy_of_pointBy {a b : Nat} (h : Onward bound x y done) (hy : y.pointBy a b) :
    x.pointBy a b := by
  have hr := h.requests_length_eq
  have hp := h.pauses_length_eq
  unfold pointBy at hy ⊢
  rw [h.interrupt] at hy
  cases hi : x.interrupt with
  | never => simp [hi] at hy
  | atRequest n =>
      simp only [hi] at hy ⊢
      omega
  | atPause n =>
      simp only [hi] at hy ⊢
      omega

/-- A point that comes up, but not at the next request and the next pause, still
comes up after these. -/
theorem pointBy_of_round {a b : Nat} {r : Request} {seconds : Binary64}
    (h : Onward bound x y [.request r, .pause seconds])
    (notRequest : x.interrupt ≠ .atRequest (x.requests.length + 1))
    (notPause : x.interrupt ≠ .atPause (x.pauses.length + 1)) (hx : x.pointBy a b) :
    y.pointBy a b := by
  have hr : y.requests.length = x.requests.length + 1 := h.requests_length_eq
  have hp : y.pauses.length = x.pauses.length + 1 := h.pauses_length_eq
  unfold pointBy at hx ⊢
  rw [h.interrupt]
  cases hi : x.interrupt with
  | never => simp [hi] at hx
  | atRequest n =>
      have hn : n ≠ x.requests.length + 1 := fun h => notRequest (h ▸ hi)
      simp only [hi] at hx ⊢
      omega
  | atPause n =>
      have hn : n ≠ x.pauses.length + 1 := fun h => notPause (h ▸ hi)
      simp only [hi] at hx ⊢
      omega

theorem undisturbed {a b : Nat} (h : Onward bound x y done) (calm : Undisturbed bound x a b) :
    Undisturbed bound y a b := by
  intro hbound
  obtain ⟨uncancelled, ahead⟩ := calm hbound
  exact ⟨h.uncancelled hbound uncancelled, fun hy => ahead (h.pointBy_of_pointBy hy)⟩

end Onward

theorem Undisturbed.not_atRequest {bound : Bool} {x : Exchange} {a b : Nat}
    (calm : Undisturbed bound x a b) (ha : x.requests.length < a) (hbound : bound = true) :
    x.interrupt ≠ .atRequest (x.requests.length + 1) := by
  intro next
  apply (calm hbound).2
  unfold pointBy
  rw [next]
  dsimp only
  omega

theorem Undisturbed.not_atPause {bound : Bool} {x : Exchange} {a b : Nat}
    (calm : Undisturbed bound x a b) (hb : x.pauses.length < b) (hbound : bound = true) :
    x.interrupt ≠ .atPause (x.pauses.length + 1) := by
  intro next
  apply (calm hbound).2
  unfold pointBy
  rw [next]
  dsimp only
  omega

end Exchange

/-- The items of a list up to and with the `n`-th that satisfies `p`. -/
def upToNth {α : Type} (p : α → Bool) : Nat → List α → List α
  | 0, _ => []
  | _ + 1, [] => []
  | n + 1, a :: rest => a :: upToNth p (if p a then n else n + 1) rest

theorem upToNth_append {α : Type} {p : α → Bool} {a : α} (ha : p a = true) (before after : List α) :
    upToNth p (before.countP p + 1) (before ++ a :: after) = before ++ [a] := by
  induction before with
  | nil => simp [upToNth, ha]
  | cons b before ih =>
      cases hb : p b with
      | true =>
          rw [List.countP_cons_of_pos hb, List.cons_append, upToNth, if_pos hb, ih]
          rfl
      | false =>
          rw [List.countP_cons_of_neg (by simp [hb]), List.cons_append, upToNth,
            if_neg (by simp [hb]), ih]
          rfl

/-- The part of some steps that lies before the point of cancellation, with the step
at which it comes. -/
def Exchange.upToPoint (x : Exchange) (steps : List Event) : List Event :=
  match x.interrupt with
  | .never => steps
  | .atRequest n => upToNth Event.isRequest n steps
  | .atPause n => upToNth Event.isPause n steps

end RefNav
