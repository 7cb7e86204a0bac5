import RefNav.Proofs.Exchange

/-! # Agreement up to a view

Two runs are compared through a view of their traces, which may leave events out or
blur them.  A view that shows how many requests and pauses there were shows all that a
step depends on, so operations that agree step by step agree as wholes.
-/

namespace RefNav

open RefNav.Number

namespace Exchange

/-- The exchange with its trace as a view shows it. -/
def seen (view : List Event → List Event) (x : Exchange) : Exchange :=
  { x with trace := view x.trace }

/-- A view that shows the events one by one, and every request and every pause as such. -/
structure CountsSteps (view : List Event → List Event) : Prop where
  append : ∀ first second, view (first ++ second) = view first ++ view second
  requests : ∀ trace, (view trace).countP Event.isRequest = trace.countP Event.isRequest
  pauses : ∀ trace, (view trace).countP Event.isPause = trace.countP Event.isPause

theorem seen_advance (view : List Event → List Event) (x : Exchange) (inTurn : Bool) :
    (x.advance inTurn).seen view = (x.seen view).advance inTurn := by
  unfold advance
  split <;> rfl

namespace CountsSteps

variable {view : List Event → List Event} {x y : Exchange} {e f : Event}

theorem length_requests (counts : CountsSteps view) (x : Exchange) :
    (x.seen view).requests.length = x.requests.length := by
  rw [Exchange.requests, Exchange.requests, List.length_filterMap_eq_countP,
    List.length_filterMap_eq_countP]
  exact counts.requests x.trace

theorem length_pauses (counts : CountsSteps view) (x : Exchange) :
    (x.seen view).pauses.length = x.pauses.length := by
  rw [Exchange.pauses, Exchange.pauses, List.length_filterMap_eq_countP,
    List.length_filterMap_eq_countP]
  exact counts.pauses x.trace

theorem seen_add (counts : CountsSteps view) (same : x.seen view = y.seen view)
    (alike : view [e] = view [f]) : (x.add e).seen view = (y.add f).seen view := by
  have grown (z : Exchange) (g : Event) :
      (z.add g).seen view = { z.seen view with trace := (z.seen view).trace ++ view [g] } := by
    unfold seen add
    rw [counts.append]
  rw [grown, grown, same, alike]

/-- Events that look alike are of the same kind. -/
theorem isRequest_eq (counts : CountsSteps view) (alike : view [e] = view [f]) :
    e.isRequest = f.isRequest := by
  have number := counts.requests [e]
  rw [alike, counts.requests, List.countP_singleton, List.countP_singleton] at number
  revert number
  cases e.isRequest <;> cases f.isRequest <;> decide

theorem isPause_eq (counts : CountsSteps view) (alike : view [e] = view [f]) :
    e.isPause = f.isPause := by
  have number := counts.pauses [e]
  rw [alike, counts.pauses, List.countP_singleton, List.countP_singleton] at number
  revert number
  cases e.isPause <;> cases f.isPause <;> decide

theorem interruptsAt_eq (x : Exchange) (e : Event) :
    x.interruptsAt e =
      (e.isRequest && x.interrupt = .atRequest x.requests.length ||
        e.isPause && x.interrupt = .atPause x.pauses.length) := by
  cases e <;> simp [interruptsAt, Event.isRequest, Event.isPause, Event.request?, Event.pause?]

/-- The caller cancels both or neither. -/
theorem strikes_congr (counts : CountsSteps view) (same : x.seen view = y.seen view)
    (alike : view [e] = view [f]) : x.strikes e = y.strikes f := by
  have grown := counts.seen_add same alike
  have requests : (x.add e).requests.length = (y.add f).requests.length := by
    rw [← counts.length_requests, grown, counts.length_requests]
  have pauses : (x.add e).pauses.length = (y.add f).pauses.length := by
    rw [← counts.length_pauses, grown, counts.length_pauses]
  have interrupt : (x.add e).interrupt = (y.add f).interrupt :=
    (congrArg Exchange.interrupt grown :)
  unfold strikes
  rw [interruptsAt_eq, interruptsAt_eq, counts.isRequest_eq alike, counts.isPause_eq alike,
    requests, pauses, interrupt]

/-- Carrying out steps that look alike, in exchanges that look alike. -/
theorem carryOut_congr (counts : CountsSteps view) (same : x.seen view = y.seen view)
    (alike : view [e] = view [f]) (bound : Bool) :
    (x.carryOut bound e).1 = (y.carryOut bound f).1 ∧
      (x.carryOut bound e).2.seen view = (y.carryOut bound f).2.seen view := by
  have grown := counts.seen_add same alike
  have strikes := counts.strikes_congr same alike
  have token : x.token = y.token := (congrArg Exchange.token same :)
  -- Only the token is put in afterwards, and both get the same one.
  have replaced (t : Token Unit) : seen view { x.add e with token := t } =
      seen view { y.add f with token := t } :=
    congrArg (fun z : Exchange => { z with token := t }) grown
  cases bound with
  | false =>
      rw [carryOut_unbound, carryOut_unbound, begin_with_token x x.token,
        begin_with_token y y.token, strikes, token]
      exact ⟨rfl, replaced _⟩
  | true =>
      cases cancelled : x.token.cancelled with
      | true =>
          rw [carryOut_of_cancelled cancelled, carryOut_of_cancelled (token ▸ cancelled)]
          exact ⟨rfl, same⟩
      | false =>
          rw [carryOut_of_not_cancelled cancelled, carryOut_of_not_cancelled (token ▸ cancelled),
            strikes, token]
          exact ⟨rfl, replaced _⟩

end CountsSteps

end Exchange

namespace Act

variable {α β : Type}

/-- Two operations agree up to a view if they come to the same outcome and to exchanges
that look the same, whenever they start from exchanges that look the same. -/
def AgreesUpTo (view : List Event → List Event) (a b : Act α) : Prop :=
  ∀ x y : Exchange, x.seen view = y.seen view →
    (a.runOn x).1 = (b.runOn y).1 ∧ (a.runOn x).2.seen view = (b.runOn y).2.seen view

namespace AgreesUpTo

variable {view : List Event → List Event} {a b : Act α} {f g : α → Act β}

theorem bind (h : AgreesUpTo view a b) (next : ∀ v, AgreesUpTo view (f v) (g v)) :
    AgreesUpTo view (a >>= f) (b >>= g) := by
  intro x y hxy
  obtain ⟨outcome, rest⟩ := h x y hxy
  rw [runOn_bind, runOn_bind]
  rcases hx : a.runOn x with ⟨ox, x'⟩
  rcases hy : b.runOn y with ⟨oy, y'⟩
  rw [hx, hy] at outcome rest
  dsimp only at outcome rest
  subst outcome
  cases ox with
  | ok v => exact next v x' y' rest
  | error fault => exact ⟨rfl, rest⟩

theorem of_outcome (outcome : Except Fault α) :
    AgreesUpTo view (ExceptT.mk (Pure.pure outcome)) (ExceptT.mk (Pure.pure outcome)) :=
  fun _ _ hxy => ⟨rfl, hxy⟩

theorem pure (v : α) : AgreesUpTo view (Pure.pure v : Act α) (Pure.pure v) :=
  of_outcome (.ok v)

theorem debug (counts : Exchange.CountsSteps view) (source : Source) (message : String) :
    AgreesUpTo view (Act.debug source message) (Act.debug source message) := by
  intro x y hxy
  rw [runOn_debug, runOn_debug]
  exact ⟨rfl, counts.seen_add hxy rfl⟩

theorem pause (counts : Exchange.CountsSteps view) (bound : Bool) (seconds : Binary64) :
    AgreesUpTo view (Act.pause bound seconds) (Act.pause bound seconds) := by
  intro x y hxy
  obtain ⟨finished, rest⟩ := counts.carryOut_congr (e := .pause seconds) hxy rfl bound
  rw [runOn_pause, runOn_pause]
  exact ⟨congrArg Except.ok finished, rest⟩

/-- Requests that look alike and ask the same. -/
theorem send (counts : Exchange.CountsSteps view) (bound : Bool) {r s : Request}
    (alike : view [.request r] = view [.request s]) (body : r.body = s.body) :
    AgreesUpTo view (Act.send bound r) (Act.send bound s) := by
  intro x y hxy
  obtain ⟨finished, rest⟩ := counts.carryOut_congr hxy alike bound
  rw [runOn_send, runOn_send, ← body]
  rcases hx : x.carryOut bound (.request r) with ⟨fx, x'⟩
  rcases hy : y.carryOut bound (.request s) with ⟨fy, y'⟩
  rw [hx, hy] at finished rest
  dsimp only at finished rest ⊢
  subst finished
  have server : x'.server = y'.server := (congrArg Exchange.server rest :)
  have served : x'.served = y'.served := (congrArg Exchange.served rest :)
  cases fx with
  | false => exact ⟨rfl, rest⟩
  | true =>
      rw [if_pos rfl, if_pos rfl, server, served]
      exact ⟨rfl, by rw [Exchange.seen_advance, Exchange.seen_advance, rest]⟩

end AgreesUpTo

end Act

end RefNav
