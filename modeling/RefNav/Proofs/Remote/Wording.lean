import RefNav.Proofs.Dialogue
import RefNav.Proofs.Remote.Lookup

/-! # The wording of log records

Whatever a call writes to the log begins in another way than the report of an endpoint that
could not be made, so the log of a lookup shows which of the two happened.
-/

namespace RefNav

open RefNav.Number

/-- The operation writes no record but those whose wording satisfies `p`. -/
def Act.Writes {α : Type} (p : String → Prop) (act : Act α) : Prop :=
  ∀ x : Exchange, ∃ records, (act.runOn x).2.log = x.log ++ records ∧
    ∀ r ∈ records, p r.message

namespace Exchange

theorem log_add_log (x : Exchange) (record : LogRecord) :
    (x.add (.log record)).log = x.log ++ [record] := by
  simp [log, add, Event.log?]

theorem log_begin {e : Event} (h : e.log? = none) (x : Exchange) : (x.begin e).log = x.log := by
  have added : (x.add e).log = x.log := by simp [log, add, h]
  rw [begin_with_token x x.token]
  exact added

theorem log_carryOut {e : Event} (h : e.log? = none) (x : Exchange) (bound : Bool) :
    (x.carryOut bound e).2.log = x.log := by
  unfold carryOut
  split
  · split
    · rfl
    · exact log_begin h { x with token := _ }
  · exact log_begin h x

end Exchange

namespace Act.Writes

variable {α β : Type} {p : String → Prop}

theorem of_log_eq {act : Act α} (h : ∀ x, (act.runOn x).2.log = x.log) : Writes p act :=
  fun x => ⟨[], by rw [h, List.append_nil], List.forall_mem_nil _⟩

theorem of_outcome (outcome : Except Fault α) : Writes p (ExceptT.mk (Pure.pure outcome)) :=
  of_log_eq fun _ => rfl

theorem pure (v : α) : Writes p (Pure.pure v : Act α) :=
  of_outcome (.ok v)

theorem debug (source : Source) {message : String} (h : p message) :
    Writes p (Act.debug source message) := by
  intro x
  refine ⟨[⟨.debug, source, message⟩], ?_, List.forall_mem_singleton.mpr h⟩
  rw [runOn_debug, Exchange.log_add_log]

theorem bind {act : Act α} {f : α → Act β} (first : Writes p act) (next : ∀ v, Writes p (f v)) :
    Writes p (act >>= f) := by
  intro x
  obtain ⟨records, grown, all⟩ := first x
  rw [runOn_bind]
  rcases hx : act.runOn x with ⟨outcome, y⟩
  rw [hx] at grown
  cases outcome with
  | error fault => exact ⟨records, grown, all⟩
  | ok v =>
      obtain ⟨more, grown', all'⟩ := next v y
      refine ⟨records ++ more, ?_, List.forall_mem_append.mpr ⟨all, all'⟩⟩
      rw [grown', grown, List.append_assoc]

theorem pause (bound : Bool) (seconds : Binary64) : Writes p (Act.pause bound seconds) :=
  of_log_eq fun x => x.log_carryOut rfl bound

theorem send (bound : Bool) (r : Request) : Writes p (Act.send bound r) := by
  refine of_log_eq fun x => ?_
  have kept : (x.carryOut bound (.request r)).2.log = x.log := x.log_carryOut rfl bound
  rw [runOn_send]
  dsimp only
  split
  · unfold Exchange.advance
    split <;> exact kept
  · exact kept

end Act.Writes

/-- The wording does not begin like the report of an endpoint that could not be made. -/
def AboutCall (message : String) : Prop :=
  message.toList.head? ≠ some 'F'

theorem head?_toList_append {start : String} {c : Char} (h : start.toList.head? = some c)
    (rest : String) : (start ++ rest).toList.head? = some c := by
  rw [String.toList_append, List.head?_append, h, Option.some_or]

theorem aboutCall_append {start : String} {c : Char} (h : start.toList.head? = some c)
    (other : c ≠ 'F') (rest : String) : AboutCall (start ++ rest) := by
  rw [AboutCall, head?_toList_append h]
  simpa using other

namespace Act

theorem writes_readBody (text : String) : Writes AboutCall (readBody text) := by
  unfold readBody
  split
  · exact .pure _
  · split
    · exact .pure _
    · exact .pure _
    · refine .bind (.debug _ ?_) fun _ => .pure _
      rw [String.append_assoc]
      exact aboutCall_append (c := 'R') rfl (by decide) _

theorem writes_post (e : Endpoint) (path : String) (body : Json) (timeout : Binary64)
    (bound : Bool) : Writes AboutCall (post e path body timeout bound) := by
  refine .bind (.send bound _) fun reply => ?_
  split
  · exact .pure _
  · exact .pure _
  · exact .pure _
  · exact .pure _
  · split
    · refine .bind (writes_readBody _) fun value => ?_
      cases value <;> exact .pure _
    · exact .pure _

end Act

namespace Resolver.Call

open Act (Writes)

variable (c : Call)

theorem writes_attempt : Writes AboutCall c.attempt := by
  unfold attempt
  split
  · exact .pure _
  · exact Act.writes_post _ _ _ _ _

theorem writes_debug {start : String} (h : start.toList.head? = some 'D') (rest : String) :
    Writes AboutCall (Act.debug .lookup (start ++ rest)) :=
  .debug _ (aboutCall_append h (by decide) rest)

theorem writes_conclude (attempt : Attempt) : Writes AboutCall (c.conclude attempt) := by
  cases attempt with
  | cancelled => exact .bind (writes_debug rfl _) fun _ => .pure _
  | refused t =>
      unfold conclude
      simp only [String.append_assoc]
      exact .bind (writes_debug rfl _) fun _ => .pure _
  | failed f => exact .bind (writes_debug rfl _) fun _ => .pure _
  | answered status body =>
      refine .bind (.of_outcome _) fun found => ?_
      split
      · exact .bind (writes_debug rfl _) fun _ => .pure _
      · exact .pure _

theorem writes_giveUp (number : Nat) (t : TransportFault) : Writes AboutCall (giveUp number t) := by
  unfold giveUp
  simp only [String.append_assoc]
  exact .bind (writes_debug rfl _) fun _ => .pure _

theorem writes_wait (number : Nat) : Writes AboutCall (c.wait number) := by
  unfold wait
  simp only [String.append_assoc]
  refine .bind (.of_outcome _) fun delay => .bind (writes_debug rfl _) fun _ =>
    .bind (.pause _ _) fun finished => ?_
  split
  · exact .pure _
  · exact .bind (writes_debug rfl _) fun _ => .pure _

theorem writes_run (left number : Nat) : Writes AboutCall (c.run left number) := by
  induction left generalizing number with
  | zero =>
      refine .bind c.writes_attempt fun attempt => ?_
      split
      · exact writes_giveUp number _
      · exact c.writes_conclude _
  | succ left ih =>
      refine .bind c.writes_attempt fun attempt => ?_
      split
      · refine .bind (c.writes_wait number) fun again => ?_
        split
        · exact ih (number + 1)
        · exact .pure _
      · exact c.writes_conclude _

end Resolver.Call

namespace Resolver

variable {r : Resolver} {query : String} {c : Connection}

/-- What is reported where no endpoint can be made. -/
def refusalText (fault : Fault) : String :=
  "Failed to create source-control transport: " ++ fault.message

theorem lookup_refused {fault : Fault} (complete : c.isComplete = true) (query_ne : query ≠ "")
    (refused : r.connect c = .error fault) (bound : Bool) (callTimeout : Option Int)
    (x : Exchange) :
    (r.lookup query c bound callTimeout).runOn x =
      (.ok none, x.add (.log ⟨.debug, .lookup, refusalText fault⟩)) := by
  unfold Resolver.lookup
  simp only [complete, query_ne, refused, Bool.not_true, if_false]
  rfl

theorem writes_lookup {endpoint : Endpoint} (h : r.Connects query c endpoint) (bound : Bool)
    (callTimeout : Option Int) :
    Act.Writes AboutCall (r.lookup query c bound callTimeout) := by
  intro x
  rw [lookup_connected h]
  split
  · exact ⟨[], (List.append_nil _).symm, List.forall_mem_nil _⟩
  · exact Call.writes_run _ _ _ x

theorem not_aboutCall_refusalText (fault : Fault) : ¬ AboutCall (refusalText fault) := by
  have first : (refusalText fault).toList.head? = some 'F' := head?_toList_append rfl fault.message
  exact fun other => other first

end Resolver

end RefNav

