import RefNav.Proofs.Remote.Lookup

/-! # Cancelling a lookup

A cancelled lookup stops at the point of cancellation, with no result and with
no listener of its own left behind.
-/

namespace RefNav.Resolver.Call

open RefNav.Number RefNav.Exchange

variable {c : Call} {timeout delay : Binary64} {x y : Exchange}

/-! ## Calls that are stopped -/

theorem run_of_stopped (hs : seconds c.timeoutMs = .ok timeout)
    (stopped : x.carryOut c.bound (.request (c.request timeout)) = (false, y))
    (left number : Nat) :
    ∃ z, (c.run left number).runOn x = (.ok none, z) ∧ y.Quiet z :=
  runOn_run_of_settled (runOn_attempt_of_stopped hs stopped) rfl left number

theorem run_struck_at_request (hbound : c.bound = true) (hs : seconds c.timeoutMs = .ok timeout)
    (uncancelled : x.token.cancelled = false)
    (next : x.interrupt = .atRequest (x.requests.length + 1)) (left number : Nat)
    (rest : List Event) :
    ∃ y, (c.run left number).runOn x = (.ok none, y) ∧
      y.Halted (x.upToPoint (x.steps ++ .request (c.request timeout) :: rest)) := by
  obtain ⟨unfinished, halted⟩ := Halted.of_strikes (e := .request (c.request timeout)) rfl
    uncancelled (strikes_request.mpr next)
  rw [← hbound] at unfinished halted
  obtain ⟨y, hrun, quiet⟩ := run_of_stopped hs (Prod.ext unfinished rfl) left number
  have cut : x.upToPoint (x.steps ++ .request (c.request timeout) :: rest) =
      x.steps ++ [.request (c.request timeout)] := by
    unfold upToPoint
    rw [next, requests_length]
    exact upToNth_append rfl x.steps rest
  rw [cut]
  exact ⟨y, hrun, halted.of_quiet quiet⟩

theorem run_struck_at_pause (hbound : c.bound = true) (hs : seconds c.timeoutMs = .ok timeout)
    (hb : backoff c.timeoutMs = .ok delay) (sends : c.SendsNext x)
    (next : x.interrupt = .atPause (x.pauses.length + 1))
    (timedOut : c.replies x 0 = .timeout) (left number : Nat) (rest : List Event) :
    ∃ y, (c.run (left + 1) number).runOn x = (.ok none, y) ∧
      y.Halted (x.upToPoint
        (x.steps ++ .request (c.request timeout) :: .pause (delay.divNat 1000) :: rest)) := by
  obtain ⟨y, onward, _, z, quiet, hrun⟩ := run_pauses hs hb sends timedOut left number
  have samePauses : y.pauses.length = x.pauses.length := onward.pauses_length_eq
  have struck : y.strikes (.pause (delay.divNat 1000)) = true := by
    rw [strikes_pause, onward.interrupt, samePauses, next]
  obtain ⟨unfinished, halted⟩ := Halted.of_strikes (e := .pause (delay.divNat 1000)) rfl
    (onward.uncancelled hbound (sends hbound).1) struck
  rw [← hbound] at unfinished halted
  rw [unfinished] at hrun
  have cut : x.upToPoint
      (x.steps ++ .request (c.request timeout) :: .pause (delay.divNat 1000) :: rest) =
      y.steps ++ [.pause (delay.divNat 1000)] := by
    have split : x.steps ++ .request (c.request timeout) :: .pause (delay.divNat 1000) :: rest =
        y.steps ++ .pause (delay.divNat 1000) :: rest := by
      rw [onward.steps, List.append_assoc]
      rfl
    unfold upToPoint
    rw [next, ← samePauses, pauses_length, split]
    exact upToNth_append rfl y.steps rest
  rw [cut]
  exact ⟨z, hrun, halted.of_quiet quiet⟩

/-- A call whose point of cancellation comes up stops there. -/
theorem run_struck (hbound : c.bound = true) (hs : seconds c.timeoutMs = .ok timeout)
    (hb : backoff c.timeoutMs = .ok delay) (left number : Nat) (x : Exchange)
    (uncancelled : x.token.cancelled = false)
    (point : x.pointBy (x.requests.length + (retries (c.replies x) left + 1))
      (x.pauses.length + retries (c.replies x) left)) :
    ∃ y, (c.run left number).runOn x = (.ok none, y) ∧
      y.Halted (x.upToPoint (x.steps ++ alternation (c.request timeout) (delay.divNat 1000)
        (retries (c.replies x) left))) := by
  -- the point is at this request, at the pause after it, or behind the whole round
  induction left generalizing x number with
  | zero =>
      exact run_struck_at_request hbound hs uncancelled (interrupt_of_pointBy point) 0 number []
  | succ left ih =>
      by_cases timedOut : c.replies x 0 = .timeout
      · simp only [retries, timedOut, if_true] at point ⊢
        by_cases nextRequest : x.interrupt = .atRequest (x.requests.length + 1)
        · exact run_struck_at_request hbound hs uncancelled nextRequest (left + 1) number _
        have sends : c.SendsNext x := fun _ => ⟨uncancelled, nextRequest⟩
        by_cases nextPause : x.interrupt = .atPause (x.pauses.length + 1)
        · exact run_struck_at_pause hbound hs hb sends nextPause timedOut left number _
        obtain ⟨y, hrun, onward, shift⟩ :=
          run_round hs hb sends (fun _ => nextPause) timedOut left number
        have moreRequests : y.requests.length = x.requests.length + 1 := onward.requests_length_eq
        have morePauses : y.pauses.length = x.pauses.length + 1 := onward.pauses_length_eq
        have pointY : y.pointBy (y.requests.length + (retries (c.replies y) left + 1))
            (y.pauses.length + retries (c.replies y) left) := by
          rw [moreRequests, morePauses, shift, Nat.add_assoc, Nat.add_assoc, Nat.add_comm 1,
            Nat.add_comm 1]
          exact onward.pointBy_of_round nextRequest nextPause point
        obtain ⟨z, hz, halted⟩ := ih (number + 1) y (onward.uncancelled hbound uncancelled) pointY
        rw [onward.steps, shift, List.append_assoc] at halted
        unfold upToPoint at halted ⊢
        rw [onward.interrupt] at halted
        exact ⟨z, hrun.trans hz, halted⟩
      · simp only [retries, timedOut, if_false] at point ⊢
        exact run_struck_at_request hbound hs uncancelled (interrupt_of_pointBy point)
          (left + 1) number []

end RefNav.Resolver.Call

/-! ## Lookups that are stopped -/

namespace RefNav.Resolver

open RefNav.Number RefNav.Exchange

section

variable {r : Resolver} {query : String} {connection : Connection} {callTimeout : Option Int}
variable {endpoint : Endpoint} {name : String} {timeout delay : Binary64} {x : Exchange}

theorem lookup_of_cancelled
    (sends : r.Sends query connection callTimeout endpoint name timeout delay)
    (cancelled : x.token.cancelled = true) :
    ∃ y, (r.lookup query connection true callTimeout).runOn x = (.ok none, y) ∧ x.Quiet y := by
  rw [lookup_named sends.toConnects sends.namespace_eq]
  exact Call.run_of_stopped sends.seconds_eq (carryOut_of_cancelled cancelled _) _ 1

theorem lookup_struck {n : Nat}
    (sends : r.Sends query connection callTimeout endpoint name timeout delay)
    (hn : Call.retries (x.server.replyTo query x.served) (r.attempts - 1) = n)
    (uncancelled : x.token.cancelled = false)
    (point : x.pointBy (x.requests.length + (n + 1)) (x.pauses.length + n)) :
    ∃ y, (r.lookup query connection true callTimeout).runOn x = (.ok none, y) ∧
      y.Halted (x.upToPoint (x.steps ++ Call.alternation
        ((r.callIn query endpoint name true callTimeout).request timeout)
        (delay.divNat 1000) n)) := by
  subst hn
  rw [lookup_named sends.toConnects sends.namespace_eq]
  exact Call.run_struck rfl sends.seconds_eq sends.backoff_eq _ 1 x uncancelled point

end

/-- The same surroundings with a caller who never cancels. -/
def calmed (x : Exchange) : Exchange :=
  { x with interrupt := .never, token := {} }

/-- A lookup that is not bound to the caller's token takes no notice of it. -/
theorem lookup_unbound (r : Resolver) (query : String) (connection : Connection)
    (callTimeout : Option Int) (x : Exchange) :
    let lookup := r.lookup query connection false callTimeout
    (lookup.runOn x).1 = (lookup.runOn (calmed x)).1 ∧
      (lookup.runOn x).2.steps = (lookup.runOn (calmed x)).2.steps := by
  intro lookup
  rcases lookup_cases r query connection callTimeout with ⟨skips, _⟩ | misnamed | sends
  · obtain ⟨y, hy, quiet⟩ := skips false x
    obtain ⟨c, hc, quietC⟩ := skips false (calmed x)
    simp only [lookup, hy, hc, quiet.steps_eq, quietC.steps_eq, true_and]
    rfl
  · simp only [lookup, lookup_misnamed misnamed, true_and]
    rfl
  · obtain ⟨endpoint, name, timeout, delay, sends⟩ := sends
    have calm : ∀ z a b, Undisturbed false z a b := fun _ _ _ h => nomatch h
    obtain ⟨y, hy, onward⟩ := lookup_undisturbed (x := x) sends rfl (calm _ _ _)
    obtain ⟨c, hc, onwardC⟩ := lookup_undisturbed (x := calmed x) sends rfl (calm _ _ _)
    simp only [lookup, hy, hc, onward.steps, onwardC.steps]
    exact ⟨rfl, rfl⟩

theorem not_pointBy_self (x : Exchange) : ¬ x.pointBy x.requests.length x.pauses.length := by
  unfold pointBy
  split
  · exact not_false
  · omega
  · omega

/-- How a lookup bound to the token of `x` runs, compared with the run `calm` of the
same lookup for a caller who never cancels. -/
structure Cancellable (misnamed : Prop) (x : Exchange)
    (calm run : Except Fault (Option Location) × Exchange) : Prop where
  before : x.token.cancelled = true →
    (run.1 = .ok none ↔ ¬ misnamed) ∧ run.2.steps = x.steps
  struck : x.token.cancelled = false →
    x.pointBy calm.2.requests.length calm.2.pauses.length →
    run.1 = .ok none ∧ run.2.steps = x.upToPoint calm.2.steps
  missed : x.token.cancelled = false →
    ¬ x.pointBy calm.2.requests.length calm.2.pauses.length →
    run.1 = calm.1 ∧ run.2.steps = calm.2.steps
  /-- The listeners are those that the token would have without the lookup. -/
  listeners : run.2.token.listeners =
    (if x.pointBy calm.2.requests.length calm.2.pauses.length then x.token.fire.1
      else x.token).listeners

/-- Only the caller's cancellation itself takes listeners away, those of others. -/
theorem Cancellable.listenerCount_eq {misnamed : Prop} {x : Exchange}
    {calm run : Except Fault (Option Location) × Exchange} (h : Cancellable misnamed x calm run)
    (kept : x.token.listeners = [] ∨ x.token.cancelled = true ∨
      ¬ x.pointBy calm.2.requests.length calm.2.pauses.length) :
    run.2.token.listenerCount = x.token.listenerCount := by
  rw [Token.listenerCount, h.listeners]
  by_cases up : x.pointBy calm.2.requests.length calm.2.pauses.length
  · rw [if_pos up]
    refine Token.listenerCount_fire ?_
    rcases kept with nobody | cancelled | notUp
    · exact .inl nobody
    · exact .inr cancelled
    · exact absurd up notUp
  · rw [if_neg up]
    rfl

/-- Where no step is taken, the point of cancellation does not come up. -/
theorem Cancellable.of_quiet {misnamed : Prop} {x c y : Exchange}
    {outcome : Except Fault (Option Location)} (decides : outcome = .ok none ↔ ¬ misnamed)
    (quietC : (calmed x).Quiet c) (quietY : x.Quiet y) :
    Cancellable misnamed x (outcome, c) (outcome, y) := by
  have same : c.steps = x.steps := quietC.steps_eq
  have sameRequests : c.requests.length = x.requests.length := by
    rw [requests_length, same, ← requests_length]
  have samePauses : c.pauses.length = x.pauses.length := by
    rw [pauses_length, same, ← pauses_length]
  have notUp : ¬ x.pointBy c.requests.length c.pauses.length := by
    rw [sameRequests, samePauses]
    exact not_pointBy_self x
  exact {
    before := fun _ => ⟨decides, quietY.steps_eq⟩
    struck := fun _ up => absurd up notUp
    missed := fun _ _ => ⟨rfl, quietY.steps_eq.trans same.symm⟩
    listeners := by
      dsimp only
      rw [if_neg notUp, quietY.token_eq] }

/-- The run of a lookup that makes a call breaks off where the caller cancels. -/
theorem Cancellable.of_sends {r : Resolver} {query : String} {connection : Connection}
    {callTimeout : Option Int} {endpoint : Endpoint} {name : String} {timeout delay : Binary64}
    (sends : r.Sends query connection callTimeout endpoint name timeout delay)
    (x : Exchange) (fresh : x.token.Fresh) :
    Cancellable (r.Misnamed query connection) x
      ((r.lookup query connection true callTimeout).runOn (calmed x))
      ((r.lookup query connection true callTimeout).runOn x) := by
  obtain ⟨n, hn⟩ : ∃ n, Call.retries (x.server.replyTo query x.served) (r.attempts - 1) = n :=
    ⟨_, rfl⟩
  have named : ¬ r.Misnamed query connection := fun h => h.2 name sends.namespace_eq
  have undisturbed : ∀ a b, Undisturbed true (calmed x) a b :=
    .of_never fun _ => ⟨rfl, rfl⟩
  obtain ⟨c, hc, calm⟩ := lookup_undisturbed (x := calmed x) sends hn (undisturbed _ _)
  have calmSteps : c.steps = x.steps ++ Call.alternation
      ((r.callIn query endpoint name true callTimeout).request timeout) (delay.divNat 1000) n :=
    calm.steps
  have alternates := Alternates.of_steps calmSteps
  have calmRequests : c.requests.length = x.requests.length + (n + 1) := by
    rw [alternates.requests, List.length_append, List.length_replicate]
  have calmPauses : c.pauses.length = x.pauses.length + n := by
    rw [alternates.pauses, List.length_append, List.length_replicate]
  rw [hc]
  cases hcancelled : x.token.cancelled with
  | true =>
      obtain ⟨y, hy, quiet⟩ := lookup_of_cancelled sends hcancelled
      have unchanged : x.token.fire.1 = x.token := by simp [Token.fire, hcancelled]
      rw [hy]
      exact {
        before := fun _ => ⟨⟨fun _ => named, fun _ => rfl⟩, quiet.steps_eq⟩
        struck := by simp [hcancelled]
        missed := by simp [hcancelled]
        listeners := by simp [unchanged, quiet.token_eq] }
  | false =>
      by_cases up : x.pointBy (x.requests.length + (n + 1)) (x.pauses.length + n)
      · obtain ⟨y, hy, halted⟩ := lookup_struck sends hn hcancelled up
        rw [hy]
        exact {
          before := by simp [hcancelled]
          struck := fun _ _ => ⟨rfl, by rw [calmSteps, halted.steps]⟩
          missed := fun _ notUp => by
            rw [calmRequests, calmPauses] at notUp
            exact absurd up notUp
          listeners := by
            rw [calmRequests, calmPauses, if_pos up, halted.listeners]
            simp [Token.fire, hcancelled] }
      · obtain ⟨y, hy, onward⟩ := lookup_undisturbed sends hn fun _ => ⟨hcancelled, up⟩
        rw [hy]
        exact {
          before := by simp [hcancelled]
          struck := fun _ nowUp => by
            rw [calmRequests, calmPauses] at nowUp
            exact absurd nowUp up
          missed := fun _ _ => ⟨rfl, by rw [calmSteps, onward.steps]⟩
          listeners := by
            rw [calmRequests, calmPauses, if_neg up]
            exact (onward.listeners rfl fresh).2 }

/-- A lookup breaks off where its caller cancels, with no result and no listener of its
own left, and otherwise runs as if nobody could cancel it. -/
theorem lookup_cancellation (r : Resolver) (query : String) (connection : Connection)
    (callTimeout : Option Int) (x : Exchange) (made : x.token.Made) :
    let lookup := r.lookup query connection true callTimeout
    let calm := lookup.runOn (calmed x)
    let run := lookup.runOn x
    Cancellable (r.Misnamed query connection) x calm run ∧
    (x.token.listeners = [] ∨ x.token.cancelled = true ∨
        ¬ x.pointBy calm.2.requests.length calm.2.pauses.length →
      run.2.token.listenerCount = x.token.listenerCount) := by
  intro lookup calm run
  suffices h : Cancellable (r.Misnamed query connection) x calm run from ⟨h, h.listenerCount_eq⟩
  rcases lookup_cases r query connection callTimeout with ⟨skips, named⟩ | misnamed | sends
  · obtain ⟨c, hc, quietC⟩ := skips true (calmed x)
    obtain ⟨y, hy, quietY⟩ := skips true x
    have hcalm : calm = (.ok none, c) := hc
    have hrun : run = (.ok none, y) := hy
    rw [hcalm, hrun]
    exact .of_quiet ⟨fun _ => named, fun _ => rfl⟩ quietC quietY
  · have hcalm : calm = (.error (misnamedFault connection.namespaceName), calmed x) :=
      lookup_misnamed misnamed true _ _
    have hrun : run = (.error (misnamedFault connection.namespaceName), x) :=
      lookup_misnamed misnamed true _ _
    rw [hcalm, hrun]
    exact .of_quiet (by simp [misnamed]) (.refl _) (.refl x)
  · obtain ⟨endpoint, name, timeout, delay, sends⟩ := sends
    exact .of_sends sends x made.fresh

theorem lookup_cancellation_first_pause :
    let connection : Connection :=
      { active := .bool true, namespaceName := .str "USER", host := .str "iris.local",
        port := .int 52773, username := .str "dev", password := .str "secret" }
    let x : Exchange := { server := Server.ofReplies [] [.timeout], interrupt := .atPause 1 }
    let run := (lookup {} "^A" connection true none).runOn x
    run.1 = .ok none ∧ run.2.token.listenerCount = 0 := by
  intro connection x run
  obtain ⟨cancellable, sameCount⟩ := lookup_cancellation {} "^A" connection none x .new
  have up : x.pointBy
      ((lookup {} "^A" connection true none).runOn (calmed x)).2.requests.length
      ((lookup {} "^A" connection true none).runOn (calmed x)).2.pauses.length :=
    ⟨by decide, by decide +kernel⟩
  exact ⟨(cancellable.struck rfl up).1, sameCount (.inl rfl)⟩

/-- A lookup for a namespace that is no text fails even if it was cancelled before. -/
theorem lookup_cancelled_misnamed_fails :
    let connection : Connection :=
      { active := .bool true, namespaceName := .int 5, host := .str "iris.local",
        port := .int 52773, username := .str "dev", password := .str "secret" }
    let x : Exchange :=
      { server := Server.ofReplies [] [.timeout], token := (Token.fire {}).1 }
    ((lookup {} "^A" connection true none).runOn x).1 = .error (misnamedFault (.int 5)) :=
  rfl

end RefNav.Resolver
