import RefNav.Proofs.Remote.Post
import RefNav.Remote.Lookup

/-! # The course of a call

A call repeats one request as long as the replies are time-outs and attempts are
left, with the same pause between any two requests.  So its course is settled
by the number of time-outs that come first, and its result by the reply after
them, unless the caller cancels on the way.
-/

namespace RefNav.Resolver.Call

open RefNav.Number RefNav.Exchange

variable {c : Call} {timeout delay : Binary64} {x y : Exchange} {attempt : Attempt}

/-- The request that every attempt of a call sends. -/
def request (c : Call) (timeout : Binary64) : Request :=
  ⟨c.endpoint.baseUrl ++ c.path, c.endpoint.headers, c.endpoint.verifyTls, timeout, c.body⟩

/-! ## Attempts and pauses -/

theorem runOn_attempt_of_stopped (hs : seconds c.timeoutMs = .ok timeout)
    (stopped : x.carryOut c.bound (.request (c.request timeout)) = (false, y)) :
    c.attempt.runOn x = (.ok .cancelled, y) := by
  have hsend : (Act.send c.bound (c.request timeout)).runOn x = (.ok none, y) := by
    rw [Act.runOn_send, stopped]
    rfl
  simp only [Call.attempt, hs]
  exact Act.runOn_post_of_stopped hsend

theorem runOn_attempt_of_sent (hs : seconds c.timeoutMs = .ok timeout)
    (sent : x.carryOut c.bound (.request (c.request timeout)) = (true, y)) :
    ∃ z, c.attempt.runOn x =
        (.ok ((y.server.replyTo c.query y.served 0).attempt (c.request timeout).url timeout), z) ∧
      (y.advance (y.server.answersInTurn c.query)).Quiet z := by
  have hsend : (Act.send c.bound (c.request timeout)).runOn x =
      (.ok (some (y.server.replyTo c.query y.served 0)),
        y.advance (y.server.answersInTurn c.query)) := by
    have hr : y.server.reply y.served (c.request timeout).body = _ :=
      Server.reply_query y.server y.served c.query
    rw [Act.runOn_send, sent]
    dsimp only
    rw [hr]
    rfl
  simp only [Call.attempt, hs]
  exact Act.runOn_post_of_reply hsend

theorem runOn_conclude (c : Call) (attempt : Attempt) (x : Exchange) :
    ∃ y, (c.conclude attempt).runOn x = (attempt.verdict, y) ∧ x.Quiet y := by
  cases attempt with
  | cancelled => exact ⟨_, rfl, .add_log x _⟩
  | refused t => exact ⟨_, rfl, .add_log x _⟩
  | failed f => exact ⟨_, rfl, .add_log x _⟩
  | answered status body =>
      simp only [conclude, Attempt.verdict]
      rw [Act.runOn_bind, Act.runOn_mk_pure]
      cases Location.ofAnswer body with
      | error f => exact ⟨x, rfl, .refl x⟩
      | ok found =>
          cases found with
          | none => exact ⟨_, rfl, .add_log x _⟩
          | some location => exact ⟨x, rfl, .refl x⟩

/-- An attempt that is no time-out is the last one. -/
theorem runOn_run_of_settled (h : c.attempt.runOn x = (.ok attempt, y))
    (settled : attempt.isTimeOut = false) (left number : Nat) :
    ∃ z, (c.run left number).runOn x = (attempt.verdict, z) ∧ y.Quiet z := by
  have hrun : (c.run left number).runOn x = (c.conclude attempt).runOn y := by
    cases left <;>
    · rw [run, Act.runOn_bind_of_ok h]
      cases attempt with
      | refused t => cases t <;> first | rfl | cases settled
      | _ => rfl
  rw [hrun]
  exact runOn_conclude c attempt y

theorem runOn_run_zero_of_timeOut (h : c.attempt.runOn x = (.ok attempt, y))
    (timedOut : attempt.isTimeOut = true) (number : Nat) :
    ∃ z, (c.run 0 number).runOn x = (attempt.verdict, z) ∧ y.Quiet z := by
  rw [run, Act.runOn_bind_of_ok h]
  cases attempt with
  | refused t =>
      cases t with
      | timedOut url seconds => exact ⟨_, rfl, .add_log y _⟩
      | _ => cases timedOut
  | _ => cases timedOut

theorem runOn_run_succ_of_timeOut (h : c.attempt.runOn x = (.ok attempt, y))
    (timedOut : attempt.isTimeOut = true) (left number : Nat) :
    (c.run (left + 1) number).runOn x =
      (c.wait number >>= fun again =>
        if again then c.run left (number + 1) else pure none).runOn y := by
  rw [run, Act.runOn_bind_of_ok h]
  cases attempt with
  | refused t =>
      cases t with
      | timedOut url seconds => rfl
      | _ => cases timedOut
  | _ => cases timedOut

theorem runOn_wait (hb : backoff c.timeoutMs = .ok delay) (number : Nat) (x : Exchange) :
    ∃ y z, x.Quiet y ∧ (c.wait number).runOn x =
        (.ok (y.carryOut c.bound (.pause (delay.divNat 1000))).1, z) ∧
      (y.carryOut c.bound (.pause (delay.divNat 1000))).2.Quiet z := by
  simp only [wait, Act.runOn_bind, Act.runOn_mk_pure, hb, Act.runOn_debug, Act.runOn_pause,
    Act.runOn_ite, Act.runOn_pure]
  split
  next finished => exact ⟨_, _, .add_log x _, by rw [finished], .refl _⟩
  next stopped =>
    rw [Bool.not_eq_true] at stopped
    exact ⟨_, _, .add_log x _, by rw [stopped], .add_log _ _⟩

/-! ## Rounds -/

/-- The point of cancellation is neither passed nor at the next request. -/
def SendsNext (c : Call) (x : Exchange) : Prop :=
  c.bound = true → x.token.cancelled = false ∧ x.interrupt ≠ .atRequest (x.requests.length + 1)

theorem SendsNext.of_undisturbed {a b : Nat} (calm : Undisturbed c.bound x a b)
    (ha : x.requests.length < a) : c.SendsNext x := fun hbound =>
  ⟨(calm hbound).1, calm.not_atRequest ha hbound⟩

/-- Without a cancellation at the next request it gets its reply. -/
theorem exists_attempt_of_sendsNext (hs : seconds c.timeoutMs = .ok timeout)
    (sends : c.SendsNext x) :
    ∃ y, c.attempt.runOn x =
        (.ok ((x.server.replyTo c.query x.served 0).attempt (c.request timeout).url timeout), y) ∧
      Onward c.bound x y [.request (c.request timeout)] ∧
      ∀ n, y.server.replyTo c.query y.served n = x.server.replyTo c.query x.served (n + 1) := by
  have calm : c.bound = true →
      x.token.cancelled = false ∧ x.strikes (.request (c.request timeout)) = false := by
    intro hbound
    obtain ⟨uncancelled, notNext⟩ := sends hbound
    exact ⟨uncancelled, Bool.eq_false_iff.mpr fun struck => notNext (strikes_request.mp struck)⟩
  obtain ⟨finished, onward⟩ := Onward.of_carryOut (e := .request (c.request timeout)) rfl calm
  obtain ⟨y, hy, quiet⟩ := runOn_attempt_of_sent hs (Prod.ext finished rfl)
  rw [onward.server, served_carryOut] at hy
  refine ⟨y, hy, (onward.trans (.advance _ _)).trans (.of_quiet quiet), fun n => ?_⟩
  rw [quiet.server_eq, quiet.served_eq, server_advance, Server.replyTo_advance,
    onward.server, served_carryOut]

/-- A call ends with the verdict on its first reply if that is no time-out or no
attempt is left. -/
theorem run_ends (hs : seconds c.timeoutMs = .ok timeout) (sends : c.SendsNext x)
    {left : Nat} (last : left = 0 ∨ x.server.replyTo c.query x.served 0 ≠ .timeout)
    (number : Nat) :
    ∃ y, (c.run left number).runOn x = ((x.server.replyTo c.query x.served 0).verdict, y) ∧
      Onward c.bound x y [.request (c.request timeout)] := by
  obtain ⟨y, hy, onward, _⟩ := exists_attempt_of_sendsNext hs sends
  have ends : ∃ z, (c.run left number).runOn x =
      (((x.server.replyTo c.query x.served 0).attempt (c.request timeout).url timeout).verdict, z) ∧
      y.Quiet z := by
    by_cases timedOut : x.server.replyTo c.query x.served 0 = .timeout
    · rcases last with rfl | settled
      · exact runOn_run_zero_of_timeOut hy (Reply.isTimeOut_attempt.mpr timedOut) number
      · exact absurd timedOut settled
    · refine runOn_run_of_settled hy (Bool.eq_false_iff.mpr fun h => ?_) left number
      exact timedOut (Reply.isTimeOut_attempt.mp h)
  obtain ⟨z, hz, quiet⟩ := ends
  rw [Reply.verdict_attempt] at hz
  exact ⟨z, hz, onward.trans (.of_quiet quiet)⟩

/-- After a time-out a call pauses. -/
theorem run_pauses (hs : seconds c.timeoutMs = .ok timeout) (hb : backoff c.timeoutMs = .ok delay)
    (sends : c.SendsNext x) (timedOut : x.server.replyTo c.query x.served 0 = .timeout)
    (left number : Nat) :
    ∃ y, Onward c.bound x y [.request (c.request timeout)] ∧
      (∀ n, y.server.replyTo c.query y.served n = x.server.replyTo c.query x.served (n + 1)) ∧
      ∃ z, (y.carryOut c.bound (.pause (delay.divNat 1000))).2.Quiet z ∧
        (c.run (left + 1) number).runOn x =
          if (y.carryOut c.bound (.pause (delay.divNat 1000))).1 then
            (c.run left (number + 1)).runOn z
          else (.ok none, z) := by
  obtain ⟨y, hy, onward, shift⟩ := exists_attempt_of_sendsNext hs sends
  obtain ⟨w, z, quietW, hw, quietZ⟩ := runOn_wait hb number y
  refine ⟨w, onward.trans (.of_quiet quietW), fun n => ?_, z, quietZ, ?_⟩
  · rw [quietW.server_eq, quietW.served_eq]
    exact shift n
  · rw [runOn_run_succ_of_timeOut hy (Reply.isTimeOut_attempt.mpr timedOut),
      Act.runOn_bind_of_ok hw]
    split <;> simp [*]

/-! ## Whole runs -/

/-- How many of the first replies are time-outs, if no more than so many count. -/
def retries (reply : Nat → Reply) : Nat → Nat
  | 0 => 0
  | left + 1 => if reply 0 = .timeout then retries (fun n => reply (n + 1)) left + 1 else 0

/-- A request, then so many times a pause and the request again. -/
def alternation (r : Request) (seconds : Binary64) : Nat → List Event
  | 0 => [.request r]
  | n + 1 => .request r :: .pause seconds :: alternation r seconds n

theorem alternation_requests (r : Request) (seconds : Binary64) (n : Nat) :
    (alternation r seconds n).filterMap Event.request? = List.replicate (n + 1) r := by
  induction n with
  | zero => rfl
  | succ n ih =>
      change r :: (alternation r seconds n).filterMap Event.request? = _
      rw [ih]
      rfl

theorem alternation_pauses (r : Request) (seconds : Binary64) (n : Nat) :
    (alternation r seconds n).filterMap Event.pause? = List.replicate n seconds := by
  induction n with
  | zero => rfl
  | succ n ih =>
      change seconds :: (alternation r seconds n).filterMap Event.pause? = _
      rw [ih]
      rfl

/-- The replies that a call gets one after another. -/
def replies (c : Call) (x : Exchange) : Nat → Reply :=
  x.server.replyTo c.query x.served

/-- A round is a request, its time-out and the pause after it. -/
theorem run_round (hs : seconds c.timeoutMs = .ok timeout) (hb : backoff c.timeoutMs = .ok delay)
    (sends : c.SendsNext x) (notPause : c.bound = true →
      x.interrupt ≠ .atPause (x.pauses.length + 1))
    (timedOut : c.replies x 0 = .timeout) (left number : Nat) :
    ∃ y, (c.run (left + 1) number).runOn x = (c.run left (number + 1)).runOn y ∧
      Onward c.bound x y [.request (c.request timeout), .pause (delay.divNat 1000)] ∧
      c.replies y = fun n => c.replies x (n + 1) := by
  obtain ⟨y, onwardY, shift, z, quiet, hrun⟩ := run_pauses hs hb sends timedOut left number
  have calm : c.bound = true →
      y.token.cancelled = false ∧ y.strikes (.pause (delay.divNat 1000)) = false := by
    intro hbound
    have samePauses : y.pauses.length = x.pauses.length := onwardY.pauses_length_eq
    refine ⟨onwardY.uncancelled hbound (sends hbound).1, Bool.eq_false_iff.mpr fun struck => ?_⟩
    rw [strikes_pause, onwardY.interrupt, samePauses] at struck
    exact notPause hbound struck
  obtain ⟨finished, onwardZ⟩ := Onward.of_carryOut (e := .pause (delay.divNat 1000)) rfl calm
  rw [finished] at hrun
  refine ⟨z, hrun, (onwardY.trans onwardZ).trans (.of_quiet quiet), funext fun n => ?_⟩
  unfold replies
  rw [quiet.server_eq, quiet.served_eq, onwardZ.server, served_carryOut]
  exact shift n

/-- Undisturbed, a call passes over the time-outs that come first and ends with the
verdict on the reply after them. -/
theorem run_undisturbed (hs : seconds c.timeoutMs = .ok timeout)
    (hb : backoff c.timeoutMs = .ok delay) {a b : Nat} (left number : Nat) (x : Exchange)
    (calm : Undisturbed c.bound x a b)
    (ha : x.requests.length + retries (c.replies x) left < a)
    (hp : x.pauses.length + retries (c.replies x) left ≤ b) :
    ∃ y, (c.run left number).runOn x =
        ((c.replies x (retries (c.replies x) left)).verdict, y) ∧
      Onward c.bound x y
        (alternation (c.request timeout) (delay.divNat 1000) (retries (c.replies x) left)) := by
  -- a time-out uses up one attempt and moves the replies up by one
  induction left generalizing x number with
  | zero => exact run_ends hs (.of_undisturbed calm ha) (.inl rfl) number
  | succ left ih =>
      have sends : c.SendsNext x := .of_undisturbed calm (by omega)
      by_cases timedOut : c.replies x 0 = .timeout
      · simp only [retries, timedOut, if_true] at ha hp ⊢
        obtain ⟨y, hrun, onward, shift⟩ := run_round hs hb sends
          (calm.not_atPause (by omega)) timedOut left number
        have moreRequests : y.requests.length = x.requests.length + 1 := onward.requests_length_eq
        have morePauses : y.pauses.length = x.pauses.length + 1 := onward.pauses_length_eq
        rw [← shift] at ha hp
        obtain ⟨z, hz, rest⟩ :=
          ih (number + 1) y (onward.undisturbed calm) (by omega) (by omega)
        refine ⟨z, ?_, ?_⟩
        · rw [hrun, hz, shift]
        · rw [shift] at rest
          exact onward.trans rest
      · simp only [retries, timedOut, if_false]
        exact run_ends hs sends (.inr timedOut) number

end RefNav.Resolver.Call
