import RefNav.Proofs.Remote.Lookup

/-! # Bounded retries

Only a time-out is followed by another request, and only as long as attempts are
left.  The first reply that is no time-out decides the lookup.
-/

namespace RefNav.Resolver

open RefNav.Number RefNav.Exchange

/-! ## Counting time-outs -/

namespace Call

theorem retries_of_first {reply : Nat → Reply} {j left : Nat} (hj : j ≤ left)
    (before : ∀ i < j, reply i = .timeout) (settled : reply j ≠ .timeout) :
    retries reply left = j := by
  induction left generalizing reply j with
  | zero => simp [retries, Nat.le_zero.mp hj]
  | succ left ih =>
      cases j with
      | zero => simp [retries, settled]
      | succ j =>
          have rest := ih (Nat.le_of_succ_le_succ hj)
            (fun i hi => before (i + 1) (Nat.succ_lt_succ hi)) settled
          simp [retries, before 0 (Nat.succ_pos j), rest]

theorem retries_of_all {reply : Nat → Reply} {left : Nat}
    (all : ∀ i < left, reply i = .timeout) : retries reply left = left := by
  induction left generalizing reply with
  | zero => rfl
  | succ left ih =>
      have rest := ih fun i hi => all (i + 1) (Nat.succ_lt_succ hi)
      simp [retries, all 0 (Nat.succ_pos left), rest]

theorem retries_congr {reply other : Nat → Reply} {left n : Nat} (hn : retries reply left = n)
    (same : ∀ i ≤ n, other i = reply i) : retries other left = n := by
  subst hn
  induction left generalizing reply other with
  | zero => rfl
  | succ left ih =>
      have first : other 0 = reply 0 := same 0 (Nat.zero_le _)
      by_cases timedOut : reply 0 = .timeout
      · simp only [retries, first, timedOut, if_true] at same ⊢
        rw [ih fun i hi => same (i + 1) (Nat.succ_le_succ hi)]
      · simp only [retries, first, timedOut, if_false]

theorem retries_le (reply : Nat → Reply) (left : Nat) : retries reply left ≤ left := by
  induction left generalizing reply with
  | zero => exact Nat.le_refl 0
  | succ left ih =>
      rw [retries]
      split
      · exact Nat.succ_le_succ (ih _)
      · exact Nat.zero_le _

theorem timeout_of_lt_retries {reply : Nat → Reply} {left i : Nat}
    (hi : i < retries reply left) : reply i = .timeout := by
  induction left generalizing reply i with
  | zero => cases hi
  | succ left ih =>
      rw [retries] at hi
      split at hi
      next timedOut =>
        cases i with
        | zero => exact timedOut
        | succ i =>
            have rest := ih (Nat.lt_of_succ_lt_succ hi)
            exact rest
      next => cases hi

end Call

/-! ## Whole lookups -/

theorem attempts_pos (r : Resolver) : 0 < r.attempts := by
  unfold attempts
  omega

/-- Replies after the deciding one are never asked for. -/
theorem lookup_decided {r : Resolver} {query : String} {connection : Connection}
    {bound : Bool} {callTimeout : Option Int} {x : Exchange} {endpoint : Endpoint} {name : String}
    {timeout delay : Binary64} {n : Nat}
    (sends : r.Sends query connection callTimeout endpoint name timeout delay)
    (calm : bound = true → x.token.cancelled = false ∧ x.interrupt = .never)
    (hn : Call.retries (x.server.replyTo query x.served) (r.attempts - 1) = n)
    (server : Server)
    (same : ∀ i ≤ n, server.replyTo query x.served i = x.server.replyTo query x.served i) :
    let run := (r.lookup query connection bound callTimeout).runOn { x with server := server }
    run.1 = (x.server.replyTo query x.served n).verdict ∧
      run.2.steps = x.steps ++ Call.alternation
        ((r.callIn query endpoint name bound callTimeout).request timeout)
        (delay.divNat 1000) n := by
  obtain ⟨y, hy, onward⟩ := lookup_undisturbed (x := { x with server := server }) sends
    (Call.retries_congr hn same) (.of_never calm _ _)
  dsimp only
  rw [hy, same n (Nat.le_refl n)]
  exact ⟨rfl, onward.steps⟩

/-- Only time-outs are followed by another request, and only as long as attempts are
left; the first other reply decides the lookup. -/
theorem lookup_bounded_retry (r : Resolver) (query : String) (connection : Connection)
    (bound : Bool) (callTimeout : Option Int) (x : Exchange)
    (calm : bound = true → x.token.cancelled = false ∧ x.interrupt = .never) :
    let lookup := r.lookup query connection bound callTimeout
    let run := lookup.runOn x
    let reply := x.server.replyTo query x.served
    (∀ endpoint name, connection.isComplete = true → connection.namespaceName = .str name →
      query ≠ "" → r.connect connection = .ok endpoint →
      (Binary64.ofInt? (r.effectiveTimeout callTimeout)).isSome = true →
      ∃ timeout delay, seconds (r.effectiveTimeout callTimeout) = .ok timeout ∧
        backoff (r.effectiveTimeout callTimeout) = .ok delay ∧
        let pause := delay.divNat 1000
        let request : Request :=
          { url := endpoint.baseUrl ++
              ("/namespaces/" ++ Text.Percent.segment name ++ "/resolveDefinition")
            headers := endpoint.headers
            verifyTls := endpoint.verifyTls
            timeout := timeout
            body := .obj [("query", .str query)] }
        (∀ j < r.attempts, (∀ i < j, reply i = .timeout) → reply j ≠ .timeout →
          run.1 = (reply j).verdict ∧ Alternates x run.2 request pause j ∧
          ∀ server : Server, (∀ i ≤ j, server.replyTo query x.served i = reply i) →
            (lookup.runOn { x with server := server }).1 = run.1 ∧
            (lookup.runOn { x with server := server }).2.steps = run.2.steps) ∧
        ((∀ i < r.attempts, reply i = .timeout) →
          run.1 = .ok none ∧ Alternates x run.2 request pause (r.attempts - 1) ∧
          ∀ server : Server, (∀ i < r.attempts, server.replyTo query x.served i = reply i) →
            (lookup.runOn { x with server := server }).1 = run.1 ∧
            (lookup.runOn { x with server := server }).2.steps = run.2.steps)) ∧
    (connection.isComplete = false ∨ query = "" →
      run.1 = .ok none ∧ run.2.steps = x.steps) := by
  intro lookup run reply
  have attempts := r.attempts_pos
  refine ⟨fun endpoint name complete hname nonempty connected fits => ?_, fun idle => ?_⟩
  · obtain ⟨timeout, hs⟩ := exists_seconds fits
    obtain ⟨delay, hb⟩ := exists_backoff hs
    have sends : r.Sends query connection callTimeout endpoint name timeout delay :=
      ⟨⟨complete, nonempty, connected⟩, hname, hs, hb⟩
    refine ⟨timeout, delay, hs, hb, fun j hj before settled => ?_, fun all => ?_⟩
    · have hn := Call.retries_of_first (Nat.le_sub_one_of_lt hj) before settled
      have decided := lookup_decided sends calm hn
      obtain ⟨result, steps⟩ := decided x.server fun _ _ => rfl
      refine ⟨result, .of_steps steps, fun server same => ?_⟩
      obtain ⟨other, otherSteps⟩ := decided server same
      exact ⟨other.trans result.symm, otherSteps.trans steps.symm⟩
    · have hn := Call.retries_of_all fun i hi => all i (Nat.lt_of_lt_pred hi)
      have decided := lookup_decided sends calm hn
      obtain ⟨result, steps⟩ := decided x.server fun _ _ => rfl
      have last : reply (r.attempts - 1) = .timeout := all _ (Nat.sub_one_lt_of_lt attempts)
      refine ⟨result.trans (congrArg Reply.verdict last), .of_steps steps, fun server same => ?_⟩
      obtain ⟨other, otherSteps⟩ := decided server fun i hi => same i (by omega)
      exact ⟨other.trans result.symm, otherSteps.trans steps.symm⟩
  · have skips : ¬ ∃ endpoint, r.Connects query connection endpoint := by
      rintro ⟨endpoint, connects⟩
      rcases idle with incomplete | empty
      · exact absurd connects.complete (by simp [incomplete])
      · exact connects.query_ne empty
    obtain ⟨y, hy, quiet⟩ := lookup_skipped skips bound callTimeout x
    have hrun : run = (.ok none, y) := hy
    rw [hrun]
    exact ⟨rfl, quiet.steps_eq⟩

theorem lookup_bounded_retry_second_reply :
    let connection : Connection :=
      { active := .bool true, namespaceName := .str "USER", host := .str "iris.local",
        port := .int 52773, username := .str "dev", password := .str "secret" }
    let x : Exchange := { server := Server.ofReplies [] [.timeout, .response 404 "", .timeout] }
    let run := (lookup {} "^A" connection true none).runOn x
    run.1 = .ok none ∧ run.2.requests.length = 2 ∧ run.2.pauses.length = 1 := by
  intro connection x run
  obtain ⟨timeout, delay, _, _, decided, _⟩ :=
    (lookup_bounded_retry {} "^A" connection true none x fun _ => ⟨rfl, rfl⟩).1 _ "USER"
      (by decide) rfl (by decide) rfl (by decide +kernel)
  obtain ⟨result, alternates, _⟩ := decided 1 (by decide) (by decide) (by decide)
  refine ⟨result, ?_, ?_⟩
  · rw [alternates.requests]
    rfl
  · rw [alternates.pauses]
    rfl

/-- A namespace with half of a surrogate pair is a string, but makes no route: the lookup fails
before its first request. -/
theorem lookup_unpaired_namespace_fails :
    let unpaired : Text.Unpaired := ⟨[], ⟨0⟩, []⟩
    let connection : Connection :=
      { active := .bool true, namespaceName := .unpaired unpaired, host := .str "h",
        port := .int 1, username := .str "u", password := .str "p" }
    let x : Exchange := { server := Server.ofReplies [] [.response 200 "\x7b\x7d"] }
    let run := (lookup {} "^A" connection false none).runOn x
    connection.isComplete = true ∧
      (∃ endpoint, Endpoint.ofConnection true connection = .ok endpoint) ∧
      x.server.replyTo "^A" x.served 0 ≠ .timeout ∧
      run.1 = .error (.unencodable unpaired) ∧ run.2.requests.length ≠ 1 := by
  intro unpaired connection x run
  exact ⟨rfl, ⟨_, rfl⟩, by decide, rfl, by decide +kernel⟩

end RefNav.Resolver
