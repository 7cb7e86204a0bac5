import RefNav.Proofs.Dialogue
import RefNav.Proofs.Number.Positive
import RefNav.Proofs.Remote.Lookup
import RefNav.Proofs.Settings.Load

/-! # Time-outs from the settings

Each request of a lookup is sent with the time-out of the call, or with that of the settings.
Settings are taken as they stand: a time-out of zero or below is not replaced, and is what the
requests are sent with.  The last theorem says exactly which settings bound every attempt.
-/

namespace RefNav

open RefNav.Number

theorem gtNat_seconds_iff {milliseconds : Int} {timeout : Binary64}
    (h : seconds milliseconds = .ok timeout) : timeout.gtNat 0 = true ↔ 0 < milliseconds := by
  unfold seconds at h
  cases held : Binary64.ofInt? milliseconds with
  | none =>
      rw [held] at h
      cases h
  | some x =>
      rw [held] at h
      obtain rfl := Except.ok.inj h
      exact Binary64.gtNat_divNat_iff held

/-- There are seconds for the milliseconds that a double can hold. -/
theorem exists_seconds_iff {milliseconds : Int} :
    (∃ timeout, seconds milliseconds = .ok timeout) ↔
      milliseconds.natAbs < Binary64.overflow := by
  have tooLarge : Binary64.ofInt? milliseconds = none ↔ _ := Binary64.ofInt?_eq_none_iff
  rw [← Nat.not_le, ← tooLarge]
  unfold seconds
  cases Binary64.ofInt? milliseconds with
  | none => simp
  | some x => simp

namespace Resolver

variable {r : Resolver} {query : String} {connection : Connection} {bound : Bool}
  {callTimeout : Option Int} {x : Exchange} {q : Request}

/-- The requests that a lookup sends. -/
def sent (r : Resolver) (query : String) (connection : Connection) (bound : Bool)
    (callTimeout : Option Int) (x : Exchange) : List Request :=
  ((r.lookup query connection bound callTimeout).runOn x).2.requests.drop x.requests.length

theorem asksWithin_of_mem_sent (h : q ∈ r.sent query connection bound callTimeout x) :
    q.AsksWithin query (r.effectiveTimeout callTimeout) := by
  obtain ⟨new, requests, all⟩ := ((r.dialogue_lookup_within query connection bound
    callTimeout).speaks x).exists_requests
  unfold sent at h
  rw [requests, List.drop_left] at h
  exact all q h

/-- A call has a positive time-out of its own, or that of the resolver. -/
theorem effectiveTimeout_cases (r : Resolver)
    (nonneg : ∀ milliseconds, callTimeout = some milliseconds → 0 ≤ milliseconds) :
    (∃ milliseconds, callTimeout = some milliseconds ∧ 0 < milliseconds ∧
      r.effectiveTimeout callTimeout = milliseconds) ∨
    (¬ ∃ milliseconds, callTimeout = some milliseconds ∧ 0 < milliseconds) ∧
      r.effectiveTimeout callTimeout = r.timeoutMs := by
  cases callTimeout with
  | none => exact .inr ⟨nofun, rfl⟩
  | some milliseconds =>
      by_cases zero : milliseconds = 0
      · subst zero
        exact .inr ⟨by simp, rfl⟩
      · have := nonneg milliseconds rfl
        exact .inl ⟨milliseconds, rfl, by omega, if_neg zero⟩

/-- A resolver that connects directly sends a request if a double can hold its time-out. -/
theorem exists_sent (r : Resolver) (verifyTls : Bool)
    (direct : r.connect = Endpoint.ofConnection verifyTls) {timeout : Binary64}
    (read : seconds r.timeoutMs = .ok timeout) :
    ∃ query connection x q, q ∈ r.sent query connection false none x := by
  let connection : Connection :=
    { active := .bool true, namespaceName := .str "USER", host := .str "h", port := .int 80
      username := .str "u", password := .str "p" }
  let x : Exchange := { server := .ofReplies [] [] }
  obtain ⟨endpoint, made⟩ : ∃ endpoint, Endpoint.ofConnection verifyTls connection = .ok endpoint :=
    ⟨_, rfl⟩
  have connects : r.Connects "^A" connection endpoint :=
    ⟨rfl, by decide, by rw [direct, made]⟩
  let call := r.callIn "^A" endpoint "USER" false none
  have sends : call.SendsNext x := fun bound => Bool.noConfusion bound
  have refused : x.server.replyTo call.query x.served 0 ≠ .timeout := nofun
  obtain ⟨y, run, onward⟩ : ∃ y, (call.run (r.attempts - 1) 1).runOn x = (_, y) ∧
      Exchange.Onward false x y [.request (call.request timeout)] :=
    Call.run_ends read sends (.inr refused) 1
  have requests : y.requests = [call.request timeout] := by
    rw [Exchange.requests_eq, onward.steps]
    rfl
  refine ⟨"^A", connection, x, call.request timeout, ?_⟩
  unfold sent
  rw [lookup_named connects rfl, run, requests]
  exact List.mem_singleton_self _

end Resolver

namespace Logged

/-- What comes to a value in two parts came to a value in the first. -/
theorem exists_of_bind {α β : Type} {m : Logged α} {next : α → Logged β} {b : β}
    {log : List LogRecord} (h : ((ExceptT.run (m >>= next)).run log).1 = .ok b) :
    ∃ a later, ((ExceptT.run m).run log).1 = .ok a ∧
      ((ExceptT.run (next a)).run later).1 = .ok b := by
  rw [run_bind] at h
  rcases first : (ExceptT.run m).run log with ⟨outcome, later⟩
  rw [first] at h
  cases outcome with
  | error f => cases h
  | ok a => exact ⟨a, later, rfl, h⟩

end Logged

variable {t : FileTree} {root : PathName}

theorem Config.eq_members_of_load {data : Members} {log : List LogRecord}
    (h : ((ExceptT.run (Config.load t root)).run log).1 = .ok data) :
    data = Config.members t root := by
  rcases Config.yields_load_cases t root with ⟨f, failed⟩ | read
  · cases (failed log).symm.trans h
  · exact (Except.ok.inj ((read log).symm.trans h)).symm

namespace Settings

open Logged

variable {env : Environment} {s : Settings}

theorem eq_of_integerSetting {what : String} {default n : Int} {v : Json} {log : List LogRecord}
    (h : ((ExceptT.run (integerSetting what default v)).run log).1 = .ok n) :
    n = v.toInteger.toOption.getD default := by
  cases infinite : v.isInfinite with
  | true =>
      obtain ⟨f, fails⟩ := yields_integerSetting_of_infinite infinite what default
      cases (fails log).symm.trans h
  | false =>
      have read := yields_integerSetting infinite what default log
      exact (Except.ok.inj (read.symm.trans h)).symm

/-- The time-out of settings that were loaded. -/
theorem requestTimeoutMs_of_load (loaded : (load t root env).outcome.1 = .ok s) :
    s.requestTimeoutMs =
      (timeoutValue env (Config.members t root)).toInteger.toOption.getD 500 := by
  obtain ⟨data, _, file, loaded⟩ := exists_of_bind loaded
  obtain ⟨block, _, -, loaded⟩ := exists_of_bind loaded
  obtain ⟨connection, _, -, loaded⟩ := exists_of_bind loaded
  obtain ⟨timeout, _, read, loaded⟩ := exists_of_bind loaded
  obtain ⟨attempts, _, -, loaded⟩ := exists_of_bind loaded
  obtain rfl := Config.eq_members_of_load file
  rw [← Except.ok.inj loaded]
  exact eq_of_integerSetting read

/-- Every request that is sent under these settings, over any connection and with any time-out
of the call that is not negative, has a time-out above zero. -/
def BoundsAttempts (s : Settings) : Prop :=
  ∀ query connection bound callTimeout x,
    (∀ milliseconds, callTimeout = some milliseconds → 0 ≤ milliseconds) →
    ∀ q ∈ s.resolver.sent query connection bound callTimeout x, q.timeout.gtNat 0 = true

theorem gtNat_timeout_iff (s : Settings) {query : String} {connection : Connection} {bound : Bool}
    {callTimeout : Option Int} {x : Exchange}
    (nonneg : ∀ milliseconds, callTimeout = some milliseconds → 0 ≤ milliseconds)
    {q : Request} (h : q ∈ s.resolver.sent query connection bound callTimeout x) :
    q.timeout.gtNat 0 = true ↔ 0 < s.requestTimeoutMs ∨
      ∃ milliseconds, callTimeout = some milliseconds ∧ 0 < milliseconds := by
  rw [gtNat_seconds_iff (Resolver.asksWithin_of_mem_sent h).2]
  rcases s.resolver.effectiveTimeout_cases nonneg with ⟨own, given, pos, eq⟩ | ⟨none, eq⟩
  · rw [eq]
    exact iff_of_true pos (.inr ⟨own, given, pos⟩)
  · rw [eq]
    exact (or_iff_left none).symm

theorem boundsAttempts_iff (s : Settings) :
    s.BoundsAttempts ↔
      0 < s.requestTimeoutMs ∨ Binary64.overflow ≤ s.requestTimeoutMs.natAbs := by
  constructor
  · intro bounds
    rcases Nat.lt_or_ge s.requestTimeoutMs.natAbs Binary64.overflow with held | tooLarge
    · obtain ⟨timeout, read⟩ := exists_seconds_iff.mpr held
      obtain ⟨query, connection, x, q, hq⟩ := s.resolver.exists_sent s.strictSsl rfl read
      have absent (milliseconds : Int) (given : none = some milliseconds) : 0 ≤ milliseconds :=
        nomatch given
      have positive := bounds query connection false none x absent q hq
      rw [gtNat_timeout_iff s absent hq] at positive
      exact .inl (positive.resolve_right fun ⟨_, given, _⟩ => nomatch given)
    · exact .inr tooLarge
  · rintro settings query connection bound callTimeout x nonneg q hq
    have within := (Resolver.asksWithin_of_mem_sent hq).2
    rw [gtNat_seconds_iff within]
    rcases s.resolver.effectiveTimeout_cases nonneg with ⟨own, -, pos, eq⟩ | ⟨-, eq⟩
    · rw [eq]
      exact pos
    · rw [eq] at within ⊢
      refine settings.resolve_right fun tooLarge => ?_
      exact absurd tooLarge (Nat.not_le.mpr (exists_seconds_iff.mp ⟨_, within⟩))

/-- Settings that were loaded bound every attempt exactly if their time-out is above zero, or of
a size with which nothing can be sent.  The time-out is the integer that the variable, or else
the file, gives; a request has a time-out above zero exactly if that integer or the time-out of
the call is. -/
theorem load_boundsAttempts_iff (t : FileTree) (root : PathName) (env : Environment) (s : Settings)
    (loaded : (load t root env).outcome.1 = .ok s) :
    s.requestTimeoutMs =
        (timeoutValue env (Config.members t root)).toInteger.toOption.getD 500 ∧
    (∀ query connection bound callTimeout x,
      (∀ milliseconds, callTimeout = some milliseconds → 0 ≤ milliseconds) →
      ∀ q ∈ s.resolver.sent query connection bound callTimeout x,
        (q.timeout.gtNat 0 = true ↔ 0 < s.requestTimeoutMs ∨
          ∃ milliseconds, callTimeout = some milliseconds ∧ 0 < milliseconds)) ∧
    (s.BoundsAttempts ↔
      0 < s.requestTimeoutMs ∨ Binary64.overflow ≤ s.requestTimeoutMs.natAbs) :=
  ⟨requestTimeoutMs_of_load loaded,
    fun _ _ _ _ _ nonneg _ hq => gtNat_timeout_iff s nonneg hq, boundsAttempts_iff s⟩

theorem load_boundsAttempts_iff_variable :
    let t : FileTree := { entries := [(["ws"], .directory)] }
    let env : Environment := [("CCSNAV_TIMEOUT_MS", " 9_00 ")]
    ∃ s, (load t ⟨"/", ["ws"]⟩ env).outcome.1 = .ok s ∧ s.BoundsAttempts := by
  intro t env
  have read : (load t ⟨"/", ["ws"]⟩ env).outcome.1.toOption.map requestTimeoutMs = some 900 := by
    decide +kernel
  obtain ⟨s, loaded, timeout⟩ := Option.map_eq_some_iff.mp read
  have loaded := eq_ok_of_toOption loaded
  obtain ⟨-, -, bounds⟩ := load_boundsAttempts_iff t ⟨"/", ["ws"]⟩ env s loaded
  exact ⟨s, loaded, bounds.mpr (.inl (by rw [timeout]; decide))⟩

/-- A time-out of zero is passed on, and the request is sent without a bound. -/
theorem load_zero_timeout_sent :
    let t : FileTree := { entries := [(["ws"], .directory)] }
    let env : Environment := [("CCSNAV_TIMEOUT_MS", "0")]
    let connection : Connection :=
      { active := .bool true, namespaceName := .str "USER", host := .str "h", port := .int 80
        username := .str "u", password := .str "p" }
    let x : Exchange := { server := .ofReplies [] [.response 200 ""] }
    ∃ s, (load t ⟨"/", ["ws"]⟩ env).outcome.1 = .ok s ∧
      ((s.resolver.sent "^A" connection false none x).map fun q => q.timeout.gtNat 0) = [false] := by
  intro t env connection x
  have sent : ((load t ⟨"/", ["ws"]⟩ env).outcome.1.toOption.map fun s =>
      (s.resolver.sent "^A" connection false none x).map fun q => q.timeout.gtNat 0) =
      some [false] := by
    decide +kernel
  obtain ⟨s, loaded, unbounded⟩ := Option.map_eq_some_iff.mp sent
  exact ⟨s, eq_ok_of_toOption loaded, unbounded⟩

end Settings

end RefNav
