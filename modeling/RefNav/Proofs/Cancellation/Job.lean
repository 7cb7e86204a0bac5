import RefNav.Cancellation.Job
import RefNav.Proofs.Exchange

/-! # Jobs and exchanges

An exchange cuts off what is under way when the caller's token fires, without a job for it.  Awaited
as a job under a token source, the same work comes to its end in the same cases, and leaves the
token as the exchange does, whatever the other listeners of the source are.
-/

namespace RefNav

/-! ## Tokens without their listeners -/

namespace Token

variable {β : Type}

/-- The token with nothing but the keys of its listeners. -/
def anonymous (t : Token β) : Token Unit :=
  { cancelled := t.cancelled, next := t.next, listeners := t.listeners.map fun l => (l.1, ()) }

theorem register_anonymous (t : Token β) (listener : β) :
    t.anonymous.register () = ((t.register listener).1.anonymous, (t.register listener).2) := by
  unfold register
  cases cancelled : t.cancelled <;> simp [anonymous, cancelled]

theorem release_anonymous (t : Token β) (r : Registration) :
    t.anonymous.release r = (t.release r).anonymous := by
  cases r with
  | held key => simp [anonymous, release, unregister, List.filter_map, Function.comp_def]
  | released => rfl

theorem fire_anonymous (t : Token β) : t.anonymous.fire.1 = t.fire.1.anonymous := by
  unfold fire
  cases cancelled : t.cancelled <;> simp [anonymous, cancelled]

theorem visited_anonymous (t : Token β) (listener : β) :
    Exchange.visited t.anonymous =
      ((t.register listener).1.release (t.register listener).2).anonymous := by
  rw [Exchange.visited, register_anonymous t listener, release_anonymous]

theorem stopped_anonymous (t : Token β) (listener : β) :
    Exchange.stopped t.anonymous =
      ((t.register listener).1.fire.1.release (t.register listener).2).anonymous := by
  rw [Exchange.stopped, register_anonymous t listener, fire_anonymous, release_anonymous]

end Token

/-! ## Telling listeners of a cancelled token -/

namespace TokenSource

/-- The token is cancelled, and nobody waits for it any more. -/
structure Spent (s : TokenSource) : Prop where
  cancelled : s.token.cancelled = true
  listeners : s.token.listeners = []

/-- Nothing but the names of callbacks and of registrations has changed. -/
structure Kept (s t : TokenSource) : Prop where
  token : t.token = s.token
  aborted : t.aborted = s.aborted

variable {s t u : TokenSource}

theorem Kept.refl (s : TokenSource) : Kept s s := ⟨rfl, rfl⟩

theorem Kept.trans (h : Kept s t) (h' : Kept t u) : Kept s u :=
  ⟨h'.token.trans h.token, h'.aborted.trans h.aborted⟩

theorem Kept.spent (h : Kept s t) (spent : s.Spent) : t.Spent := by
  constructor
  · rw [h.token, spent.cancelled]
  · rw [h.token, spent.listeners]

theorem kept_tell (s : TokenSource) (name : String) : Kept s (s.tell name) := ⟨rfl, rfl⟩

theorem kept_settle (s : TokenSource) (name : String) : Kept s (s.settle name) := ⟨rfl, rfl⟩

theorem Spent.emptied (spent : s.Spent) : { s.token with listeners := [] } = s.token := by
  rw [← spent.listeners]

theorem Spent.kept_release (spent : s.Spent) (r : Registration) : Kept s (s.release r) := by
  cases r with
  | held key =>
      have same : s.token.unregister key = s.token := by
        rw [Token.unregister, spent.listeners]
        exact spent.emptied
      exact ⟨same, rfl⟩
  | released => exact ⟨rfl, rfl⟩

theorem Spent.kept_unregister (spent : s.Spent) (name : String) : Kept s (s.unregister name) := by
  unfold unregister
  split
  · exact spent.kept_release _
  · exact .refl s

theorem Spent.kept_dispose (spent : s.Spent) : Kept s s.dispose :=
  ⟨spent.emptied, rfl⟩

mutual

/-- Whatever a callback does, a token that is cancelled stays as it is. -/
theorem Spent.kept_run {s : TokenSource} (spent : s.Spent) (a : Action) :
    Kept s (Action.run quiet a s).inside ∧ Kept s (Action.run quiet a s).after := by
  cases a with
  | register name actions breaks =>
      have told := kept_tell s name
      have did := told.trans ((told.spent spent).kept_runAll actions)
      rw [Action.run, if_pos spent.cancelled]
      split
      · exact ⟨told, told⟩
      · dsimp only
        split
        · exact ⟨did.trans (kept_settle _ name), did.trans (kept_settle _ name)⟩
        · exact ⟨did, did⟩
  | unregister name => exact ⟨spent.kept_unregister name, spent.kept_unregister name⟩
  | cancel =>
      rw [Action.run, if_pos spent.cancelled]
      exact ⟨.refl s, .refl s⟩
  | dispose => exact ⟨spent.kept_dispose, spent.kept_dispose⟩
  | look => exact ⟨.refl s, .refl s⟩
  | within name body =>
      have told := (kept_tell s name).trans (kept_settle _ name)
      have did := told.trans ((told.spent spent).kept_runAll body)
      rw [Action.run, if_pos spent.cancelled]
      exact ⟨did, did.trans ((did.spent spent).kept_release .released)⟩
  | scope body =>
      have did := spent.kept_runAll body
      rw [Action.run]
      exact ⟨did, did.trans (did.spent spent).kept_dispose⟩

theorem Spent.kept_runAll {s : TokenSource} (spent : s.Spent) (actions : List Action) :
    Kept s (Action.runAll quiet actions s).2 := by
  cases actions with
  | nil => exact .refl s
  | cons a rest =>
      have first := (spent.kept_run a).2
      rw [Action.runAll]
      split
      · exact first.trans ((first.spent spent).kept_runAll rest)
      · exact first

end

end TokenSource

/-- A callback that comes to its end when a cancelled token tells it. -/
def Listener.Steady : Listener → Prop
  | .callback name actions breaks =>
      breaks = false ∧ ∀ s : TokenSource, s.Spent →
        (Action.runAll TokenSource.quiet actions (s.tell name)).1 = true
  | .job => False

example : (Listener.callback "a" [.unregister "a", .dispose] false).Steady :=
  ⟨rfl, fun _ _ => rfl⟩

namespace TokenSource

variable {s : TokenSource} {told rest : List Listener}

theorem Spent.notify (spent : s.Spent) {l : Listener} (steady : l.Steady) :
    (s.notify l).1 = true ∧ Kept s (s.notify l).2 := by
  cases l with
  | job => exact steady.elim
  | callback name actions breaks =>
      obtain ⟨rfl, completes⟩ := steady
      have kept := kept_tell s name
      exact ⟨completes s spent, kept.trans ((kept.spent spent).kept_runAll actions)⟩

/-- Steady callbacks do not keep those behind them from being told. -/
theorem Spent.notifyAll_append (spent : s.Spent) (steady : ∀ l ∈ told, l.Steady)
    (rest : List Listener) : ∃ t, Kept s t ∧ s.notifyAll (told ++ rest) = t.notifyAll rest := by
  induction told generalizing s with
  | nil => exact ⟨s, .refl s, rfl⟩
  | cons l told ih =>
      obtain ⟨here, later⟩ := List.forall_mem_cons.mp steady
      obtain ⟨completes, kept⟩ := spent.notify here
      obtain ⟨t, kept', same⟩ := ih (kept.spent spent) later
      refine ⟨t, kept.trans kept', ?_⟩
      rw [List.cons_append, notifyAll, ← same]
      simp only [completes, if_true]

/-- Cancelling a source tells its steady callbacks, and then the listeners behind them. -/
theorem cancel_append (uncancelled : s.token.cancelled = false)
    (listeners : s.token.listeners.map Prod.snd = told ++ rest) (steady : ∀ l ∈ told, l.Steady) :
    ∃ t : TokenSource, t.token = s.token.fire.1 ∧ t.aborted = s.aborted ∧
      s.cancel = t.notifyAll rest := by
  have fires : s.token.fire = (s.token.fire.1, told ++ rest) := by
    rw [Token.fire, uncancelled, ← listeners]
    rfl
  have spent : Spent { s with token := s.token.fire.1 } := by
    refine ⟨Token.cancelled_fire _, ?_⟩
    rw [Token.fire, uncancelled]
    rfl
  obtain ⟨t, kept, same⟩ := spent.notifyAll_append steady rest
  refine ⟨t, kept.token, kept.aborted, ?_⟩
  rw [cancel, fires, ← same]

end TokenSource

/-! ## Jobs that suspend -/

namespace Job

theorem run_suspends {t : Job} (calm : t.doomed = false) (n : Nat) (rest : List Work) :
    t.run (List.replicate n Work.suspend ++ rest) =
      { t with done := t.done ++ List.replicate n Work.suspend }.run rest := by
  induction n generalizing t with
  | zero => simp
  | succ n ih =>
      have step : t.run (List.replicate (n + 1) Work.suspend ++ rest) =
          (t.finish .suspend).run (List.replicate n Work.suspend ++ rest) := by
        rw [List.replicate_succ, List.cons_append, run, calm]
        rfl
      rw [step, ih (t := t.finish .suspend) calm]
      simp [finish, List.replicate_succ]

end Job

/-- The work of a step: it suspends some times, the caller cancels if this is the point, and it
suspends at least once more. -/
def Exchange.workOf (x : Exchange) (e : Event) (before behind : Nat) : List Work :=
  List.replicate before .suspend ++
    ((if x.strikes e then [.cancelSource] else []) ++ List.replicate (behind + 1) .suspend)

namespace TokenSource

variable {s : TokenSource} {x : Exchange}

/-- The source once a job has registered. -/
def enlist (s : TokenSource) : TokenSource :=
  { s with token := (s.token.register .job).1, aborted := false }

theorem cancel_enlist (uncancelled : s.token.cancelled = false)
    (steady : ∀ l ∈ s.token.listeners, l.2.Steady) :
    ∃ t, s.enlist.cancel = (true, t) ∧ t.token = s.enlist.token.fire.1 ∧ t.aborted = true := by
  have open' : s.enlist.token.cancelled = false := by
    simp [enlist, Token.register, uncancelled]
  have listeners : s.enlist.token.listeners.map Prod.snd =
      s.token.listeners.map Prod.snd ++ [.job] := by
    simp [enlist, Token.register, uncancelled]
  obtain ⟨t, token, -, cancels⟩ := cancel_append open' listeners (List.forall_mem_map.mpr steady)
  exact ⟨{ t with aborted := true }, cancels, token, rfl⟩

theorem awaitBound_of_cancelled (cancelled : s.token.cancelled = true) (work : List Work) :
    s.awaitBound work = { outcome := .operationCancelled, done := [], source := s } := by
  rw [awaitBound, if_pos cancelled]

theorem awaitBound_of_not_cancelled (uncancelled : s.token.cancelled = false) (work : List Work) :
    s.awaitBound work =
      { outcome := outcomeOf true (Job.run { source := s.enlist } work).2.source
          (Job.run { source := s.enlist } work).1
        done := (Job.run { source := s.enlist } work).2.done
        source := { (Job.run { source := s.enlist } work).2.source with
          token := (Job.run { source := s.enlist } work).2.source.token.release
            (s.token.register .job).2
          aborted := false } } := by
  rw [awaitBound, uncancelled]
  rfl

/-- Work that nobody cancels comes to its end. -/
theorem run_enlist_of_calm (n : Nat) :
    Job.run { source := s.enlist } (List.replicate n .suspend) =
      (.finished, { source := s.enlist, done := List.replicate n .suspend }) := by
  have suspends := Job.run_suspends (t := { source := s.enlist }) rfl n []
  rw [List.append_nil, List.nil_append] at suspends
  rw [suspends]
  rfl

/-- Work during which the caller cancels is cut off where it suspends next. -/
theorem run_enlist_of_struck (uncancelled : s.token.cancelled = false)
    (steady : ∀ l ∈ s.token.listeners, l.2.Steady) (before behind : Nat) :
    ∃ t : TokenSource, t.token = s.enlist.token.fire.1 ∧
      Job.run { source := s.enlist } (List.replicate before .suspend ++
          ([.cancelSource] ++ List.replicate (behind + 1) .suspend)) =
        (.aborted, { source := t, doomed := true
                     done := List.replicate before .suspend ++ [.cancelSource] }) := by
  have waits : s.enlist.token.cancelled = false := by
    simp [enlist, Token.register, uncancelled]
  obtain ⟨t, cancels, token, aborted⟩ := cancel_enlist uncancelled steady
  refine ⟨t, token, ?_⟩
  rw [Job.run_suspends rfl, List.cons_append, List.nil_append, Job.run]
  simp [waits, cancels, aborted, List.replicate_succ, Job.run, Job.finish]

/-- A step that is bound to the token is a job awaited under it: it comes to its end in the same
cases, begins in the same cases, and leaves the token the same. -/
theorem awaitBound_carryOut (same : s.token.anonymous = x.token)
    (steady : ∀ l ∈ s.token.listeners, l.2.Steady) (e : Event) (before behind : Nat) :
    let awaited := s.awaitBound (x.workOf e before behind)
    let step := x.carryOut true e
    awaited.outcome = (if step.1 then .finished else .operationCancelled) ∧
      (awaited.done = [] ↔ step.2.trace = x.trace) ∧
        awaited.source.token.anonymous = step.2.token := by
  have cancelled : x.token.cancelled = s.token.cancelled := by rw [← same]; rfl
  intro awaited step
  cases before' : s.token.cancelled with
  | true =>
      have ended : awaited = _ := awaitBound_of_cancelled before' _
      have skipped : step = _ := Exchange.carryOut_of_cancelled (cancelled.trans before') e
      rw [ended, skipped]
      exact ⟨rfl, Iff.of_eq (by simp), same⟩
  | false =>
      have ended : awaited = _ := awaitBound_of_not_cancelled before' _
      have taken : step = _ := Exchange.carryOut_of_not_cancelled (cancelled.trans before') e
      rw [ended, taken, ← same]
      cases strikes : x.strikes e with
      | false =>
          have work : x.workOf e before behind =
              List.replicate (before + (behind + 1)) .suspend := by
            simp [Exchange.workOf, strikes]
          rw [work, run_enlist_of_calm]
          exact ⟨rfl, by simp [Exchange.add], (s.token.visited_anonymous .job).symm⟩
      | true =>
          obtain ⟨t, token, runs⟩ := run_enlist_of_struck before' steady before behind
          have seen : t.token.cancelled = true := token ▸ Token.cancelled_fire _
          rw [Exchange.workOf, strikes, if_pos rfl, runs]
          refine ⟨?_, by simp [Exchange.add], ?_⟩
          · simp [outcomeOf, seen]
          · dsimp only
            rw [token]
            exact (s.token.stopped_anonymous .job).symm

theorem cancel_of_steady (steady : ∀ l ∈ s.token.listeners, l.2.Steady) :
    ∃ t : TokenSource, t.token = s.token.fire.1 ∧ t.aborted = s.aborted ∧
      (if s.token.cancelled then (true, s) else s.cancel) = (true, t) := by
  cases before : s.token.cancelled with
  | true =>
      refine ⟨s, ?_, rfl, rfl⟩
      rw [Token.fire, if_pos before]
  | false => exact cancel_append before (List.append_nil _).symm (List.forall_mem_map.mpr steady)

/-- Work that is not bound to the token comes to its end, whoever cancels meanwhile. -/
theorem run_unbound (calm : s.aborted = false) (steady : ∀ l ∈ s.token.listeners, l.2.Steady)
    (struck : Bool) (before behind : Nat) :
    ∃ t : Job, t.source.token = (if struck then s.token.fire.1 else s.token) ∧
      Job.run { source := s } (List.replicate before .suspend ++
        ((if struck then [.cancelSource] else []) ++ List.replicate (behind + 1) .suspend)) =
          (.finished, t) := by
  have ends {t : Job} (calm : t.doomed = false) :
      t.run (List.replicate (behind + 1) .suspend) =
        (.finished, { t with done := t.done ++ List.replicate (behind + 1) .suspend }) := by
    have suspends := Job.run_suspends calm (behind + 1) []
    rw [List.append_nil] at suspends
    rw [suspends, Job.run, calm]
    rfl
  rw [Job.run_suspends rfl]
  cases struck with
  | false =>
      simp only [Bool.false_eq_true, if_false, List.nil_append]
      rw [ends rfl]
      exact ⟨_, rfl, rfl⟩
  | true =>
      obtain ⟨t, token, aborted, cancels⟩ := cancel_of_steady steady
      simp only [if_true, List.cons_append, List.nil_append, Job.run, cancels]
      rw [ends (by rw [aborted, calm]; rfl)]
      exact ⟨_, token, rfl⟩

/-- A step that is not bound to the token is work awaited without it. -/
theorem awaitUnbound_carryOut (same : s.token.anonymous = x.token) (calm : s.aborted = false)
    (steady : ∀ l ∈ s.token.listeners, l.2.Steady) (e : Event) (before behind : Nat) :
    let awaited := s.awaitUnbound (x.workOf e before behind)
    let step := x.carryOut false e
    step.1 = true ∧ awaited.outcome = .finished ∧
      awaited.source.token.anonymous = step.2.token := by
  obtain ⟨t, token, runs⟩ := run_unbound calm steady (x.strikes e) before behind
  intro awaited step
  have ended : awaited = { outcome := .finished, done := t.done, source := t.source } := by
    change s.awaitUnbound (x.workOf e before behind) = _
    rw [awaitUnbound, Exchange.workOf, runs]
    rfl
  have taken : step = (true, x.begin e) := Exchange.carryOut_unbound x e
  rw [ended, taken, Exchange.begin_with_token x x.token]
  refine ⟨rfl, rfl, ?_⟩
  dsimp only
  rw [token, ← same, Token.fire_anonymous]
  split <;> rfl

end TokenSource

end RefNav
