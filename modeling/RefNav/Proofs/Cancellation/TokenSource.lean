import Mathlib.Data.List.Induction
import RefNav.Proofs.Cancellation.History

/-! # A token source after a history

Before the first cancellation a source keeps exactly the registrations that wait, under keys that
are never given twice; from it on, it keeps nothing and tells whoever comes.  Either way what it
has told is what the history says.
-/

namespace RefNav

namespace TokenSource

/-- A new source after a history.  An operation that breaks does not keep the caller from
going on. -/
def after (h : History) : TokenSource :=
  h.foldl (fun s a => (s.perform a).after) {}

theorem after_snoc (h : History) (a : Action) : after (h ++ [a]) = ((after h).perform a).after := by
  simp [after]

/-! ## Handles -/

variable {s : TokenSource}

theorem lookup_map_snd (f : Registration → Registration) (handles : List (String × Registration))
    (name : String) :
    (handles.map fun p => (p.1, f p.2)).lookup name = (handles.lookup name).map f := by
  induction handles with
  | nil => rfl
  | cons p rest ih =>
      rw [List.map_cons, List.lookup_cons, List.lookup_cons, ih]
      split <;> rfl

theorem lookup_overwrite (handles : List (String × Registration)) (name : String)
    (r : Registration) (other : String) :
    (handles.map fun p => if p.1 = name then (name, r) else p).lookup other =
      if other = name then (handles.lookup name).map fun _ => r else handles.lookup other := by
  induction handles with
  | nil => simp
  | cons p rest ih =>
      obtain ⟨key, old⟩ := p
      by_cases here : key = name
      · by_cases same : other = name
        · simp [here, same]
        · simpa [here, same, List.lookup_cons, beq_false_of_ne same] using ih
      · by_cases same : other = name
        · simpa [here, same, List.lookup_cons, beq_false_of_ne (Ne.symm here)] using ih
        · rw [if_neg same] at ih
          simp [here, same, List.lookup_cons, ih]

theorem lookup_keep (s : TokenSource) (name : String) (r : Registration) (other : String) :
    (s.keep name r).handles.lookup other =
      if other = name then some r else s.handles.lookup other := by
  unfold keep
  dsimp only
  split
  next known =>
    obtain ⟨old, held⟩ := Option.isSome_iff_exists.mp known
    rw [lookup_overwrite, held]
    rfl
  next new =>
    have unknown : s.handles.lookup name = none :=
      Option.not_isSome_iff_eq_none.mp new
    rw [List.lookup_append, List.lookup_cons]
    by_cases same : other = name
    · simp [same, unknown]
    · simp [same, beq_false_of_ne same]

theorem lookup_release (s : TokenSource) (r : Registration) (name : String) :
    (s.release r).handles.lookup name =
      (s.handles.lookup name).map fun q => if q = r then .released else q := by
  rw [← lookup_map_snd]
  unfold release
  congr 1
  refine List.map_congr_left fun p _ => ?_
  split <;> simp [*]

theorem release_released (s : TokenSource) : s.release .released = s := by
  have kept : (fun p : String × Registration =>
      if p.2 = .released then (p.1, Registration.released) else p) = id := by
    funext p
    split
    · exact Prod.ext rfl (Eq.symm ‹_›)
    · rfl
  rw [release, kept, List.map_id]
  rfl

/-! ## Operations -/

theorem after_register (uncancelled : s.token.cancelled = false) (name : String) (breaks : Bool) :
    (s.perform (.register name [] breaks)).after =
      { s with token := (s.token.register (.callback name [] breaks)).1 }.keep name
        (.held s.token.next) := by
  simp [perform, Action.run, uncancelled, enrol, Token.register, Turn.plain]

theorem after_register_cancelled (cancelled : s.token.cancelled = true) (name : String)
    (breaks : Bool) :
    (s.perform (.register name [] breaks)).after =
      if breaks then s.tell name else (s.tell name).settle name := by
  cases breaks <;> simp [perform, Action.run, Action.runAll, cancelled, Turn.plain]

theorem after_cancel (uncancelled : s.token.cancelled = false) :
    (s.perform .cancel).after = s.cancel.2 := by
  simp [perform, Action.run, uncancelled, Turn.plain]

theorem after_cancel_cancelled (cancelled : s.token.cancelled = true) :
    (s.perform .cancel).after = s := by
  simp [perform, Action.run, cancelled, Turn.plain]

theorem after_unregister (s : TokenSource) (name : String) :
    (s.perform (.unregister name)).after = s.unregister name := by
  simp [perform, Action.run, Turn.plain]

theorem after_dispose (s : TokenSource) : (s.perform .dispose).after = s.dispose := by
  simp [perform, Action.run, Turn.plain]

end TokenSource

/-! ## Before the first cancellation -/

namespace History

variable {h : History} {i : Nat} {s : TokenSource}

/-- The callback of registration `i`, as it waits. -/
def listenerAt (h : History) (i : Nat) : Listener :=
  .callback (h.nameAt i) [] (h.breaksAt i)

/-- A waiting callback with its key, as the token keeps it. -/
def entryAt (h : History) (i : Nat) : Nat × Listener :=
  (h.keyAt i, h.listenerAt i)

theorem entryAt_snoc {a : Action} (hi : i < h.length) : entryAt (h ++ [a]) i = h.entryAt i := by
  rw [entryAt, listenerAt, keyAt_snoc (Nat.le_of_lt hi), nameAt_snoc hi, breaksAt_snoc hi]
  rfl

theorem map_entryAt_snoc {a : Action} {is : List Nat} (waiting : ∀ i ∈ is, h.Waits i) :
    is.map (entryAt (h ++ [a])) = is.map h.entryAt :=
  List.map_congr_left fun i hi => entryAt_snoc (lt_length_of_name? (waiting i hi).1)

/-- What a source is like before it is cancelled: its listeners are the registrations that wait,
under the keys they were given, and a name holds the key of its last registration or nothing that
still waits. -/
structure Open (h : History) (s : TokenSource) : Prop where
  uncancelled : s.token.cancelled = false
  next : s.token.next = h.countP fun a => a.callback?.isSome
  listeners : s.token.listeners = h.waiting.map h.entryAt
  unnamed : ∀ name, s.handles.lookup name = none → ∀ i, ¬ h.LastUnder name i
  named : ∀ name r, s.handles.lookup name = some r → ∃ i, h.LastUnder name i ∧
    (r = .held (h.keyAt i) ∨ r = .released ∧ ¬ h.Waits i)
  told : s.told = []

theorem Open.register (opened : h.Open s) (name : String) (breaks : Bool) :
    Open (h ++ [.register name [] breaks]) (s.perform (.register name [] breaks)).after := by
  have stays : (waiting h).filter (fun i => Waits (h ++ [.register name [] breaks]) i) =
      h.waiting := by
    refine List.filter_eq_self.mpr fun i hi => ?_
    have waits := mem_waiting.mp hi
    simpa [waits_snoc (lt_length_of_name? waits.1), Action.isDispose, Action.released?] using waits
  have here : entryAt (h ++ [.register name [] breaks]) h.length =
      (s.token.next, .callback name [] breaks) := by
    rw [entryAt, keyAt_snoc (Nat.le_refl _), keyAt_length, opened.next]
    simp [listenerAt, nameAt, name?, breaksAt, callback?, Action.callback?]
  rw [TokenSource.after_register opened.uncancelled]
  constructor
  case uncancelled => simp [TokenSource.keep, Token.register, opened.uncancelled]
  case next =>
    simp [TokenSource.keep, Token.register, opened.uncancelled, opened.next, Action.callback?]
  case listeners =>
    rw [waiting_snoc, stays, List.map_append, map_entryAt_snoc fun i => mem_waiting.mp,
      ← opened.listeners]
    simp [TokenSource.keep, Token.register, opened.uncancelled, Action.callback?, here]
  case unnamed =>
    intro other unknown i
    rw [TokenSource.lookup_keep] at unknown
    split at unknown
    · cases unknown
    next differs =>
      rw [lastUnder_snoc (by simpa [Action.callback?] using Ne.symm differs)]
      exact opened.unnamed other unknown i
  case named =>
    intro other r held
    rw [TokenSource.lookup_keep] at held
    split at held
    next same =>
      refine ⟨h.length, lastUnder_snoc_self (by simp [Action.callback?, same]), .inl ?_⟩
      rw [keyAt_snoc (Nat.le_refl _), keyAt_length, ← opened.next]
      exact (Option.some.inj held).symm
    next differs =>
      obtain ⟨i, last, kept⟩ := opened.named other r held
      have inside := lt_length_of_name? (Option.isSome_iff_exists.mpr ⟨other, last.1⟩)
      refine ⟨i, (lastUnder_snoc (by simpa [Action.callback?] using Ne.symm differs)).mpr last, ?_⟩
      rw [keyAt_snoc (Nat.le_of_lt inside), waits_snoc inside]
      exact kept.imp_right (And.imp_right fun ended waits => ended waits.1)
  case told => exact opened.told

/-- An operation that registers nothing, and ends waits as it does in the history. -/
theorem Open.of_ends {a : Action} {t : TokenSource} (opened : h.Open s)
    (registersNone : a.callback? = none) (uncancelled : t.token.cancelled = false)
    (next : t.token.next = s.token.next)
    (listeners : t.token.listeners =
      (h.waiting.filter fun i => Waits (h ++ [a]) i).map h.entryAt)
    (handles : ∀ name, t.handles.lookup name = s.handles.lookup name ∨
      t.handles.lookup name = some .released ∧
        ∃ i, h.LastUnder name i ∧ ¬ Waits (h ++ [a]) i)
    (told : t.told = s.told) : Open (h ++ [a]) t := by
  have last {name : String} {i : Nat} : LastUnder (h ++ [a]) name i ↔ h.LastUnder name i :=
    lastUnder_snoc (by simp [registersNone])
  constructor
  case uncancelled => exact uncancelled
  case next => simp [next, opened.next, registersNone]
  case listeners =>
    rw [waiting_snoc, registersNone]
    simp only [Option.isSome_none, Bool.false_eq_true, if_false, List.append_nil]
    rw [listeners, map_entryAt_snoc fun i hi => mem_waiting.mp (List.mem_filter.mp hi).1]
  case unnamed =>
    intro name unknown i
    rw [last]
    rcases handles name with same | ⟨released, -⟩
    · exact opened.unnamed name (same ▸ unknown) i
    · cases released.symm.trans unknown
  case named =>
    intro name r held
    rcases handles name with same | ⟨released, i, under, ended⟩
    · obtain ⟨i, under, kept⟩ := opened.named name r (same ▸ held)
      have inside := lt_length_of_name? (Option.isSome_iff_exists.mpr ⟨name, under.1⟩)
      refine ⟨i, last.mpr under, ?_⟩
      rw [keyAt_snoc (Nat.le_of_lt inside), waits_snoc inside]
      exact kept.imp_right (And.imp_right fun ended waits => ended waits.1)
    · refine ⟨i, last.mpr under, .inr ⟨?_, ended⟩⟩
      exact Option.some.inj (held.symm.trans released)
  case told => rw [told, opened.told]

theorem Open.dispose (opened : h.Open s) : Open (h ++ [.dispose]) (s.perform .dispose).after := by
  have none_stays : h.waiting.filter (fun i => Waits (h ++ [.dispose]) i) = [] := by
    refine List.filter_eq_nil_iff.mpr fun i hi => ?_
    have waits := mem_waiting.mp hi
    simp [waits_snoc (lt_length_of_name? waits.1), Action.isDispose]
  rw [TokenSource.after_dispose]
  exact opened.of_ends rfl opened.uncancelled rfl (by rw [none_stays]; rfl) (fun _ => .inl rfl) rfl

/-- Keys are unique, so a key takes exactly its own registration away. -/
theorem Open.release_held (opened : h.Open s) {name : String} (last : h.LastUnder name i) :
    Open (h ++ [.unregister name]) (s.release (.held (h.keyAt i))) := by
  refine opened.of_ends rfl opened.uncancelled rfl ?_ (fun other => ?_) rfl
  · have dropped : (s.release (.held (h.keyAt i))).token.listeners =
        (h.waiting.map h.entryAt).filter fun l => l.1 ≠ h.keyAt i := by
      rw [← opened.listeners]
      rfl
    rw [dropped, List.filter_map]
    congr 1
    refine List.filter_congr fun j hj => ?_
    have waits := mem_waiting.mp hj
    rw [Function.comp_apply, decide_eq_decide, waits_unregister waits, not_iff_not]
    constructor
    · intro same
      rwa [eq_of_keyAt_eq waits.1 last.registers same]
    · intro under
      rw [under.unique last]
      rfl
  · rw [TokenSource.lookup_release]
    cases kept : s.handles.lookup other with
    | none => exact .inl rfl
    | some q =>
        by_cases same : q = .held (h.keyAt i)
        · obtain ⟨j, under, sameKey | ⟨rfl, -⟩⟩ := opened.named other q kept
          · have key : h.keyAt j = h.keyAt i := Registration.held.inj (sameKey.symm.trans same)
            obtain rfl := eq_of_keyAt_eq under.registers last.registers key
            exact .inr ⟨by simp [same], j, under, last.ended⟩
          · cases same
        · exact .inl (by simp [same])

/-- Releasing a name changes nothing if nothing waits that is held under it. -/
theorem Open.release_idle (opened : h.Open s) {name : String}
    (idle : ∀ j, h.Waits j → ¬ h.LastUnder name j) : Open (h ++ [.unregister name]) s := by
  have stay : h.waiting.filter (fun j => Waits (h ++ [.unregister name]) j) = h.waiting := by
    refine List.filter_eq_self.mpr fun j hj => ?_
    have waits := mem_waiting.mp hj
    simpa [waits_unregister waits] using idle j waits
  exact opened.of_ends rfl opened.uncancelled rfl (by rw [stay, opened.listeners])
    (fun _ => .inl rfl) rfl

theorem Open.unregister (opened : h.Open s) (name : String) :
    Open (h ++ [.unregister name]) (s.perform (.unregister name)).after := by
  rw [TokenSource.after_unregister, TokenSource.unregister]
  cases held : s.handles.lookup name with
  | none => exact opened.release_idle fun j _ => opened.unnamed name held j
  | some r =>
      obtain ⟨i, last, rfl | ⟨rfl, ended⟩⟩ := opened.named name r held
      · exact opened.release_held last
      · dsimp only
        rw [TokenSource.release_released]
        exact opened.release_idle fun j waits under => ended (under.unique last ▸ waits)

/-! ## From the first cancellation on -/

/-- What a source is like from its cancellation on: nothing waits any more, and the callbacks
that were told are those that the history tells. -/
structure Closed (h : History) (s : TokenSource) : Prop where
  cancelled : s.token.cancelled = true
  listeners : s.token.listeners = []
  told : s.told = h.told.map h.nameAt

/-- Callbacks are told in turn, up to the first that breaks. -/
theorem notifyAll_listeners {is : List Nat} (increasing : is.Pairwise (· < ·)) (s : TokenSource) :
    (s.notifyAll (is.map h.listenerAt)).2 =
      { s with told := s.told ++
          (is.filter fun i => ∀ k ∈ is, k < i → h.breaksAt k = false).map h.nameAt } := by
  induction is generalizing s with
  | nil => simp [TokenSource.notifyAll]
  | cons i rest ih =>
      have later {k : Nat} (hk : k ∈ rest) : i < k := List.rel_of_pairwise_cons increasing hk
      have first : ∀ k ∈ i :: rest, k < i → h.breaksAt k = false := by
        intro k hk before
        rcases List.mem_cons.mp hk with rfl | hk
        · omega
        · have := later hk
          omega
      rw [List.map_cons, TokenSource.notifyAll, List.filter_cons_of_pos (by simpa using first)]
      cases breaks : h.breaksAt i with
      | true =>
          -- Everybody behind the callback that breaks has it in front.
          have silent : rest.filter
              (fun j => ∀ k ∈ i :: rest, k < j → h.breaksAt k = false) = [] := by
            refine List.filter_eq_nil_iff.mpr fun j hj => ?_
            rw [decide_eq_true_eq]
            intro calm
            cases breaks.symm.trans (calm i List.mem_cons_self (later hj))
          rw [silent]
          simp [listenerAt, TokenSource.notify, breaks, TokenSource.tell]
      | false =>
          have same : rest.filter (fun j => ∀ k ∈ i :: rest, k < j → h.breaksAt k = false) =
              rest.filter fun j => ∀ k ∈ rest, k < j → h.breaksAt k = false := by
            refine List.filter_congr fun j _ => ?_
            simp [breaks]
          rw [same]
          simp [listenerAt, TokenSource.notify, Action.runAll, breaks, TokenSource.tell,
            ih (List.Pairwise.of_cons increasing)]

theorem Open.cancel (opened : h.Open s) (quiet : ∀ c, ¬ h.CancelsAt c) :
    Closed (h ++ [.cancel]) (s.perform .cancel).after := by
  have fired : s.token.fire =
      ({ s.token with cancelled := true, listeners := [] }, h.waiting.map h.listenerAt) := by
    simp [Token.fire, opened.uncancelled, opened.listeners, entryAt, Function.comp_def]
  rw [TokenSource.after_cancel opened.uncancelled, TokenSource.cancel, fired]
  dsimp only
  rw [notifyAll_listeners h.waiting_increasing]
  refine ⟨rfl, rfl, ?_⟩
  rw [map_nameAt_told_cancel quiet, opened.told, List.nil_append]

/-- Once it is cancelled, a source does no more than tell those who come later. -/
theorem Closed.perform (closed : h.Closed s) (happened : ∃ c, h.CancelsAt c) {a : Action}
    (plain : a.isPlain = true) : Closed (h ++ [a]) (s.perform a).after := by
  have told := told_snoc (a := a) happened
  have unchanged : a.callback? = none →
      s.told = (History.told (h ++ [a])).map (nameAt (h ++ [a])) := by
    intro registersNone
    rw [told, registersNone]
    simp [map_nameAt_told_snoc, closed.told]
  cases a with
  | register name actions breaks =>
      obtain rfl : actions = [] := List.isEmpty_iff.mp plain
      have grown : s.told ++ [name] = (History.told (h ++ [.register name [] breaks])).map
          (nameAt (h ++ [.register name [] breaks])) := by
        rw [told, closed.told]
        simp [map_nameAt_told_snoc, Action.callback?, nameAt, name?, callback?]
      rw [TokenSource.after_register_cancelled closed.cancelled]
      split <;> exact ⟨closed.cancelled, closed.listeners, grown⟩
  | unregister name =>
      rw [TokenSource.after_unregister, TokenSource.unregister]
      split
      next r _ =>
        have none_waits : (s.token.release r).listeners = [] := by
          cases r <;> simp [Token.release, Token.unregister, closed.listeners]
        exact ⟨(Token.cancelled_release _ r).trans closed.cancelled, none_waits, unchanged rfl⟩
      next => exact ⟨closed.cancelled, closed.listeners, unchanged rfl⟩
  | cancel =>
      rw [TokenSource.after_cancel_cancelled closed.cancelled]
      exact ⟨closed.cancelled, closed.listeners, unchanged rfl⟩
  | dispose =>
      rw [TokenSource.after_dispose]
      exact ⟨closed.cancelled, rfl, unchanged rfl⟩
  | _ => cases plain

/-- Every history leads to one of the two. -/
theorem open_or_closed (plain : ∀ a ∈ h, a.isPlain = true) :
    ((∀ c, ¬ h.CancelsAt c) → h.Open (TokenSource.after h)) ∧
      ((∃ c, h.CancelsAt c) → h.Closed (TokenSource.after h)) := by
  induction h using List.reverseRecOn with
  | nil =>
      have none_named (name : String) (i : Nat) : ¬ LastUnder [] name i := nofun
      exact ⟨fun _ => ⟨rfl, rfl, rfl, fun name _ => none_named name, nofun, rfl⟩, nofun⟩
  | append_singleton h a ih =>
      obtain ⟨openBefore, closedBefore⟩ := ih fun b hb => plain b (by simp [hb])
      have isPlain := plain a (by simp)
      rw [TokenSource.after_snoc]
      constructor
      · intro quiet
        have quietBefore (c : Nat) : ¬ CancelsAt h c :=
          fun cancels => quiet c (cancelsAt_snoc_iff.mpr (.inl cancels))
        have opened := openBefore quietBefore
        cases a with
        | register name actions breaks =>
            obtain rfl : actions = [] := List.isEmpty_iff.mp isPlain
            exact opened.register name breaks
        | unregister name => exact opened.unregister name
        | dispose => exact opened.dispose
        | cancel => exact absurd (cancelsAt_snoc_iff.mpr (.inr ⟨rfl, rfl⟩)) (quiet h.length)
        | _ => cases isPlain
      · rintro ⟨c, cancels⟩
        by_cases happened : ∃ c, CancelsAt h c
        · exact (closedBefore happened).perform happened isPlain
        · rw [not_exists] at happened
          have opened := openBefore happened
          -- The operation itself is the first cancellation.
          have here : a.isCancel = true :=
            ((cancelsAt_snoc_iff.mp cancels).resolve_left (happened c)).2
          cases a with
          | cancel => exact opened.cancel happened
          | _ => cases here

end History

namespace TokenSource

open History

/-- After any history the source is cancelled if and only if some operation cancelled it; the
callbacks told are exactly those that `Tells` says, each once and in the order of registration;
and the listeners are exactly those that wait.  The first cancellation tells those that wait, up
to the first that breaks, later ones do nothing, and releasing a name ends no wait but that of
the registration held under it. -/
theorem after_history (h : History) (plain : ∀ a ∈ h, a.isPlain = true) :
    ((after h).token.cancelled = true ↔ ∃ c, h.CancelsAt c) ∧
    ((after h).told = h.told.map h.nameAt ∧ h.told.Pairwise (· < ·) ∧
      ∀ i, i ∈ h.told ↔ h.Tells i) ∧
    ((∀ c, ¬ h.CancelsAt c) →
      (after h).token.listeners.map Prod.snd = h.waiting.map h.listenerAt ∧
      (after h).token.listenerCount = h.waiting.length ∧ ∀ i, i ∈ h.waiting ↔ h.Waits i) ∧
    ((∃ c, h.CancelsAt c) → (after h).token.listenerCount = 0) ∧
    (∀ early late, h = early ++ .cancel :: late → (∀ c, ¬ CancelsAt early c) →
      (after early).told = [] ∧
      (after (early ++ [.cancel])).told =
        ((waiting early).filter fun i =>
          ∀ k ∈ waiting early, k < i → breaksAt early k = false).map (nameAt early)) ∧
    (∀ early late, h = early ++ .cancel :: late → (∃ c, CancelsAt early c) →
      after (early ++ [.cancel]) = after early) ∧
    (∀ early name late, h = early ++ .unregister name :: late → (∀ c, ¬ CancelsAt early c) →
      (after (early ++ [.unregister name])).token.listeners.map Prod.snd =
        ((waiting early).filter fun i =>
          ¬ Releases (early ++ [.unregister name]) i early.length).map (listenerAt early)) := by
  have opened := (open_or_closed plain).1
  have closed := (open_or_closed plain).2
  -- What holds of every history holds at each of its moments.
  have before {early : History} {a : Action} {late : History} (split : h = early ++ a :: late) :
      (∀ b ∈ early, b.isPlain = true) ∧ ∀ b ∈ early ++ [a], b.isPlain = true := by
    subst split
    exact ⟨fun b hb => plain b (by simp [hb]), fun b hb => plain b (by grind)⟩
  refine ⟨?_, ⟨?_, List.pairwise_lt_range.filter _, fun i => mem_told⟩, fun quiet => ?_,
    fun happened => ?_, fun early late split quiet => ?_, fun early late split happened => ?_,
    fun early name late split quiet => ?_⟩
  · by_cases happened : ∃ c, h.CancelsAt c
    · exact iff_of_true (closed happened).cancelled happened
    · have uncancelled := (opened (not_exists.mp happened)).uncancelled
      exact iff_of_false (by simp [uncancelled]) happened
  · by_cases happened : ∃ c, h.CancelsAt c
    · exact (closed happened).told
    · rw [told_of_quiet (not_exists.mp happened)]
      exact (opened (not_exists.mp happened)).told
  · have listeners := (opened quiet).listeners
    refine ⟨?_, ?_, fun i => mem_waiting⟩
    · rw [listeners, List.map_map]
      rfl
    · rw [Token.listenerCount, listeners, List.length_map]
  · rw [Token.listenerCount, (closed happened).listeners]
    rfl
  · have opened := (open_or_closed (before split).1).1 quiet
    refine ⟨opened.told, ?_⟩
    rw [after_snoc, (opened.cancel quiet).told, map_nameAt_told_cancel quiet]
  · have closed := (open_or_closed (before split).1).2 happened
    rw [after_snoc, after_cancel_cancelled closed.cancelled]
  · have opened := (open_or_closed (before split).1).1 quiet
    rw [after_snoc, (opened.unregister name).listeners, waiting_unregister,
      map_entryAt_snoc fun i hi => mem_waiting.mp (List.mem_filter.mp hi).1, List.map_map]
    rfl

theorem after_history_mixed :
    let h : History :=
      [.register "a" [] false, .register "b" [] false, .unregister "a", .register "c" [] true,
        .register "d" [] false, .cancel, .register "e" [] false, .cancel, .unregister "d"]
    (∀ a ∈ h, a.isPlain = true) ∧ (after h).told = ["b", "c", "e"] ∧
      (after h).token.listenerCount = 0 := by
  intro h
  have plain : ∀ a ∈ h, a.isPlain = true := by decide
  obtain ⟨-, ⟨told, -⟩, -, none_waits, -⟩ := after_history h plain
  have ran : h.told.map h.nameAt = ["b", "c", "e"] := by decide
  exact ⟨plain, told.trans ran, none_waits ⟨5, by decide⟩⟩

/-- A callback that breaks keeps those behind it from being told, although they wait. -/
theorem broken_callback_silences :
    let h : History := [.register "a" [] true, .register "b" [] false, .cancel]
    h.FirstCancel 2 ∧ Waits (h.take 2) 1 ∧ h.nameAt 1 = "b" ∧ "b" ∉ (after h).told := by
  decide

end TokenSource

end RefNav
