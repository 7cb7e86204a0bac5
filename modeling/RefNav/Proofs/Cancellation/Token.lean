import RefNav.Cancellation.Token

/-! # Tokens as their operations make them

Keys are handed out in increasing order, so a registration that is released
again leaves the other listeners as they were.
-/

namespace RefNav.Token

variable {β : Type} {t : Token β}

/-- A token that came about by its own operations. -/
inductive Made : Token β → Prop where
  | new : Made {}
  | register {t : Token β} (listener : β) : Made t → Made (t.register listener).1
  | release {t : Token β} (r : Registration) : Made t → Made (t.release r)
  | fire {t : Token β} : Made t → Made t.fire.1
  | clear {t : Token β} : Made t → Made t.clear

/-- Every listener that waits has a key that was handed out before. -/
def Fresh (t : Token β) : Prop :=
  ∀ l ∈ t.listeners, l.1 < t.next

theorem Fresh.register (h : t.Fresh) (listener : β) : (t.register listener).1.Fresh := by
  unfold Token.register
  split
  · exact h
  · intro l hl
    rcases List.mem_append.mp hl with old | new
    · exact Nat.lt_succ_of_lt (h l old)
    · rw [List.mem_singleton.mp new]
      exact Nat.lt_succ_self t.next

theorem Fresh.release (h : t.Fresh) (r : Registration) : (t.release r).Fresh := by
  cases r with
  | held key => exact fun l hl => h l (mem_listeners_unregister.mp hl).1
  | released => exact h

theorem Fresh.fire (h : t.Fresh) : t.fire.1.Fresh := by
  unfold Token.fire
  split
  · exact h
  · simp [Fresh]

theorem Made.fresh (h : t.Made) : t.Fresh := by
  induction h with
  | new => simp [Fresh]
  | register listener _ ih => exact ih.register listener
  | release r _ ih => exact ih.release r
  | fire _ ih => exact ih.fire
  | clear _ _ => simp [Fresh, Token.clear]

/-- A registration takes exactly its own listener with it when it is released. -/
theorem listeners_release_register (h : t.Fresh) (listener : β) :
    ((t.register listener).1.release (t.register listener).2).listeners = t.listeners := by
  unfold Token.register
  split
  · rfl
  · have others : t.listeners.filter (fun l => decide (l.1 ≠ t.next)) = t.listeners :=
      List.filter_eq_self.mpr fun l hl => by simpa using Nat.ne_of_lt (h l hl)
    simpa [release, unregister, List.filter_append] using others

/-- Cancelling takes listeners away only where there are some to be told. -/
theorem listenerCount_fire (kept : t.listeners = [] ∨ t.cancelled = true) :
    t.fire.1.listenerCount = t.listenerCount := by
  unfold Token.fire listenerCount
  rcases kept with nobody | cancelled
  · split <;> simp [nobody]
  · rw [if_pos cancelled]

end RefNav.Token
