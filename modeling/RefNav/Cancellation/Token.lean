/-! # Cancellation tokens

A token is cancelled at most once.  Listeners registered before that are told,
in the order of their registration, and forgotten; a listener that comes later
is told at once.  `β` is what a listener wants to have done.
-/

namespace RefNav

/-- The state of a cancellation token. -/
structure Token (β : Type) where
  cancelled : Bool := false
  /-- The key of the next registration. -/
  next : Nat := 0
  /-- The listeners that wait, in the order of their registration. -/
  listeners : List (Nat × β) := []
deriving Repr, DecidableEq

/-- The handle of a registration. -/
inductive Registration where
  /-- Not released yet. -/
  | held (key : Nat)
  /-- Released, or never needed because the token was cancelled before. -/
  | released
deriving Repr, DecidableEq

namespace Token

variable {β : Type}

/-- Add a listener to a token that is not cancelled.  On a cancelled token nothing
is added: the caller runs the listener at once. -/
def register (t : Token β) (listener : β) : Token β × Registration :=
  if t.cancelled then (t, .released)
  else
    ({ t with next := t.next + 1, listeners := t.listeners ++ [(t.next, listener)] },
      .held t.next)

/-- Forget the listener with a key. -/
def unregister (t : Token β) (key : Nat) : Token β :=
  { t with listeners := t.listeners.filter fun l => l.1 ≠ key }

/-- Release a registration. -/
def release (t : Token β) : Registration → Token β
  | .held key => t.unregister key
  | .released => t

/-- Cancel the token.  The first time this yields the listeners to run, later on
none. -/
def fire (t : Token β) : Token β × List β :=
  if t.cancelled then (t, [])
  else ({ t with cancelled := true, listeners := [] }, t.listeners.map (·.2))

/-- Forget all listeners. -/
def clear (t : Token β) : Token β :=
  { t with listeners := [] }

/-- The number of listeners that wait. -/
def listenerCount (t : Token β) : Nat :=
  t.listeners.length

@[simp]
theorem cancelled_fire (t : Token β) : t.fire.1.cancelled = true := by
  by_cases h : t.cancelled = true <;> simp [fire, h]

@[simp]
theorem cancelled_release (t : Token β) (r : Registration) :
    (t.release r).cancelled = t.cancelled := by
  cases r <;> rfl

/-- Releasing a registration leaves the listeners with other keys alone. -/
theorem mem_listeners_unregister {t : Token β} {key : Nat} {l : Nat × β} :
    l ∈ (t.unregister key).listeners ↔ l ∈ t.listeners ∧ l.1 ≠ key := by
  simp [unregister]

end Token

end RefNav
