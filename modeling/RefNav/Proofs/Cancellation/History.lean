import Mathlib.Data.List.Basic
import RefNav.Cancellation.TokenSource

/-! # Histories of a token source

A caller registers callbacks, releases registrations, cancels the source and disposes of it, in
any order and any number of times.  What the source has done after such a history can be read off
the history alone: which callbacks were told, in which order, and which ones still wait.
Callbacks here leave the token alone, but they may break.
-/

namespace RefNav

namespace Action

/-- One of the four operations of a caller, with a callback that leaves the token alone. -/
def isPlain : Action → Bool
  | .register _ actions _ => actions.isEmpty
  | .unregister _ => true
  | .cancel => true
  | .dispose => true
  | _ => false

/-- The callback that the operation registers: its name, and whether it breaks. -/
def callback? : Action → Option (String × Bool)
  | .register name _ breaks => some (name, breaks)
  | _ => none

/-- The name whose registration the operation releases. -/
def released? : Action → Option String
  | .unregister name => some name
  | _ => none

/-- Does the operation cancel the source? -/
def isCancel : Action → Bool
  | .cancel => true
  | _ => false

/-- Does the operation dispose of the source? -/
def isDispose : Action → Bool
  | .dispose => true
  | _ => false

end Action

/-- The operations on a token source, in order.  A registration is known by the position of the
operation that makes it. -/
abbrev History := List Action

namespace History

variable (h : History)

/-- The callback that operation `i` registers. -/
def callback? (i : Nat) : Option (String × Bool) :=
  h[i]?.bind Action.callback?

/-- The name under which operation `i` registers a callback. -/
def name? (i : Nat) : Option String :=
  (h.callback? i).map Prod.fst

/-- The name under which operation `i` registers a callback, if it does. -/
def nameAt (i : Nat) : String :=
  (h.name? i).getD ""

/-- Does operation `i` register a callback that breaks? -/
def breaksAt (i : Nat) : Bool :=
  (h.callback? i).any Prod.snd

/-- Operation `i` cancels the source. -/
def CancelsAt (i : Nat) : Prop :=
  h[i]?.any Action.isCancel = true

/-- Operation `c` is the first that cancels the source. -/
def FirstCancel (c : Nat) : Prop :=
  h.CancelsAt c ∧ ∀ j < c, ¬ h.CancelsAt j

/-- Operation `j` disposes of the source. -/
def DisposesAt (j : Nat) : Prop :=
  h[j]?.any Action.isDispose = true

/-- Operation `j` releases the registration that operation `i` made: it releases the name, and
nothing was registered under it in between. -/
def Releases (i j : Nat) : Prop :=
  i < j ∧ (h.name? i).isSome = true ∧ h[j]?.bind Action.released? = h.name? i ∧
    ∀ k < j, i < k → h.name? k ≠ h.name? i

/-- Operation `i` registered a callback, which was neither released nor cleared since. -/
def Waits (i : Nat) : Prop :=
  (h.name? i).isSome = true ∧
    ∀ j < h.length, i < j → ¬ h.DisposesAt j ∧ ¬ h.Releases i j

/-- The callback of registration `i` is told: it was registered after a cancellation; or it
waited at the first cancellation, and no callback that waited longer breaks. -/
def Tells (i : Nat) : Prop :=
  (h.name? i).isSome = true ∧
    ((∃ c < i, h.CancelsAt c) ∨
      ∃ c < h.length, h.FirstCancel c ∧ Waits (h.take c) i ∧
        ∀ k < i, Waits (h.take c) k → h.breaksAt k = false)

instance (i : Nat) : Decidable (h.CancelsAt i) :=
  inferInstanceAs (Decidable (_ = _))

instance (c : Nat) : Decidable (h.FirstCancel c) :=
  inferInstanceAs (Decidable (_ ∧ _))

instance (j : Nat) : Decidable (h.DisposesAt j) :=
  inferInstanceAs (Decidable (_ = _))

instance (i j : Nat) : Decidable (h.Releases i j) :=
  inferInstanceAs (Decidable (_ ∧ _))

instance (i : Nat) : Decidable (h.Waits i) :=
  inferInstanceAs (Decidable (_ ∧ _))

instance (i : Nat) : Decidable (h.Tells i) :=
  inferInstanceAs (Decidable (_ ∧ _))

/-- The registrations that wait, in order. -/
def waiting : List Nat :=
  (List.range h.length).filter fun i => h.Waits i

/-- The registrations whose callbacks are told, in order. -/
def told : List Nat :=
  (List.range h.length).filter fun i => h.Tells i

/-! ## One more operation -/

section Snoc

variable {h} {a : Action} {i j : Nat}

theorem lt_length_of_name? (registers : (h.name? i).isSome = true) : i < h.length := by
  by_contra beyond
  simp [name?, callback?, List.getElem?_eq_none (Nat.le_of_not_lt beyond)] at registers

theorem callback?_snoc (hi : i < h.length) : callback? (h ++ [a]) i = h.callback? i := by
  rw [callback?, List.getElem?_append_left hi]
  rfl

theorem callback?_snoc_self (h : History) (a : Action) :
    callback? (h ++ [a]) h.length = a.callback? := by
  simp [callback?]

theorem name?_snoc (hi : i < h.length) : name? (h ++ [a]) i = h.name? i := by
  rw [name?, callback?_snoc hi]
  rfl

theorem nameAt_snoc (hi : i < h.length) : nameAt (h ++ [a]) i = h.nameAt i := by
  rw [nameAt, name?_snoc hi]
  rfl

theorem breaksAt_snoc (hi : i < h.length) : breaksAt (h ++ [a]) i = h.breaksAt i := by
  rw [breaksAt, callback?_snoc hi]
  rfl

theorem cancelsAt_snoc (hi : i < h.length) : CancelsAt (h ++ [a]) i ↔ h.CancelsAt i := by
  rw [CancelsAt, List.getElem?_append_left hi]
  rfl

theorem lt_length_of_cancelsAt (cancels : h.CancelsAt i) : i < h.length := by
  by_contra beyond
  simp [CancelsAt, List.getElem?_eq_none (Nat.le_of_not_lt beyond)] at cancels

theorem cancelsAt_snoc_iff :
    CancelsAt (h ++ [a]) i ↔ h.CancelsAt i ∨ i = h.length ∧ a.isCancel = true := by
  rcases Nat.lt_trichotomy i h.length with inside | rfl | beyond
  · rw [cancelsAt_snoc inside]
    exact (or_iff_left fun here => Nat.ne_of_lt inside here.1).symm
  · simp [CancelsAt]
  · refine iff_of_false (fun cancels => ?_) ?_
    · have := lt_length_of_cancelsAt cancels
      rw [List.length_append, List.length_singleton] at this
      omega
    · rintro (cancels | ⟨rfl, -⟩)
      · exact Nat.lt_asymm beyond (lt_length_of_cancelsAt cancels)
      · exact Nat.lt_irrefl _ beyond

/-- Operation `i` made the registration that is held under a name. -/
def LastUnder (h : History) (name : String) (i : Nat) : Prop :=
  h.name? i = some name ∧ ∀ k, i < k → h.name? k ≠ some name

theorem releases_snoc (hj : j < h.length) : Releases (h ++ [a]) i j ↔ h.Releases i j := by
  unfold Releases
  rw [List.getElem?_append_left hj]
  refine and_congr_right fun before => ?_
  rw [name?_snoc (Nat.lt_trans before hj)]
  refine and_congr_right fun _ => and_congr_right fun _ => forall₂_congr fun k hk => ?_
  rw [name?_snoc (Nat.lt_trans hk hj)]

theorem releases_snoc_self (hi : i < h.length) :
    Releases (h ++ [a]) i h.length ↔ ∃ name, a.released? = some name ∧ h.LastUnder name i := by
  unfold Releases LastUnder
  rw [List.getElem?_append_right (Nat.le_refl _), Nat.sub_self, List.getElem?_cons_zero,
    Option.bind_some, name?_snoc hi]
  constructor
  · rintro ⟨-, registers, same, later⟩
    obtain ⟨name, named⟩ := Option.isSome_iff_exists.mp registers
    refine ⟨name, same.trans named, named, fun k hk again => ?_⟩
    have inside := lt_length_of_name? (Option.isSome_iff_exists.mpr ⟨name, again⟩)
    apply later k inside hk
    rw [name?_snoc inside, again, named]
  · rintro ⟨name, released, named, last⟩
    refine ⟨hi, by simp [named], released.trans named.symm, fun k hk after same => ?_⟩
    rw [name?_snoc hk, named] at same
    exact last k after same

/-- What an operation ends: disposing ends every wait, releasing a name that of the registration
held under it. -/
theorem waits_snoc (hi : i < h.length) :
    Waits (h ++ [a]) i ↔ h.Waits i ∧ a.isDispose = false ∧
      ∀ name, a.released? = some name → ¬ h.LastUnder name i := by
  have here : DisposesAt (h ++ [a]) h.length ↔ a.isDispose = true := by simp [DisposesAt]
  have before {j : Nat} (hj : j < h.length) : DisposesAt (h ++ [a]) j ↔ h.DisposesAt j := by
    rw [DisposesAt, List.getElem?_append_left hj]
    rfl
  unfold Waits
  rw [name?_snoc hi, and_assoc]
  refine and_congr_right fun _ =>
    ⟨fun kept => ⟨fun j hj after => ?_, ?_, fun name frees last => ?_⟩, ?_⟩
  · have := kept j (by simp; omega) after
    rwa [before hj, releases_snoc hj] at this
  · have := (kept h.length (by simp) hi).1
    rwa [here, Bool.not_eq_true] at this
  · exact (kept h.length (by simp) hi).2 ((releases_snoc_self hi).mpr ⟨name, frees, last⟩)
  · rintro ⟨kept, stays, notFreed⟩ j hj after
    rw [List.length_append, List.length_singleton] at hj
    rcases Nat.lt_succ_iff_lt_or_eq.mp hj with early | rfl
    · rw [before early, releases_snoc early]
      exact kept j early after
    · rw [here, releases_snoc_self hi, stays]
      exact ⟨Bool.false_ne_true, fun ⟨name, frees, last⟩ => notFreed name frees last⟩

theorem waits_snoc_self (h : History) (a : Action) :
    Waits (h ++ [a]) h.length ↔ a.callback?.isSome = true := by
  have none_after : ∀ j < (h ++ [a]).length, h.length < j →
      ¬ DisposesAt (h ++ [a]) j ∧ ¬ Releases (h ++ [a]) h.length j := by
    intro j hj after
    rw [List.length_append, List.length_singleton] at hj
    omega
  unfold Waits
  rw [name?, callback?_snoc_self, Option.isSome_map]
  exact and_iff_left none_after

theorem waiting_snoc (h : History) (a : Action) :
    waiting (h ++ [a]) = (h.waiting.filter fun i => Waits (h ++ [a]) i) ++
      if a.callback?.isSome then [h.length] else [] := by
  have earlier : (List.range h.length).filter (fun i => Waits (h ++ [a]) i) =
      h.waiting.filter fun i => Waits (h ++ [a]) i := by
    rw [waiting, List.filter_filter]
    refine List.filter_congr fun i hi => ?_
    have hi := List.mem_range.mp hi
    rw [Bool.eq_iff_iff]
    simp only [Bool.and_eq_true, decide_eq_true_eq]
    exact ⟨fun waits => ⟨waits, ((waits_snoc hi).mp waits).1⟩, And.left⟩
  rw [waiting, List.length_append, List.length_singleton, List.range_succ, List.filter_append,
    earlier, List.filter_singleton]
  simp only [waits_snoc_self, Bool.cond_decide]

theorem mem_waiting : i ∈ h.waiting ↔ h.Waits i := by
  rw [waiting, List.mem_filter, List.mem_range, decide_eq_true_eq]
  exact and_iff_right_of_imp fun waits => lt_length_of_name? waits.1

theorem waiting_increasing (h : History) : h.waiting.Pairwise (· < ·) :=
  List.pairwise_lt_range.filter _

theorem LastUnder.registers {name : String} (last : h.LastUnder name i) :
    (h.name? i).isSome = true :=
  Option.isSome_iff_exists.mpr ⟨name, last.1⟩

theorem LastUnder.unique {name : String} (hi : h.LastUnder name i) (hj : h.LastUnder name j) :
    i = j := by
  rcases Nat.lt_trichotomy i j with before | equal | after
  · exact absurd hj.1 (hi.2 j before)
  · exact equal
  · exact absurd hi.1 (hj.2 i after)

theorem lastUnder_snoc_self {name : String}
    (registers : a.callback?.map Prod.fst = some name) : LastUnder (h ++ [a]) name h.length := by
  refine ⟨by rw [name?, callback?_snoc_self, registers], fun k after again => ?_⟩
  have inside := lt_length_of_name? (Option.isSome_iff_exists.mpr ⟨name, again⟩)
  rw [List.length_append, List.length_singleton] at inside
  omega

theorem lastUnder_snoc {name : String}
    (differs : a.callback?.map Prod.fst ≠ some name) :
    LastUnder (h ++ [a]) name i ↔ h.LastUnder name i := by
  have same (k : Nat) : name? (h ++ [a]) k = some name ↔ h.name? k = some name := by
    rcases Nat.lt_trichotomy k h.length with inside | rfl | beyond
    · rw [name?_snoc inside]
    · rw [name?, callback?_snoc_self]
      simp [differs, name?, callback?]
    · have beyond' : (h ++ [a]).length ≤ k := by
        rw [List.length_append, List.length_singleton]
        exact beyond
      simp [name?, callback?, List.getElem?_eq_none beyond',
        List.getElem?_eq_none (Nat.le_of_lt beyond)]
  unfold LastUnder
  simp only [same, ne_eq]

theorem waits_unregister {name : String} (waits : h.Waits i) :
    Waits (h ++ [.unregister name]) i ↔ ¬ h.LastUnder name i := by
  rw [waits_snoc (lt_length_of_name? waits.1)]
  simp [waits, Action.isDispose, Action.released?]

theorem waiting_unregister (h : History) (name : String) :
    waiting (h ++ [.unregister name]) =
      h.waiting.filter fun i => ¬ Releases (h ++ [.unregister name]) i h.length := by
  rw [waiting_snoc]
  refine (List.append_nil _).trans (List.filter_congr fun i hi => ?_)
  have waits := mem_waiting.mp hi
  rw [decide_eq_decide, waits_unregister waits, releases_snoc_self (lt_length_of_name? waits.1)]
  simp [Action.released?]

theorem LastUnder.ended {name : String} (last : h.LastUnder name i) :
    ¬ Waits (h ++ [.unregister name]) i := by
  rw [waits_snoc (lt_length_of_name? last.registers)]
  exact fun waits => waits.2.2 name rfl last

/-! ## Keys -/

/-- The key of the registration that operation `i` makes: how many were made before it. -/
def keyAt (h : History) (i : Nat) : Nat :=
  (h.take i).countP fun a => a.callback?.isSome

theorem keyAt_snoc (hi : i ≤ h.length) : keyAt (h ++ [a]) i = h.keyAt i := by
  rw [keyAt, List.take_append_of_le_length hi]
  rfl

theorem keyAt_lt (registers : (h.name? i).isSome = true) (before : i < j) :
    h.keyAt i < h.keyAt j := by
  have inside := lt_length_of_name? registers
  have counted : (h.take (i + 1)).countP (fun a => a.callback?.isSome) = h.keyAt i + 1 := by
    have here : h[i].callback?.isSome = true := by
      simpa [name?, callback?, List.getElem?_eq_getElem inside] using registers
    rw [List.take_succ_eq_append_getElem inside, List.countP_append, List.countP_singleton,
      if_pos here]
    rfl
  have prefixes : (h.take (i + 1)).Sublist (h.take j) := List.take_sublist_take_left before
  have := prefixes.countP_le (p := fun a => a.callback?.isSome)
  unfold keyAt at counted ⊢
  omega

theorem eq_of_keyAt_eq (first : (h.name? i).isSome = true) (second : (h.name? j).isSome = true)
    (same : h.keyAt i = h.keyAt j) : i = j := by
  rcases Nat.lt_trichotomy i j with before | equal | after
  · exact absurd same (Nat.ne_of_lt (keyAt_lt first before))
  · exact equal
  · exact absurd same (Nat.ne_of_gt (keyAt_lt second after))

theorem keyAt_length (h : History) : h.keyAt h.length = h.countP fun a => a.callback?.isSome := by
  rw [keyAt, List.take_length]

/-! ## Who is told -/

theorem FirstCancel.le {c : Nat} (first : h.FirstCancel c) (cancels : h.CancelsAt i) : c ≤ i :=
  Nat.le_of_not_lt fun before => first.2 i before cancels

theorem firstCancel_snoc {c : Nat} (hc : c < h.length) :
    FirstCancel (h ++ [a]) c ↔ h.FirstCancel c := by
  unfold FirstCancel
  rw [cancelsAt_snoc hc]
  refine and_congr_right fun _ => forall₂_congr fun j hj => ?_
  rw [cancelsAt_snoc (Nat.lt_trans hj hc)]

theorem tells_snoc (happened : ∃ c, h.CancelsAt c) (hi : i < h.length) :
    Tells (h ++ [a]) i ↔ h.Tells i := by
  obtain ⟨c, cancels⟩ := happened
  have inside := lt_length_of_cancelsAt cancels
  have early : (∃ c < i, CancelsAt (h ++ [a]) c) ↔ ∃ c < i, h.CancelsAt c :=
    exists_congr fun c => and_congr_right fun hc => cancelsAt_snoc (Nat.lt_trans hc hi)
  have breaks (k : Nat) (hk : k < i) : breaksAt (h ++ [a]) k = h.breaksAt k :=
    breaksAt_snoc (Nat.lt_trans hk hi)
  unfold Tells
  rw [name?_snoc hi, early]
  refine and_congr_right fun _ => or_congr_right ⟨?_, ?_⟩
  · rintro ⟨d, -, first, waits, none_breaks⟩
    have hd : d < h.length :=
      Nat.lt_of_le_of_lt (first.le ((cancelsAt_snoc inside).mpr cancels)) inside
    rw [List.take_append_of_le_length (Nat.le_of_lt hd)] at waits none_breaks
    exact ⟨d, hd, (firstCancel_snoc hd).mp first, waits, fun k hk older =>
      breaks k hk ▸ none_breaks k hk older⟩
  · rintro ⟨d, hd, first, waits, none_breaks⟩
    refine ⟨d, by simp; omega, (firstCancel_snoc hd).mpr first, ?_⟩
    rw [List.take_append_of_le_length (Nat.le_of_lt hd)]
    exact ⟨waits, fun k hk older => (breaks k hk).trans (none_breaks k hk older)⟩

theorem told_snoc (happened : ∃ c, h.CancelsAt c) :
    History.told (h ++ [a]) = h.told ++ if a.callback?.isSome then [h.length] else [] := by
  have earlier : (List.range h.length).filter (fun i => Tells (h ++ [a]) i) = h.told :=
    List.filter_congr fun i hi => by simp [tells_snoc happened (List.mem_range.mp hi)]
  have here : Tells (h ++ [a]) h.length ↔ a.callback?.isSome = true := by
    obtain ⟨c, cancels⟩ := happened
    have inside := lt_length_of_cancelsAt cancels
    unfold Tells
    rw [name?, callback?_snoc_self, Option.isSome_map]
    exact and_iff_left (.inl ⟨c, inside, (cancelsAt_snoc inside).mpr cancels⟩)
  rw [History.told, List.length_append, List.length_singleton, List.range_succ, List.filter_append,
    earlier, List.filter_singleton]
  simp only [here, Bool.cond_decide]

theorem told_snoc_cancel (quiet : ∀ c, ¬ h.CancelsAt c) :
    History.told (h ++ [.cancel]) =
      h.waiting.filter fun i => ∀ k ∈ h.waiting, k < i → h.breaksAt k = false := by
  have first : FirstCancel (h ++ [.cancel]) h.length :=
    ⟨cancelsAt_snoc_iff.mpr (.inr ⟨rfl, rfl⟩), fun j hj => by
      rw [cancelsAt_snoc hj]
      exact quiet j⟩
  have unique {c : Nat} (other : FirstCancel (h ++ [.cancel]) c) : c = h.length :=
    Nat.le_antisymm (other.le first.1) (first.le other.1)
  have tells {i : Nat} (hi : i < h.length) : Tells (h ++ [.cancel]) i ↔
      h.Waits i ∧ ∀ k ∈ h.waiting, k < i → h.breaksAt k = false := by
    unfold Tells
    rw [name?_snoc hi]
    constructor
    · rintro ⟨-, ⟨c, hc, cancels⟩ | ⟨c, -, other, waits, none_breaks⟩⟩
      · exact absurd ((cancelsAt_snoc (Nat.lt_trans hc hi)).mp cancels) (quiet c)
      · rw [unique other, List.take_left] at waits none_breaks
        refine ⟨waits, fun k older before => ?_⟩
        rw [← breaksAt_snoc (a := .cancel) (Nat.lt_trans before hi)]
        exact none_breaks k before (mem_waiting.mp older)
    · rintro ⟨waits, none_breaks⟩
      refine ⟨waits.1, .inr ⟨h.length, by simp, first, ?_⟩⟩
      rw [List.take_left]
      refine ⟨waits, fun k before older => ?_⟩
      rw [breaksAt_snoc (Nat.lt_trans before hi)]
      exact none_breaks k (mem_waiting.mpr older) before
  have here : ¬ Tells (h ++ [.cancel]) h.length := by
    rintro ⟨registers, -⟩
    rw [name?, callback?_snoc_self] at registers
    cases registers
  rw [History.told, List.length_append, List.length_singleton, List.range_succ, List.filter_append,
    List.filter_singleton, decide_eq_false here, cond_false, List.append_nil]
  refine Eq.trans (List.filter_congr fun i hi => ?_) List.filter_filter.symm
  rw [Bool.eq_iff_iff, Bool.and_eq_true, decide_eq_true_eq, decide_eq_true_eq, decide_eq_true_eq,
    tells (List.mem_range.mp hi)]
  exact And.comm

theorem told_of_quiet (quiet : ∀ c, ¬ h.CancelsAt c) : h.told = [] := by
  refine List.filter_eq_nil_iff.mpr fun i _ => ?_
  rw [decide_eq_true_eq]
  rintro ⟨-, ⟨c, -, cancels⟩ | ⟨c, -, first, -⟩⟩
  · exact quiet c cancels
  · exact quiet c first.1

theorem map_nameAt_told_cancel (quiet : ∀ c, ¬ h.CancelsAt c) :
    (History.told (h ++ [.cancel])).map (nameAt (h ++ [.cancel])) =
      (h.waiting.filter fun i => ∀ k ∈ h.waiting, k < i → h.breaksAt k = false).map h.nameAt := by
  rw [told_snoc_cancel quiet]
  refine List.map_congr_left fun i hi => nameAt_snoc ?_
  exact lt_length_of_name? (mem_waiting.mp (List.mem_filter.mp hi).1).1

theorem map_nameAt_told_snoc (h : History) (a : Action) :
    h.told.map (nameAt (h ++ [a])) = h.told.map h.nameAt :=
  List.map_congr_left fun _ hi => nameAt_snoc (List.mem_range.mp (List.mem_filter.mp hi).1)

theorem mem_told : i ∈ h.told ↔ h.Tells i := by
  rw [History.told, List.mem_filter, List.mem_range, decide_eq_true_eq]
  exact and_iff_right_of_imp fun tells => lt_length_of_name? tells.1

end Snoc

end History

end RefNav
