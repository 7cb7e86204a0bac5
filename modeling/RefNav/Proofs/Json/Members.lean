import Mathlib.Data.List.Basic
import RefNav.Json.Value

/-! # Members with distinct keys

Members with distinct keys are determined by the order of their keys and the value of each.
Merging one list of members into another is associative, and merging twice is merging once,
down to the order of the keys.
-/

namespace RefNav.Members

/-- The keys, in order. -/
def keys (members : Members) : List String :=
  members.map Prod.fst

/-- No key stands twice. -/
def Distinct (members : Members) : Prop :=
  members.keys.Nodup

instance (members : Members) : Decidable members.Distinct :=
  inferInstanceAs (Decidable (List.Nodup _))

theorem distinct_nil : Distinct [] :=
  List.nodup_nil

variable {key other : String} {v : Json} {m n : Members}

theorem get?_eq_none_iff : get? key m = none ↔ key ∉ m.keys := by
  induction m with
  | nil => simp [get?, keys]
  | cons p rest ih =>
      by_cases here : p.1 = key
      · simp [get?, keys, here]
      · simpa [get?, keys, here, Ne.symm here] using ih

theorem mem_of_get? (h : get? key m = some v) : (key, v) ∈ m := by
  induction m with
  | nil => cases h
  | cons p rest ih =>
      by_cases here : p.1 = key
      · simp only [get?, here, if_true, Option.some.injEq] at h
        subst here h
        exact List.mem_cons_self
      · simp only [get?, here, if_false] at h
        exact List.mem_cons_of_mem _ (ih h)

theorem get?_of_mem (distinct : m.Distinct) (h : (key, v) ∈ m) : get? key m = some v := by
  induction m with
  | nil => cases h
  | cons p rest ih =>
      obtain ⟨fresh, distinct⟩ := List.nodup_cons.mp distinct
      rcases List.mem_cons.mp h with rfl | later
      · simp [get?]
      · have differs : p.1 ≠ key := fun same => fresh (same ▸ List.mem_map_of_mem later)
        simp only [get?, differs, if_false]
        exact ih distinct later

/-- A key that is not in front is given its value behind. -/
theorem set_append (h : key ∉ m.keys) (v : Json) (n : Members) :
    set key v (m ++ n) = m ++ set key v n := by
  induction m with
  | nil => rfl
  | cons p rest ih =>
      obtain ⟨other, fresh⟩ := not_or.mp (mt List.mem_cons.mpr h)
      simp only [List.cons_append, set, Ne.symm other, if_false, ih fresh]

/-- Members with distinct keys are determined by the order of the keys and their values. -/
theorem ext (distinct : m.Distinct) (distinct' : n.Distinct) (sameKeys : m.keys = n.keys)
    (sameValues : ∀ key, get? key m = get? key n) : m = n := by
  induction m generalizing n with
  | nil =>
      cases n with
      | nil => rfl
      | cons q others => cases sameKeys
  | cons p rest ih =>
      cases n with
      | nil => cases sameKeys
      | cons q others =>
          obtain ⟨firstKey, laterKeys⟩ := List.cons.inj sameKeys
          obtain ⟨fresh, distinct⟩ := List.nodup_cons.mp distinct
          obtain ⟨fresh', distinct'⟩ := List.nodup_cons.mp distinct'
          have first : p.2 = q.2 := by
            have here := sameValues p.1
            simpa [get?, firstKey] using here
          refine List.cons_eq_cons.mpr ⟨Prod.ext firstKey first, ih distinct distinct' laterKeys ?_⟩
          intro key
          by_cases same : p.1 = key
          · -- Neither rest has the key of the first member.
            rw [get?_eq_none_iff.mpr (same ▸ fresh),
              get?_eq_none_iff.mpr (same ▸ firstKey.symm ▸ fresh')]
          · have later := sameValues key
            simpa [get?, same, ← firstKey] using later

/-! ## Setting -/

theorem mem_keys_set : other ∈ (set key v m).keys ↔ other = key ∨ other ∈ m.keys := by
  rw [← not_iff_not, ← get?_eq_none_iff, not_or, ← get?_eq_none_iff]
  by_cases same : other = key
  · simp [same]
  · simp [same, get?_set_of_ne same]

theorem keys_set (key : String) (v : Json) (m : Members) :
    (set key v m).keys = if key ∈ m.keys then m.keys else m.keys ++ [key] := by
  induction m with
  | nil => simp [set, keys]
  | cons p rest ih =>
      by_cases here : p.1 = key
      · simp [set, keys, here]
      · have step : keys (set key v (p :: rest)) = p.1 :: keys (set key v rest) := by
          simp [set, keys, here]
        have known : key ∈ keys (p :: rest) ↔ key ∈ keys rest := by
          simp [keys, Ne.symm here]
        rw [step, ih]
        simp only [known]
        split <;> rfl

theorem Distinct.set (distinct : m.Distinct) (key : String) (v : Json) :
    (Members.set key v m).Distinct := by
  unfold Distinct
  rw [keys_set]
  split
  · exact distinct
  next fresh =>
    refine List.nodup_append.mpr ⟨distinct, by simp, fun known hk new hn => ?_⟩
    rw [List.mem_singleton.mp hn]
    exact fun same => fresh (same ▸ hk)

theorem mem_set {p : String × Json} (h : p ∈ set key v m) : p = (key, v) ∨ p ∈ m := by
  induction m with
  | nil => exact .inl (List.mem_singleton.mp h)
  | cons q rest ih =>
      by_cases here : q.1 = key
      · simp only [set, here, if_true] at h
        exact (List.mem_cons.mp h).imp_right (List.mem_cons_of_mem q)
      · simp only [set, here, if_false] at h
        rcases List.mem_cons.mp h with rfl | later
        · exact .inr List.mem_cons_self
        · exact (ih later).imp_right (List.mem_cons_of_mem q)

/-! ## Merging -/

theorem merge_cons (m : Members) (p : String × Json) (n : Members) :
    merge m (p :: n) = merge (set p.1 p.2 m) n := rfl

theorem Distinct.merge (distinct : m.Distinct) (n : Members) : (Members.merge m n).Distinct := by
  induction n generalizing m with
  | nil => exact distinct
  | cons p rest ih => exact ih (distinct.set p.1 p.2)

theorem keys_merge (m : Members) {n : Members} (distinct : n.Distinct) :
    (merge m n).keys = m.keys ++ n.keys.filter fun key => key ∉ m.keys := by
  induction n generalizing m with
  | nil => simp [merge, keys]
  | cons p rest ih =>
      obtain ⟨fresh, distinct⟩ := List.nodup_cons.mp distinct
      have later : (keys rest).filter (fun key => key ∉ (set p.1 p.2 m).keys) =
          (keys rest).filter fun key => key ∉ m.keys := by
        refine List.filter_congr fun key known => ?_
        have differs : key ≠ p.1 := fun same => fresh (same ▸ known)
        simp [mem_keys_set, differs]
      have split : keys (p :: rest) = p.1 :: keys rest := rfl
      rw [merge_cons, ih _ distinct, later, keys_set, split]
      by_cases known : p.1 ∈ m.keys
      · simp [known]
      · simp [known]

/-- The merged value of a key is the new one if there is one, else the old one. -/
theorem get?_merge (key : String) (m : Members) {n : Members} (distinct : n.Distinct) :
    get? key (merge m n) = (get? key n).or (get? key m) := by
  induction n generalizing m with
  | nil => simp [merge, get?]
  | cons p rest ih =>
      obtain ⟨fresh, distinct⟩ := List.nodup_cons.mp distinct
      rw [merge_cons, ih _ distinct]
      by_cases here : p.1 = key
      · subst here
        rw [get?_eq_none_iff.mpr fresh]
        simp [get?]
      · rw [get?_set_of_ne (Ne.symm here)]
        simp [get?, here]

theorem mem_merge {p : String × Json} (h : p ∈ merge m n) : p ∈ n ∨ p ∈ m := by
  induction n generalizing m with
  | nil => exact .inr h
  | cons q rest ih =>
      rcases ih h with later | earlier
      · exact .inl (List.mem_cons_of_mem q later)
      · rcases mem_set earlier with rfl | old
        · exact .inl List.mem_cons_self
        · exact .inr old

theorem nil_merge (distinct : m.Distinct) : merge [] m = m := by
  refine ext (distinct_nil.merge m) distinct ?_ fun key => ?_
  · rw [keys_merge [] distinct]
    simp [keys]
  · rw [get?_merge key [] distinct]
    simp [get?]

theorem merge_self (distinct : m.Distinct) : merge m m = m := by
  refine ext (distinct.merge m) distinct ?_ fun key => ?_
  · rw [keys_merge m distinct]
    simp
  · rw [get?_merge key m distinct, Option.or_self]

theorem merge_assoc {a b c : Members} (ha : a.Distinct) (hb : b.Distinct) (hc : c.Distinct) :
    merge (merge a b) c = merge a (merge b c) := by
  refine ext ((ha.merge b).merge c) (ha.merge _) ?_ fun key => ?_
  · rw [keys_merge _ hc, keys_merge _ (hb.merge c), keys_merge _ hb, keys_merge _ hc,
      List.filter_append, List.filter_filter, List.append_assoc]
    congr 2
    refine List.filter_congr fun key _ => ?_
    grind
  · rw [get?_merge _ _ hc, get?_merge _ _ (hb.merge c), get?_merge _ _ hb, get?_merge _ _ hc,
      Option.or_assoc]

/-- Reading members one after another leaves them as they are if their keys are distinct. -/
theorem ofPairs_eq_self (distinct : m.Distinct) : ofPairs m = m :=
  nil_merge distinct

theorem ofPairs_distinct (pairs : List (String × Json)) : (ofPairs pairs).Distinct :=
  distinct_nil.merge pairs

theorem mem_ofPairs {pairs : List (String × Json)} {p : String × Json} (h : p ∈ ofPairs pairs) :
    p ∈ pairs :=
  (mem_merge h).resolve_right List.not_mem_nil

end RefNav.Members
