/-! # Code point ranges

Character classes of the Unicode standard are given as lists of inclusive
ranges in increasing order.  A search stops at the first range that starts
above the code point, so plain ASCII text never walks a whole table.
-/

namespace RefNav.Text

/-- Membership in a list of inclusive ranges that stand in increasing order. -/
def inRanges : List (Nat × Nat) → Nat → Bool
  | [], _ => false
  | (lo, hi) :: rest, n =>
      if n < lo then false else if n ≤ hi then true else inRanges rest n

/-- A hit of the search lies in one of the ranges. -/
theorem exists_range_of_inRanges {table : List (Nat × Nat)} {n : Nat}
    (h : inRanges table n = true) : ∃ r ∈ table, r.1 ≤ n ∧ n ≤ r.2 := by
  induction table with
  | nil => simp [inRanges] at h
  | cons r rest ih =>
      obtain ⟨lo, hi⟩ := r
      simp only [inRanges] at h
      split at h
      · cases h
      · split at h
        · exact ⟨(lo, hi), by simp, by simp; omega⟩
        · obtain ⟨s, hs, bounds⟩ := ih h
          exact ⟨s, by simp [hs], bounds⟩

end RefNav.Text
