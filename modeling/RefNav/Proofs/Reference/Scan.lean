import RefNav.Reference.Extract

/-! # Scanning a line

A scan reports what the recogniser takes at an offset, and never two things that
share a character.  If no two things can do so, it reports them all.
-/

namespace RefNav

variable {recognise : List Char → Option Hit}

theorem recognise_of_mem_scan {skip offset : Nat} {cs : List Char} {found : Nat × Hit}
    (h : found ∈ scan recognise skip offset cs) :
    ∃ d, found.1 = offset + d ∧ skip ≤ d ∧ recognise (cs.drop d) = some found.2 := by
  fun_induction scan recognise skip offset cs with
  | case1 => cases h
  | case2 offset skip c rest ih =>
      obtain ⟨d, place, skipped, taken⟩ := ih h
      exact ⟨d + 1, by omega, by omega, by rwa [List.drop_succ_cons]⟩
  | case3 offset c rest hit taken ih =>
      rcases List.mem_cons.mp h with rfl | later
      · exact ⟨0, rfl, Nat.le_refl 0, taken⟩
      · obtain ⟨d, place, _, taken⟩ := ih later
        exact ⟨d + 1, by omega, by omega, by rwa [List.drop_succ_cons]⟩
  | case4 offset c rest _ ih =>
      obtain ⟨d, place, _, taken⟩ := ih h
      exact ⟨d + 1, by omega, by omega, by rwa [List.drop_succ_cons]⟩

/-- A scan goes on behind each thing that it found. -/
theorem scan_pairwise (nonempty : ∀ cs hit, recognise cs = some hit → hit.raw ≠ [])
    (skip offset : Nat) (cs : List Char) :
    (scan recognise skip offset cs).Pairwise fun a b => a.1 + a.2.raw.length ≤ b.1 := by
  fun_induction scan recognise skip offset cs with
  | case1 => exact .nil
  | case2 _ _ _ _ ih => exact ih
  | case3 offset c rest hit taken ih =>
      refine List.pairwise_cons.mpr ⟨fun found later => ?_, ih⟩
      obtain ⟨d, place, skipped, _⟩ := recognise_of_mem_scan later
      have positive : 0 < hit.raw.length := List.length_pos_iff.mpr (nonempty _ hit taken)
      dsimp only
      omega
  | case4 _ _ _ _ ih => exact ih

/-- Wherever something begins, the scan is on it or still on something before it. -/
theorem exists_mem_scan_of_recognise (nonempty : ∀ cs hit, recognise cs = some hit → hit.raw ≠ [])
    {skip d : Nat} {cs : List Char} {hit : Hit} (offset : Nat) (skipped : skip ≤ d)
    (h : recognise (cs.drop d) = some hit) (inside : d < cs.length) :
    ∃ found ∈ scan recognise skip offset cs,
      found.1 ≤ offset + d ∧ offset + d < found.1 + found.2.raw.length := by
  induction cs generalizing skip offset d with
  | nil => cases inside
  | cons c rest ih =>
      have later : ∀ {skip d}, skip ≤ d → recognise (rest.drop d) = some hit →
          d + 1 < (c :: rest).length → ∃ found ∈ scan recognise skip (offset + 1) rest,
            found.1 ≤ offset + (d + 1) ∧ offset + (d + 1) < found.1 + found.2.raw.length := by
        intro skip d le taken within
        obtain ⟨found, among, start, stop⟩ :=
          ih (offset + 1) le taken (Nat.lt_of_succ_lt_succ within)
        exact ⟨found, among, by omega, by omega⟩
      match skip, d with
      | skip + 1, d + 1 =>
          rw [scan]
          exact later (Nat.le_of_succ_le_succ skipped) h inside
      | 0, d =>
          rw [scan]
          cases first : recognise (c :: rest) with
          | none =>
              match d with
              | 0 =>
                  rw [List.drop_zero, first] at h
                  cases h
              | d + 1 => exact later (Nat.zero_le d) h inside
          | some a =>
              have positive : 0 < a.raw.length := List.length_pos_iff.mpr (nonempty _ a first)
              by_cases within : d < a.raw.length
              · exact ⟨_, List.mem_cons_self, Nat.le_add_right offset d,
                  Nat.add_lt_add_left within _⟩
              · match d with
                | 0 => exact absurd positive within
                | d + 1 =>
                    obtain ⟨found, among, place⟩ := @later (a.raw.length - 1) d (by omega) h inside
                    exact ⟨found, List.mem_cons_of_mem _ among, place⟩

/-- A scan finds everything that shares no character with something before it. -/
theorem mem_scan_of_recognise
    (apart : ∀ cs a d b, recognise cs = some a → recognise (cs.drop d) = some b → 0 < d →
      a.raw.length ≤ d)
    {skip d : Nat} {cs : List Char} {hit : Hit} (offset : Nat) (skipped : skip ≤ d)
    (h : recognise (cs.drop d) = some hit) (nonempty : d < cs.length) :
    (offset + d, hit) ∈ scan recognise skip offset cs := by
  induction cs generalizing skip offset d with
  | nil => cases nonempty
  | cons c rest ih =>
      match skip, d with
      | skip + 1, d + 1 =>
          rw [scan, Nat.add_comm d 1, ← Nat.add_assoc]
          exact ih _ (Nat.le_of_succ_le_succ skipped) h (Nat.lt_of_succ_lt_succ nonempty)
      | 0, 0 =>
          rw [List.drop_zero] at h
          rw [scan, h]
          exact List.mem_cons_self
      | 0, d + 1 =>
          have later : ∀ {skip}, skip ≤ d →
              (offset + (d + 1), hit) ∈ scan recognise skip (offset + 1) rest := by
            intro skip le
            rw [Nat.add_comm d 1, ← Nat.add_assoc]
            exact ih _ le h (Nat.lt_of_succ_lt_succ nonempty)
          rw [scan]
          cases first : recognise (c :: rest) with
          | none => exact later (Nat.zero_le d)
          | some a =>
              have long := apart (c :: rest) a (d + 1) hit first h (Nat.succ_pos d)
              exact List.mem_cons_of_mem _ (later (by omega))

end RefNav
