import RefNav.Number.Binary64

/-! # Integers that no double holds

An integer is too large for a double if it lies at least half a unit of the last
place above the greatest finite one.
-/

namespace RefNav.Number

theorem le_roundHalfEven (num den : Nat) : num / den ≤ roundHalfEven num den := by
  unfold roundHalfEven
  dsimp only
  repeat' split
  all_goals omega

theorem roundHalfEven_le (num den : Nat) : roundHalfEven num den ≤ num / den + 1 := by
  unfold roundHalfEven
  dsimp only
  repeat' split
  all_goals omega

/-- A quotient is rounded to more than an odd number if it lies at least halfway to the
next one. -/
theorem lt_roundHalfEven_iff_of_odd {k : Nat} (odd : k % 2 = 1) {num den : Nat} (pos : 0 < den) :
    k < roundHalfEven num den ↔ (2 * k + 1) * den ≤ 2 * num := by
  have division : den * (num / den) + num % den = num := Nat.div_add_mod num den
  have remainder : num % den < den := Nat.mod_lt num pos
  have lower := le_roundHalfEven num den
  have upper := roundHalfEven_le num den
  rcases Nat.lt_trichotomy (num / den) k with below | same | above
  · have step : den * (num / den + 1) ≤ den * k := Nat.mul_le_mul_left den below
    rw [Nat.mul_add] at step
    rw [Nat.add_mul, Nat.mul_assoc, Nat.mul_comm k]
    omega
  · have half : k < roundHalfEven num den ↔ den ≤ 2 * (num % den) := by
      unfold roundHalfEven
      dsimp only
      repeat' split
      all_goals omega
    rw [half, Nat.add_mul, Nat.mul_assoc, Nat.mul_comm k, ← same]
    omega
  · have step : den * (k + 1) ≤ den * (num / den) := Nat.mul_le_mul_left den above
    rw [Nat.mul_add] at step
    rw [Nat.add_mul, Nat.mul_assoc, Nat.mul_comm k]
    omega

namespace Binary64

/-- The mantissa of a positive integer begins with its first bit. -/
theorem exponentOf_one {n : Nat} (pos : n ≠ 0) : exponentOf n 1 = (n.log2 : Int) - 52 := by
  have first : Nat.pow 2 n.log2 ≤ n := Nat.log2_self_le pos
  have exact : ¬ (scale n 1 (-((n.log2 : Int) - 52))).1 <
      (scale n 1 (-((n.log2 : Int) - 52))).2 * Nat.pow 2 52 := by
    unfold scale
    split
    next small =>
      have total : n.log2 + (-((n.log2 : Int) - 52)).toNat = 52 := by omega
      have powers : Nat.pow 2 (n.log2 + (-((n.log2 : Int) - 52)).toNat) = _ := Nat.pow_add 2 _ _
      have scaled := Nat.mul_le_mul_right (Nat.pow 2 (-((n.log2 : Int) - 52)).toNat) first
      rw [total] at powers
      dsimp only
      rw [Nat.one_mul, powers]
      exact Nat.not_lt.mpr scaled
    next large =>
      have total : (- -((n.log2 : Int) - 52)).toNat + 52 = n.log2 := by omega
      have powers : Nat.pow 2 ((- -((n.log2 : Int) - 52)).toNat + 52) = _ := Nat.pow_add 2 _ _
      rw [total] at powers
      dsimp only
      rw [Nat.one_mul]
      exact Nat.not_lt.mpr (powers ▸ first)
  have noLog : Nat.log2 1 = 0 := by decide
  unfold exponentOf
  rw [noLog]
  dsimp only
  rw [Int.natCast_zero, Int.sub_zero, if_neg exact]
  unfold minExponent
  omega

theorem ofInt?_eq_none_of_normalise {n : Int} {mantissa : Nat} {exponent : Int}
    (h : ofRatio (n < 0) n.natAbs 1 = normalise (n < 0) mantissa exponent) :
    ofInt? n = none ↔
      maxExponent < if mantissa = Nat.pow 2 53 then exponent + 1 else exponent := by
  unfold ofInt?
  rw [h]
  unfold normalise
  dsimp only
  by_cases beyond : maxExponent < if mantissa = Nat.pow 2 53 then exponent + 1 else exponent
  · rw [if_pos beyond]
    exact ⟨fun _ => beyond, fun _ => rfl⟩
  · rw [if_neg beyond]
    exact ⟨nofun, fun h => absurd h beyond⟩

/-- A mantissa of at most 53 bits, or `2 ^ 53` after rounding, overflows only at the
greatest exponent. -/
theorem ofInt?_eq_none_iff_log2 {n : Int} (nonzero : n.natAbs ≠ 0) :
    ofInt? n = none ↔ 1023 < n.natAbs.log2 ∨
      n.natAbs.log2 = 1023 ∧ roundHalfEven n.natAbs (Nat.pow 2 971) = Nat.pow 2 53 := by
  have rounded : ofRatio (n < 0) n.natAbs 1 = normalise (n < 0)
      (roundHalfEven (scale n.natAbs 1 (-((n.natAbs.log2 : Int) - 52))).1
        (scale n.natAbs 1 (-((n.natAbs.log2 : Int) - 52))).2) ((n.natAbs.log2 : Int) - 52) := by
    unfold ofRatio
    rw [if_neg nonzero, exponentOf_one nonzero]
  rw [ofInt?_eq_none_of_normalise rounded, maxExponent]
  by_cases top : n.natAbs.log2 = 1023
  · have scaled :
        scale n.natAbs 1 (-((n.natAbs.log2 : Int) - 52)) = (n.natAbs, Nat.pow 2 971) := by
      have shift : (- -((1023 : Int) - 52)).toNat = 971 := by decide
      rw [top]
      unfold scale
      rw [if_neg (by decide), Int.cast_ofNat_Int, shift, Nat.one_mul]
    rw [scaled]
    dsimp only
    split
    next full => exact ⟨fun _ => .inr ⟨top, full⟩, fun _ => by omega⟩
    next notFull =>
      refine ⟨fun _ => by omega, ?_⟩
      rintro (above | ⟨_, full⟩)
      · omega
      · exact absurd full notFull
  · split <;> omega

/-- The powers of two around the greatest double, in halves of its last place. -/
theorem exists_half_unit : ∃ half : Nat, 0 < half ∧ Nat.pow 2 970 = half ∧
    Nat.pow 2 971 = 2 * half ∧ Nat.pow 2 1023 = 9007199254740992 * half ∧
    Nat.pow 2 1024 = 18014398509481984 * half :=
  ⟨Nat.pow 2 970, by decide +kernel, rfl, by decide +kernel, by decide +kernel, by decide +kernel⟩

/-- The least magnitude that is rounded beyond the greatest finite double. -/
def overflow : Nat :=
  Nat.pow 2 1024 - Nat.pow 2 970

theorem ofInt?_eq_none_iff {n : Int} : ofInt? n = none ↔ overflow ≤ n.natAbs := by
  unfold overflow
  obtain ⟨half, pos, h970, h971, h1023, h1024⟩ := exists_half_unit
  by_cases zero : n = 0
  · have small : ofInt? 0 ≠ none := by decide
    rw [zero, h970, h1024]
    simp only [small, false_iff]
    omega
  have nonzero : n.natAbs ≠ 0 := Int.natAbs_ne_zero.mpr zero
  have first : Nat.pow 2 n.natAbs.log2 ≤ n.natAbs := Nat.log2_self_le nonzero
  have last : n.natAbs < Nat.pow 2 (n.natAbs.log2 + 1) := Nat.lt_log2_self
  have h53 : Nat.pow 2 53 = 9007199254740992 := rfl
  rw [ofInt?_eq_none_iff_log2 nonzero, h970, h971, h1024, h53]
  rcases Nat.lt_trichotomy n.natAbs.log2 1023 with below | top | above
  · have small : Nat.pow 2 (n.natAbs.log2 + 1) ≤ Nat.pow 2 1023 :=
      Nat.pow_le_pow_right Nat.two_pos below
    rw [h1023] at small
    omega
  · rw [top, h1023] at first
    rw [top, h1024] at last
    have quotient : n.natAbs / (2 * half) < 9007199254740992 := by
      rw [Nat.div_lt_iff_lt_mul (by omega)]
      omega
    have upper := roundHalfEven_le n.natAbs (2 * half)
    have rounded : 9007199254740991 < roundHalfEven n.natAbs (2 * half) ↔ _ :=
      lt_roundHalfEven_iff_of_odd (by decide) (by omega)
    omega
  · have large : Nat.pow 2 1024 ≤ Nat.pow 2 n.natAbs.log2 :=
      Nat.pow_le_pow_right Nat.two_pos above
    rw [h1024] at large
    omega

end Binary64

end RefNav.Number
