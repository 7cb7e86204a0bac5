import RefNav.Proofs.Number.Binary64

/-! # Signs of doubles

Rounding keeps signs: a positive quotient that is not far below the least double is rounded
to a positive double, and a quotient with a negative sign never is.
-/

namespace RefNav.Number

/-- A quotient is at least one if its numerator has more bits than its denominator. -/
theorem scale_snd_le_fst {num den : Nat} {e : Int} (nonzero : num ≠ 0)
    (h : e + den.log2 + 1 ≤ num.log2) : (scale num den (-e)).2 ≤ (scale num den (-e)).1 := by
  have first : 2 ^ num.log2 ≤ num := Nat.log2_self_le nonzero
  have last : den < 2 ^ (den.log2 + 1) := Nat.lt_log2_self
  unfold scale
  split
  · have bits : 2 ^ (den.log2 + 1) ≤ 2 ^ (num.log2 + (-e).toNat) :=
      Nat.pow_le_pow_right Nat.two_pos (by omega)
    have shifted := Nat.mul_le_mul_right (2 ^ (-e).toNat) first
    rw [← Nat.pow_add] at shifted
    exact Nat.le_trans (Nat.le_of_lt last) (Nat.le_trans bits shifted)
  · have bits : 2 ^ (den.log2 + 1 + (- -e).toNat) ≤ 2 ^ num.log2 :=
      Nat.pow_le_pow_right Nat.two_pos (by omega)
    have shifted := Nat.mul_le_mul_right (2 ^ (- -e).toNat) (Nat.le_of_lt last)
    rw [← Nat.pow_add] at shifted
    exact Nat.le_trans shifted (Nat.le_trans bits first)

theorem scale_snd_pos {num den : Nat} (pos : 0 < den) (shift : Int) :
    0 < (scale num den shift).2 := by
  unfold scale
  split
  · exact pos
  · exact Nat.mul_pos pos (Nat.two_pow_pos _)

theorem roundHalfEven_pos {num den : Nat} (pos : 0 < den) (h : den ≤ num) :
    0 < roundHalfEven num den :=
  Nat.lt_of_lt_of_le (Nat.div_pos h pos) (le_roundHalfEven num den)

namespace Binary64

theorem exponentOf_le {num den : Nat} (h : den.log2 ≤ num.log2 + 1073) :
    exponentOf num den + den.log2 + 1 ≤ num.log2 := by
  unfold exponentOf minExponent
  dsimp only
  split <;> omega

/-- Normalising keeps the sign, and a mantissa that is not zero. -/
theorem normalise_cases (negative : Bool) (mantissa : Nat) (exponent : Int) :
    normalise negative mantissa exponent = .infinite negative ∨
      ∃ m e, normalise negative mantissa exponent = .finite negative m e ∧
        (0 < mantissa → 0 < m) ∧ exponent ≤ e := by
  unfold normalise
  dsimp only
  by_cases beyond : maxExponent < if mantissa = Nat.pow 2 53 then exponent + 1 else exponent
  · exact .inl (if_pos beyond)
  · refine .inr ⟨_, _, if_neg beyond, fun pos => ?_, ?_⟩
    · split
      · exact Nat.two_pow_pos 52
      · exact pos
    · split <;> omega

/-- Rounding keeps the sign, and a quotient that is not far below the least double. -/
theorem ofRatio_cases (negative : Bool) {num den : Nat} (nonzero : num ≠ 0) (pos : 0 < den)
    (h : den.log2 ≤ num.log2 + 1073) :
    ofRatio negative num den = .infinite negative ∨
      ∃ m e, ofRatio negative num den = .finite negative m e ∧ 0 < m ∧ exponentOf num den ≤ e := by
  have rounded := roundHalfEven_pos (scale_snd_pos pos (-exponentOf num den))
    (scale_snd_le_fst nonzero (exponentOf_le h))
  unfold ofRatio
  rw [if_neg nonzero]
  rcases normalise_cases negative _ (exponentOf num den) with
    infinite | ⟨m, e, finite, keeps, above⟩
  · exact .inl infinite
  · exact .inr ⟨m, e, finite, keeps rounded, above⟩

theorem ratio_fst_ne_zero {m : Nat} (pos : 0 < m) (e : Int) : (ratio m e).1 ≠ 0 := by
  unfold ratio scale
  split
  · exact Nat.mul_ne_zero (Nat.ne_of_gt pos) (Nat.ne_of_gt (Nat.two_pow_pos _))
  · exact Nat.ne_of_gt pos

theorem gtNat_zero_finite {m : Nat} (pos : 0 < m) (e : Int) :
    (finite false m e).gtNat 0 = true := by
  simpa [gtNat, Nat.pos_iff_ne_zero] using ratio_fst_ne_zero pos e

theorem gtNat_finite_true (m : Nat) (e : Int) (n : Nat) : (finite true m e).gtNat n = false := rfl

/-- A positive quotient is rounded to a positive double. -/
theorem gtNat_ofRatio {num den : Nat} (nonzero : num ≠ 0) (pos : 0 < den)
    (h : den.log2 ≤ num.log2 + 1073) : (ofRatio false num den).gtNat 0 = true := by
  rcases ofRatio_cases false nonzero pos h with infinite | ⟨m, e, finite, positive, -⟩
  · rw [infinite]
    rfl
  · rw [finite]
    exact gtNat_zero_finite positive e

theorem gtNat_ofRatio_true (num den n : Nat) : (ofRatio true num den).gtNat n = false := by
  unfold ofRatio
  split
  · rfl
  · dsimp only
    rcases normalise_cases true _ (exponentOf num den) with infinite | ⟨m, e, finite, -⟩
    · rw [infinite]
      rfl
    · rw [finite, gtNat_finite_true]

/-- The double of an integer that is not zero. -/
theorem ofInt?_of_ne_zero {n : Int} {x : Binary64} (nonzero : n ≠ 0) (h : ofInt? n = some x) :
    ∃ m e, x = .finite (n < 0) m e ∧ 0 < m ∧ -52 ≤ e := by
  have magnitude : n.natAbs ≠ 0 := Int.natAbs_ne_zero.mpr nonzero
  have noLog : Nat.log2 1 ≤ n.natAbs.log2 + 1073 := Nat.zero_le _
  have exponent := exponentOf_one magnitude
  unfold ofInt? at h
  rcases ofRatio_cases (n < 0) magnitude Nat.one_pos noLog
    with infinite | ⟨m, e, finite, positive, above⟩
  · rw [infinite] at h
    cases h
  · rw [finite] at h
    exact ⟨m, e, (Option.some.inj h).symm, positive, by omega⟩

theorem ofInt?_zero : ofInt? 0 = some (zero false) := rfl

theorem gtNat_divNat_zero (d n : Nat) : ((zero false).divNat d).gtNat n = false := by
  have none : (ratio 0 minExponent).1 = 0 := rfl
  simp [zero, divNat, none, ofRatio, gtNat]

/-- Dividing by a thousand keeps the sign of an integer. -/
theorem gtNat_divNat_iff {n : Int} {x : Binary64} (h : ofInt? n = some x) :
    (x.divNat 1000).gtNat 0 = true ↔ 0 < n := by
  rcases Int.lt_trichotomy n 0 with negative | rfl | positive
  · obtain ⟨m, e, rfl, -⟩ := ofInt?_of_ne_zero (Int.ne_of_lt negative) h
    refine iff_of_false ?_ (by omega)
    rw [decide_eq_true negative, divNat, gtNat_ofRatio_true]
    exact Bool.false_ne_true
  · obtain rfl := Option.some.inj (ofInt?_zero.symm.trans h)
    simp [gtNat_divNat_zero]
  · obtain ⟨m, e, rfl, nonzero, least⟩ := ofInt?_of_ne_zero (Int.ne_of_gt positive) h
    refine iff_of_true ?_ positive
    have denominator : 0 < (ratio m e).2 * 1000 :=
      Nat.mul_pos (scale_snd_pos Nat.one_pos e) (by decide)
    have small : (ratio m e).2 * 1000 < 2 ^ 63 := by
      have bits : (ratio m e).2 ≤ 2 ^ 52 := by
        unfold ratio scale
        split
        · exact Nat.one_le_two_pow
        · rw [Nat.one_mul]
          exact Nat.pow_le_pow_right Nat.two_pos (by omega)
      omega
    have width := (Nat.log2_lt (Nat.ne_of_gt denominator)).mpr small
    rw [decide_eq_false (by omega), divNat]
    exact gtNat_ofRatio (ratio_fst_ne_zero nonzero e) denominator (by omega)

end Binary64

end RefNav.Number
