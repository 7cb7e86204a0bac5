import Mathlib.Algebra.Ring.Nat
import RefNav.Text.Base64

/-! # Base64, written and read back

Padded base64 spells the bits of bytes in digits of six bits.  What is written is spelled that
way, and reading it gives the bytes back.
-/

namespace RefNav.Text.Base64

/-! ## The bits of numbers -/

/-- The lowest bits of a number, beginning with the highest of them. -/
def bits : Nat → Nat → List Bool
  | 0, _ => []
  | width + 1, n => bits width (n / 2) ++ [decide (n % 2 = 1)]

theorem bits_add (m k n : Nat) : bits (m + k) n = bits m (n / 2 ^ k) ++ bits k n := by
  induction k generalizing n with
  | zero => simp [bits]
  | succ k ih =>
      have halved : n / 2 / 2 ^ k = n / 2 ^ (k + 1) := by
        rw [Nat.div_div_eq_div_mul, Nat.pow_succ, Nat.mul_comm 2]
      rw [← Nat.add_assoc, bits, ih, halved, List.append_assoc]
      rfl

theorem bits_mod (k n : Nat) : bits k (n % 2 ^ k) = bits k n := by
  induction k generalizing n with
  | zero => rfl
  | succ k ih =>
      have low : n % 2 ^ (k + 1) % 2 = n % 2 := by
        rw [Nat.pow_succ, Nat.mul_comm, Nat.mod_mul_right_mod]
      have high : n % 2 ^ (k + 1) / 2 = n / 2 % 2 ^ k := by
        rw [Nat.pow_succ, Nat.mul_comm, Nat.mod_mul_right_div_self]
      rw [bits, bits, low, high, ih]

/-- A number put together from the lowest bits of two has the bits of both. -/
theorem bits_join {m k y : Nat} (x : Nat) (small : y < 2 ^ k) :
    bits (m + k) (x % 2 ^ m * 2 ^ k + y) = bits m x ++ bits k y := by
  have high : (x % 2 ^ m * 2 ^ k + y) / 2 ^ k = x % 2 ^ m := by
    rw [Nat.mul_comm, Nat.mul_add_div (Nat.two_pow_pos k), Nat.div_eq_of_lt small, Nat.add_zero]
  have low : (x % 2 ^ m * 2 ^ k + y) % 2 ^ k = y := by
    rw [Nat.mul_add_mod_self_right, Nat.mod_eq_of_lt small]
  rw [bits_add, high, bits_mod, ← bits_mod k, low]

/-! ## What is spelled -/

/-- The digits in the order of their values. -/
def alphabet : List Char :=
  "ABCDEFGHIJKLMNOPQRSTUVWXYZabcdefghijklmnopqrstuvwxyz0123456789+/".toList

/-- A text of digits and at most two equal signs, in groups of four.  The bits of the digits, six
of each, are those of the bytes, eight of each, and two zeros for every equal sign. -/
def Spells (text : List Char) (bytes : List UInt8) : Prop :=
  ∃ (letters : List Char) (values : List Nat) (pads : Nat),
    text = letters ++ List.replicate pads '=' ∧ pads ≤ 2 ∧ text.length % 4 = 0 ∧
    letters.map some = values.map (alphabet[·]?) ∧
    values.flatMap (bits 6) =
      bytes.flatMap (fun b => bits 8 b.toNat) ++ List.replicate (2 * pads) false

theorem getElem?_alphabet {n : Nat} (h : n < 64) : alphabet[n]? = some (digit n) := by
  have all : ∀ n < 64, alphabet[n]? = some (digit n) := by decide
  exact all n h

theorem value?_digit {n : Nat} (h : n < 64) : value? (digit n) = some n := by
  have all : ∀ n < 64, value? (digit n) = some n := by decide
  exact all n h

theorem digit_ne_pad {n : Nat} (h : n < 64) : digit n ≠ '=' := by
  have all : ∀ n < 64, digit n ≠ '=' := by decide
  exact all n h

/-- One byte fills a digit and begins another. -/
theorem bits_first (a : Nat) : bits 8 a = bits 6 (a / 4) ++ bits 2 a :=
  bits_add 6 2 a

theorem bits_second {a b : Nat} (small : b < 16) : bits 6 (a % 4 * 16 + b) = bits 2 a ++ bits 4 b :=
  @bits_join 2 4 b a small

theorem bits_middle (b : Nat) : bits 8 b = bits 4 (b / 16) ++ bits 4 b :=
  bits_add 4 4 b

theorem bits_third {b c : Nat} (small : c < 4) : bits 6 (b % 16 * 4 + c) = bits 4 b ++ bits 2 c :=
  @bits_join 4 2 c b small

theorem bits_last (c : Nat) : bits 8 c = bits 2 (c / 64) ++ bits 6 (c % 64) := by
  have low : bits 6 (c % 64) = bits 6 c := bits_mod 6 c
  rw [low]
  exact bits_add 2 6 c

theorem spells_encode (bytes : List UInt8) : Spells (encode bytes) bytes := by
  fun_induction encode bytes with
  | case1 a b c rest ih =>
      obtain ⟨letters, values, pads, text, few, groups, spelled, same⟩ := ih
      have ha : a.toNat < 256 := a.toNat_lt
      have hb : b.toNat < 256 := b.toNat_lt
      have hc : c.toNat < 256 := c.toNat_lt
      refine ⟨digit _ :: digit _ :: digit _ :: digit _ :: letters,
        a.toNat / 4 :: (a.toNat % 4 * 16 + b.toNat / 16) :: (b.toNat % 16 * 4 + c.toNat / 64)
          :: (c.toNat % 64) :: values, pads, by rw [text]; rfl, few, ?_, ?_, ?_⟩
      · simp only [List.length_cons]
        omega
      · simp only [List.map_cons, spelled]
        rw [getElem?_alphabet (by omega), getElem?_alphabet (by omega),
          getElem?_alphabet (by omega), getElem?_alphabet (by omega)]
      · have second := @bits_second a.toNat (b.toNat / 16) (by omega)
        have third := @bits_third b.toNat (c.toNat / 64) (by omega)
        simp only [List.flatMap_cons, same, second, third, bits_first a.toNat,
          bits_middle b.toNat, bits_last c.toNat, List.append_assoc]
  | case2 a b =>
      have ha : a.toNat < 256 := a.toNat_lt
      have hb : b.toNat < 256 := b.toNat_lt
      refine ⟨[digit _, digit _, digit _], [a.toNat / 4, a.toNat % 4 * 16 + b.toNat / 16,
        b.toNat % 16 * 4], 1, rfl, by decide, by simp, ?_, ?_⟩
      · simp only [List.map_cons, List.map_nil]
        rw [getElem?_alphabet (by omega), getElem?_alphabet (by omega),
          getElem?_alphabet (by omega)]
      · have second := @bits_second a.toNat (b.toNat / 16) (by omega)
        have third := @bits_third b.toNat 0 (by decide)
        rw [Nat.add_zero] at third
        have zeros : bits 2 0 = List.replicate (2 * 1) false := rfl
        simp only [List.flatMap_cons, List.flatMap_nil, List.append_nil, second, third, zeros,
          bits_first a.toNat, bits_middle b.toNat, List.append_assoc]
  | case3 a =>
      have ha : a.toNat < 256 := a.toNat_lt
      refine ⟨[digit _, digit _], [a.toNat / 4, a.toNat % 4 * 16], 2, rfl, by decide, by simp,
        ?_, ?_⟩
      · simp only [List.map_cons, List.map_nil]
        rw [getElem?_alphabet (by omega), getElem?_alphabet (by omega)]
      · have second := @bits_second a.toNat 0 (by decide)
        rw [Nat.add_zero] at second
        have zeros : bits 4 0 = List.replicate (2 * 2) false := rfl
        simp only [List.flatMap_cons, List.flatMap_nil, List.append_nil, second, zeros,
          bits_first a.toNat, List.append_assoc]
  | case4 => exact ⟨[], [], 0, rfl, by decide, rfl, rfl, rfl⟩

/-! ## Reading back -/

theorem decode?_group {a b c d : Char} (notPad : d ≠ '=') (rest : List Char) :
    decode? (a :: b :: c :: d :: rest) = do
      let a ← value? a
      let b ← value? b
      let c ← value? c
      let d ← value? d
      let tail ← decode? rest
      return UInt8.ofNat (a * 4 + b / 16) :: UInt8.ofNat (b % 16 * 16 + c / 4)
        :: UInt8.ofNat (c % 4 * 64 + d) :: tail := by
  rw [decode?]
  · exact fun _ pad => absurd pad notPad
  · exact fun pad => absurd pad notPad

theorem decode?_pair {a b c : Char} (notPad : c ≠ '=') :
    decode? [a, b, c, '='] = do
      let a ← value? a
      let b ← value? b
      let c ← value? c
      return [UInt8.ofNat (a * 4 + b / 16), UInt8.ofNat (b % 16 * 16 + c / 4)] := by
  rw [decode?]
  exact notPad

/-- What was written is read back. -/
theorem decode?_encode (bytes : List UInt8) : decode? (encode bytes) = some bytes := by
  fun_induction encode bytes with
  | case1 a b c rest ih =>
      have ha : a.toNat < 256 := a.toNat_lt
      have hb : b.toNat < 256 := b.toNat_lt
      have hc : c.toNat < 256 := c.toNat_lt
      have first : a.toNat / 4 * 4 + (a.toNat % 4 * 16 + b.toNat / 16) / 16 = a.toNat := by omega
      have second : (a.toNat % 4 * 16 + b.toNat / 16) % 16 * 16 +
          (b.toNat % 16 * 4 + c.toNat / 64) / 4 = b.toNat := by omega
      have third : (b.toNat % 16 * 4 + c.toNat / 64) % 4 * 64 + c.toNat % 64 = c.toNat := by omega
      rw [decode?_group (digit_ne_pad (by omega)), value?_digit (by omega),
        value?_digit (by omega), value?_digit (by omega), value?_digit (by omega), ih]
      simp only [Option.bind_eq_bind, Option.bind_some, first, second, third, UInt8.ofNat_toNat]
      rfl
  | case2 a b =>
      have ha : a.toNat < 256 := a.toNat_lt
      have hb : b.toNat < 256 := b.toNat_lt
      have first : a.toNat / 4 * 4 + (a.toNat % 4 * 16 + b.toNat / 16) / 16 = a.toNat := by omega
      have second : (a.toNat % 4 * 16 + b.toNat / 16) % 16 * 16 + b.toNat % 16 * 4 / 4 =
          b.toNat := by omega
      rw [decode?_pair (digit_ne_pad (by omega)), value?_digit (by omega),
        value?_digit (by omega), value?_digit (by omega)]
      simp only [Option.bind_eq_bind, Option.bind_some, first, second, UInt8.ofNat_toNat]
      rfl
  | case3 a =>
      have ha : a.toNat < 256 := a.toNat_lt
      have first : a.toNat / 4 * 4 + a.toNat % 4 * 16 / 16 = a.toNat := by omega
      rw [decode?, value?_digit (by omega), value?_digit (by omega)]
      simp only [Option.bind_eq_bind, Option.bind_some, first, UInt8.ofNat_toNat]
      rfl
  | case4 => rfl

end RefNav.Text.Base64
