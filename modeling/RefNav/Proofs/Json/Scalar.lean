import Mathlib.Data.Nat.Digits.Defs
import RefNav.Json.Reader
import RefNav.Json.Writer

/-! # Integers and strings, written and read

An integer of no more digits than are converted is read back from its decimal notation, and a
string from its escapes, whatever follows them in the text.
-/

namespace RefNav.Json

open RefNav.Text

/-- What stands behind a value in the indented form: nothing, a comma or a line break. -/
def EndsValue (rest : List Char) : Prop :=
  ∀ c, rest.head? = some c → c = ',' ∨ c = '\n'

/-! ## Digits -/

theorem isDigit_eq (c : Char) : isDigit c = c.isDigit := by
  simp [isDigit, Char.isDigit, Char.le_def]

theorem isDigit_of_mem_natDigits {n : Nat} {c : Char} (h : c ∈ natDigits n) :
    isDigit c = true := by
  rw [isDigit_eq]
  exact Nat.isDigit_of_mem_toDigits (by decide) (by decide) h

theorem natDigits_ne_nil (n : Nat) : natDigits n ≠ [] := by
  unfold natDigits
  rw [Nat.toDigits_eq_if (by decide)]
  split <;> simp

theorem head?_natDigits_append (n : Nat) (rest : List Char) :
    (natDigits n ++ rest).head? = (natDigits n).head? := by
  rw [List.head?_append, List.head?_eq_some_head (natDigits_ne_nil n), Option.some_or]

theorem digitsValue_natDigits (n : Nat) : digitsValue (natDigits n) = n :=
  Nat.ofDigitChars_toDigits (by decide) (by decide)

/-- Only zero starts with a zero. -/
theorem natDigits_of_head? {n : Nat} (h : (natDigits n).head? = some '0') :
    natDigits n = ['0'] := by
  induction n using Nat.strongRecOn with
  | ind n ih =>
      have split : natDigits n =
          if n < 10 then [Nat.digitChar n] else natDigits (n / 10) ++ [Nat.digitChar (n % 10)] :=
        Nat.toDigits_eq_if (by decide)
      by_cases small : n < 10
      · rw [split, if_pos small] at h ⊢
        rw [Option.some.inj h]
      · -- A zero in front would leave nothing of the number but its last digit.
        rw [split, if_neg small, head?_natDigits_append] at h
        have value := digitsValue_natDigits (n / 10)
        have zero : digitsValue ['0'] = 0 := by decide
        rw [ih (n / 10) (by omega) h, zero] at value
        omega

theorem takeWhile_isDigit_append {digits rest : List Char}
    (all : ∀ c ∈ digits, isDigit c = true) (ends : EndsValue rest) :
    (digits ++ rest).takeWhile isDigit = digits := by
  rw [List.takeWhile_append_of_pos all]
  cases rest with
  | nil => simp
  | cons c more =>
      have noDigit : isDigit c = false := by
        rcases ends c rfl with rfl | rfl <;> decide
      simp [noDigit]

theorem wholeDigits_natDigits (n : Nat) {rest : List Char} (ends : EndsValue rest) :
    wholeDigits (natDigits n ++ rest) = natDigits n := by
  unfold wholeDigits
  split
  next tail opened =>
    have first : (natDigits n).head? = some '0' := by
      rw [← head?_natDigits_append n rest, opened]
      rfl
    rw [natDigits_of_head? first]
  next => exact takeWhile_isDigit_append (fun c => isDigit_of_mem_natDigits) ends

theorem fractionDigits_of_ends {rest : List Char} (ends : EndsValue rest) :
    fractionDigits rest = [] := by
  unfold fractionDigits
  split
  · rcases ends '.' rfl with h | h <;> cases h
  · rfl

theorem exponentPart?_of_ends {rest : List Char} (ends : EndsValue rest) :
    exponentPart? rest = none := by
  cases rest with
  | nil => rfl
  | cons c more => rcases ends c rfl with rfl | rfl <;> rfl

/-! ## Integers -/

/-- The sign in front of a number. -/
def signText (negative : Bool) : List Char :=
  if negative then ['-'] else []

theorem intText_eq (n : Int) : intText n = signText (n < 0) ++ natDigits n.natAbs := by
  cases n with
  | ofNat n => simp [intText, showInt, signText]
  | negSucc n => simp [intText, showInt, signText, Int.negSucc_lt_zero]

theorem head?_natDigits_ne_minus (n : Nat) (rest : List Char) :
    (natDigits n ++ rest).head? ≠ some '-' := by
  intro minus
  rw [head?_natDigits_append] at minus
  have := isDigit_of_mem_natDigits (List.mem_of_mem_head? minus)
  revert this
  decide

theorem readNumber_digits (negative : Bool) (n : Nat) {rest : List Char} (ends : EndsValue rest)
    (short : (natDigits n).length ≤ maxDigits) (offset : Nat) :
    ∃ after, readNumber ⟨offset, signText negative ++ natDigits n ++ rest⟩ =
      .ok (.int (if negative then -(n : Int) else n), ⟨after, rest⟩) := by
  have sign : (signText negative ++ natDigits n ++ rest).head? = some '-' ↔ negative = true := by
    cases negative with
    | true => exact iff_of_true rfl rfl
    | false => exact iff_of_false (head?_natDigits_ne_minus n rest) Bool.false_ne_true
  have body : (if negative = true then (signText negative ++ natDigits n ++ rest).drop 1
      else signText negative ++ natDigits n ++ rest) = natDigits n ++ rest := by
    cases negative <;> rfl
  have size : (signText negative ++ natDigits n ++ rest).drop
      ((if negative = true then 1 else 0) + (natDigits n).length + 0) = rest := by
    refine List.drop_left' ?_
    cases negative <;> simp [signText, Nat.add_comm]
  have some_digit : (natDigits n).isEmpty = false := by simpa using natDigits_ne_nil n
  unfold readNumber
  simp only [sign, body, wholeDigits_natDigits n ends, List.drop_left,
    fractionDigits_of_ends ends, List.isEmpty_nil, if_true, List.drop_zero,
    exponentPart?_of_ends ends, some_digit, Bool.false_eq_true, if_false]
  rw [if_neg (Nat.not_lt.mpr short), digitsValue_natDigits]
  unfold Cursor.advance
  rw [size]
  exact ⟨_, rfl⟩

/-- An integer is read back. -/
theorem readNumber_intText {n : Int} (short : (natDigits n.natAbs).length ≤ maxDigits)
    {rest : List Char} (ends : EndsValue rest) (offset : Nat) :
    ∃ after, readNumber ⟨offset, intText n ++ rest⟩ = .ok (.int n, ⟨after, rest⟩) := by
  obtain ⟨after, read⟩ := readNumber_digits (n < 0) n.natAbs ends short offset
  refine ⟨after, ?_⟩
  have value : (if decide (n < 0) = true then -(n.natAbs : Int) else n.natAbs) = n := by
    by_cases negative : n < 0
    · rw [if_pos (decide_eq_true negative)]
      omega
    · rw [if_neg (by simpa using negative)]
      omega
  rw [intText_eq, read, value]

/-! ## Escapes -/

theorem toDigits_sixteen (n : Nat) : Nat.toDigits 16 n =
    if n < 16 then [Nat.digitChar n]
    else Nat.toDigits 16 (n / 16) ++ [Nat.digitChar (n % 16)] :=
  Nat.toDigits_eq_if (by decide)

/-- The four digits of a code unit. -/
theorem hexPadded_four {n : Nat} (h : n < 65536) :
    hexPadded 4 n = [Nat.digitChar (n / 4096), Nat.digitChar (n / 256 % 16),
      Nat.digitChar (n / 16 % 16), Nat.digitChar (n % 16)] := by
  have zero : Nat.digitChar 0 = '0' := rfl
  have third : n / 16 / 16 = n / 256 := by omega
  have fourth : n / 256 / 16 = n / 4096 := by omega
  unfold hexPadded
  rw [toDigits_sixteen]
  by_cases one : n < 16
  · have none : n / 4096 = 0 ∧ n / 256 % 16 = 0 ∧ n / 16 % 16 = 0 ∧ n % 16 = n := by omega
    simp [one, none, zero, List.replicate]
  rw [if_neg one, toDigits_sixteen]
  by_cases two : n / 16 < 16
  · have none : n / 4096 = 0 ∧ n / 256 % 16 = 0 ∧ n / 16 % 16 = n / 16 := by omega
    simp [two, none, zero, List.replicate]
  rw [if_neg two, third, toDigits_sixteen]
  by_cases three : n / 256 < 16
  · have none : n / 4096 = 0 ∧ n / 256 % 16 = n / 256 := by omega
    simp [three, none, zero]
  rw [if_neg three, fourth, toDigits_sixteen, if_pos (by omega)]
  simp

theorem length_hexPadded {n : Nat} (h : n < 65536) : (hexPadded 4 n).length = 4 := by
  rw [hexPadded_four h]
  rfl

theorem length_unitEscape {n : Nat} (h : n < 65536) : (unitEscape n).length = 6 := by
  rw [unitEscape, List.length_cons, List.length_cons, length_hexPadded h]

theorem hexValue?_digitChar {d : Nat} (h : d < 16) : hexValue? (Nat.digitChar d) = some d := by
  have all : ∀ d < 16, hexValue? (Nat.digitChar d) = some d := by decide
  exact all d h

theorem hexFour?_digits {n : Nat} (h : n < 65536) :
    hexFour? (Nat.digitChar (n / 4096)) (Nat.digitChar (n / 256 % 16))
      (Nat.digitChar (n / 16 % 16)) (Nat.digitChar (n % 16)) = some n := by
  simp only [hexFour?, hexValue?_digitChar (show n / 4096 < 16 by omega),
    hexValue?_digitChar (show n / 256 % 16 < 16 by omega),
    hexValue?_digitChar (show n / 16 % 16 < 16 by omega),
    hexValue?_digitChar (show n % 16 < 16 by omega), Option.bind_eq_bind, Option.bind_some,
    Option.pure_def, Option.some.injEq]
  omega

/-! ## Strings -/

theorem readChars_skip (start : Nat) (taken rest : List Char) (offset : Nat) :
    ∃ after, readChars start taken.length offset (taken ++ rest) =
      readChars start 0 after rest := by
  induction taken generalizing offset with
  | nil => exact ⟨offset, rfl⟩
  | cons c taken ih => exact ih (offset + 1)

/-- An escape is read as its code point. -/
theorem readChars_escape {start offset : Nat} {c : CodePoint} {size : Nat} {text : List Char}
    (read : readEscape start offset text = .ok (c, size)) (taken rest : List Char)
    (split : text = taken ++ rest) (length : taken.length = size) :
    ∃ after, readChars start 0 offset ('\\' :: text) =
      consReading c (readChars start 0 after rest) := by
  obtain ⟨after, skipped⟩ := readChars_skip start taken rest (offset + 1)
  refine ⟨after, ?_⟩
  rw [← skipped, length, ← split]
  simp [readChars, read]

theorem readEscape_unit {n : Nat} (h : n < 65536) (notHigh : isHighSurrogate n = false)
    (start offset : Nat) {rest : List Char} (more : rest ≠ []) :
    readEscape start offset ('u' :: hexPadded 4 n ++ rest) = .ok (ofUnit n, 5) := by
  obtain ⟨next, others, rfl⟩ := List.exists_cons_of_ne_nil more
  rw [hexPadded_four h]
  simp only [List.cons_append, List.nil_append, readEscape, hexFour?_digits h, notHigh]

theorem readEscape_pair {high low : Nat} (hh : isHighSurrogate high = true)
    (hl : isLowSurrogate low = true) (start offset : Nat) {rest : List Char} (more : rest ≠ []) :
    readEscape start offset ('u' :: hexPadded 4 high ++ (unitEscape low ++ rest)) =
      .ok (.char (ofPair high low), 11) := by
  obtain ⟨next, others, rfl⟩ := List.exists_cons_of_ne_nil more
  have highBound : high < 65536 := by
    simp only [isHighSurrogate, Bool.and_eq_true, decide_eq_true_eq] at hh
    omega
  have lowBound : low < 65536 := by
    simp only [isLowSurrogate, Bool.and_eq_true, decide_eq_true_eq] at hl
    omega
  rw [unitEscape, hexPadded_four highBound, hexPadded_four lowBound]
  simp only [List.cons_append, List.nil_append, readEscape, hexFour?_digits highBound, hh,
    hexFour?_digits lowBound, hl, if_true]

theorem toNat_cases (c : Char) :
    c.toNat < 0xD800 ∨ 0xDFFF < c.toNat ∧ c.toNat < 0x110000 :=
  c.valid

theorem ofUnit_toNat (c : Char) : ofUnit c.toNat = .char c := by
  have outside : (isHighSurrogate c.toNat || isLowSurrogate c.toNat) = false := by
    have := toNat_cases c
    simp only [isHighSurrogate, isLowSurrogate, Bool.or_eq_false_iff, Bool.and_eq_false_imp,
      decide_eq_true_eq, decide_eq_false_iff_not]
    omega
  rw [ofUnit, outside]
  exact congrArg CodePoint.char (Char.ofNat_toNat c)

/-- A character beyond the code units is read back from its surrogate pair. -/
theorem readChars_pair (start offset : Nat) {c : Char} (long : 0x10000 ≤ c.toNat)
    {rest : List Char} (more : rest ≠ []) :
    ∃ after, readChars start 0 offset (unitEscape (0xD800 + (c.toNat - 0x10000) / 1024) ++
        unitEscape (0xDC00 + (c.toNat - 0x10000) % 1024) ++ rest) =
      consReading (.char c) (readChars start 0 after rest) := by
  have valid := toNat_cases c
  generalize hn : c.toNat - 0x10000 = n
  have high : isHighSurrogate (0xD800 + n / 1024) = true := by
    simp only [isHighSurrogate, Bool.and_eq_true, decide_eq_true_eq]
    omega
  have low : isLowSurrogate (0xDC00 + n % 1024) = true := by
    simp only [isLowSurrogate, Bool.and_eq_true, decide_eq_true_eq]
    omega
  have decoded : ofPair (0xD800 + n / 1024) (0xDC00 + n % 1024) = c := by
    have code : 0x10000 + (0xD800 + n / 1024 - 0xD800) * 1024 + (0xDC00 + n % 1024 - 0xDC00) =
        c.toNat := by
      omega
    rw [ofPair, code, Char.ofNat_toNat]
  have read := readEscape_pair high low start offset more
  rw [decoded] at read
  have size : ('u' :: hexPadded 4 (0xD800 + n / 1024) ++
      unitEscape (0xDC00 + n % 1024)).length = 11 := by
    rw [List.length_append, List.length_cons, length_hexPadded (by omega),
      length_unitEscape (by omega)]
  have shape : unitEscape (0xD800 + n / 1024) ++ unitEscape (0xDC00 + n % 1024) ++ rest =
      '\\' :: ('u' :: hexPadded 4 (0xD800 + n / 1024) ++
        (unitEscape (0xDC00 + n % 1024) ++ rest)) := by
    rw [unitEscape, List.append_assoc]
    rfl
  rw [shape]
  exact readChars_escape read _ rest (List.append_assoc _ _ _).symm size

/-- A character is read back from its escape. -/
theorem readChars_escapeChar (start offset : Nat) (c : Char) {rest : List Char} (more : rest ≠ []) :
    ∃ after, readChars start 0 offset (escapeChar c ++ rest) =
      consReading (.char c) (readChars start 0 after rest) := by
  have letter {code : Char} (read : readEscape start offset (code :: rest) = .ok (.char c, 1)) :
      ∃ after, readChars start 0 offset ('\\' :: code :: rest) =
        consReading (.char c) (readChars start 0 after rest) :=
    readChars_escape read [code] rest rfl rfl
  unfold escapeChar
  iterate 7
    split
    · subst_vars
      exact letter rfl
  next noQuote noSlash _ _ _ _ _ =>
    split
    next printable =>
      have visible : ¬ c.toNat < 0x20 := by omega
      exact ⟨offset + 1, by simp [readChars, noQuote, noSlash, visible]⟩
    next =>
      have valid := toNat_cases c
      split
      next short =>
        have notHigh : isHighSurrogate c.toNat = false := by
          simp only [isHighSurrogate, Bool.and_eq_false_imp, decide_eq_true_eq,
            decide_eq_false_iff_not]
          omega
        have read := readEscape_unit short notHigh start offset more
        rw [ofUnit_toNat] at read
        refine readChars_escape read ('u' :: hexPadded 4 c.toNat) rest rfl ?_
        rw [List.length_cons, length_hexPadded short]
      next long => exact readChars_pair start offset (Nat.not_lt.mp long) more

/-- The characters of a string are read back up to the closing quote. -/
theorem readChars_string (start offset : Nat) (cs rest : List Char) :
    ∃ after, readChars start 0 offset (cs.flatMap escapeChar ++ '"' :: rest) =
      .ok (cs.map .char, ⟨after, rest⟩) := by
  induction cs generalizing offset with
  | nil => exact ⟨offset + 1, by simp [readChars]⟩
  | cons c cs ih =>
      have more : cs.flatMap escapeChar ++ '"' :: rest ≠ [] := by simp
      obtain ⟨next, first⟩ := readChars_escapeChar start offset c more
      obtain ⟨after, others⟩ := ih next
      refine ⟨after, ?_⟩
      rw [List.flatMap_cons, List.append_assoc, first, others]
      rfl

/-- A string is read back. -/
theorem readString_stringText (s : String) (rest : List Char) (offset : Nat) :
    ∃ after, readString ⟨offset, stringText s ++ rest⟩ =
      .ok (s.toList.map .char, ⟨after, rest⟩) := by
  obtain ⟨after, read⟩ := readChars_string offset (offset + 1) s.toList rest
  refine ⟨after, ?_⟩
  simp only [readString, stringText, List.cons_append, List.append_assoc, List.nil_append,
    List.drop_succ_cons, List.drop_zero, read]

end RefNav.Json
