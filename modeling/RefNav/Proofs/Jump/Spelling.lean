import Mathlib.Data.Nat.Digits.Defs
import RefNav.Proofs.Json.Scalar
import RefNav.Proofs.Jump.Address

/-! # Spellings of addresses

A text is read as an address exactly if it spells one: a label, an offset in decimal digits of
any script or none, at most one line feed, a caret and a routine.  The offset is the number
that its digits stand for, unless they are more than are converted.  So an address is read
back from its text, with white space around it or not, and from the query for its label
without its offset.
-/

namespace RefNav

open RefNav.Text
open scoped Computability

namespace Text

/-! ## The number that digits stand for -/

/-- The value of a decimal digit of any script. -/
def digitValue (c : Char) : Nat :=
  (digitValue? c).getD 0

/-- The number that decimal digits stand for, the last of them the units; zero for none. -/
def numeral (digits : List Char) : Nat :=
  Nat.ofDigits 10 (digits.reverse.map digitValue)

variable {digits : List Char}

theorem ofDigits_map_digitValue (digits : List Char) :
    ofDigits (digits.map digitValue) = numeral digits := by
  rw [numeral, Nat.ofDigits_eq_foldr, List.map_reverse, List.foldr_reverse, ofDigits]
  simp [Nat.add_comm]

theorem digitValue?_of_isDecimal {c : Char} (h : isDecimal c = true) :
    digitValue? c = some (digitValue c) := by
  obtain ⟨n, value⟩ := Option.isSome_iff_exists.mp h
  rw [digitValue, value, Option.getD_some]

/-- Decimal digits with nothing between them are one group. -/
theorem digitGroups?_of_isDecimal (some_digit : digits ≠ [])
    (h : ∀ c ∈ digits, isDecimal c = true) :
    digitGroups? digits = some (digits.map digitValue) := by
  fun_induction digitGroups? digits with
  | case1 => exact absurd rfl some_digit
  | case2 c => simp [digitValue?_of_isDecimal (h c List.mem_cons_self)]
  | case3 c rest ih =>
      have underscore : isDecimal '_' = false := by decide
      have decimal := h '_' (by simp)
      rw [underscore] at decimal
      cases decimal
  | case4 c rest more _ ih =>
      obtain ⟨first, later⟩ := List.forall_mem_cons.mp h
      rw [digitValue?_of_isDecimal first, ih more later]
      rfl

theorem readMagnitude_of_isDecimal (some_digit : digits ≠ [])
    (h : ∀ c ∈ digits, isDecimal c = true) :
    readMagnitude digits =
      if maxDigits < digits.length then .error (.tooLong digits.length)
      else .ok (numeral digits) := by
  rw [readMagnitude, digitGroups?_of_isDecimal some_digit h]
  simp only [List.length_map, ofDigits_map_digitValue]

theorem digitValue?_of_isDigit {c : Char} (h : isDigit c = true) :
    digitValue? c = some (c.toNat - 48) := by
  have range := toNat_of_isDigit h
  obtain ⟨others, scripts⟩ : ∃ others, zeroDigits = 48 :: others := ⟨_, rfl⟩
  rw [digitValue?, scripts, List.find?_cons_of_pos (by simp [range])]
  rfl

theorem isDecimal_of_mem_natDigits {n : Nat} : ∀ c ∈ natDigits n, isDecimal c = true := by
  intro c hc
  rw [isDecimal, digitValue?_of_isDigit (Json.isDigit_of_mem_natDigits hc)]
  rfl

theorem numeral_natDigits (n : Nat) : numeral (natDigits n) = n := by
  have values : (natDigits n).map digitValue = (natDigits n).map fun c => c.toNat - 48 := by
    refine List.map_congr_left fun c hc => ?_
    rw [digitValue, digitValue?_of_isDigit (Json.isDigit_of_mem_natDigits hc), Option.getD_some]
  rw [← ofDigits_map_digitValue, values, ofDigits, List.foldl_map]
  exact Json.digitsValue_natDigits n

theorem length_natDigits_le_iff {n : Nat} :
    (natDigits n).length ≤ maxDigits ↔ n < 10 ^ maxDigits :=
  Nat.length_toDigits_le_iff (by decide) (by decide)

/-! ## White space around a text -/

/-- Trimming leaves a text without blanks, whatever blanks stand around it. -/
theorem trim_surrounded {before w after : List Char} (hbefore : ∀ c ∈ before, isBlank c = true)
    (hafter : ∀ c ∈ after, isBlank c = true) (nonempty : w ≠ [])
    (solid : ∀ c ∈ w, isBlank c = false) : trim (before ++ w ++ after) = w := by
  have starts : Grammar.Stops isBlank (w ++ after) := by
    obtain ⟨c, u, rfl⟩ := List.exists_cons_of_ne_nil nonempty
    rintro _ ⟨⟩
    exact solid c List.mem_cons_self
  have ends : Grammar.Stops isBlank w.reverse := by
    intro c hc
    exact solid c (List.mem_reverse.mp (List.mem_of_mem_head? hc))
  have reversed : ∀ c ∈ after.reverse, isBlank c = true :=
    fun c hc => hafter c (List.mem_reverse.mp hc)
  rw [trim, trimStart, List.append_assoc, Grammar.dropWhile_append hbefore starts, trimEnd,
    List.reverse_append, Grammar.dropWhile_append reversed ends, List.reverse_reverse]

end Text

namespace Address

open Grammar

/-! ## Spellings -/

/-- An offset in digits; without digits it is left out. -/
def offsetText : List Char → List Char
  | [] => []
  | digits => '+' :: digits

/-- A text spells a label, the digits of an offset and a routine. -/
structure Spells (text label digits routine : List Char) : Prop where
  label_mem : label ∈ addressName
  routine_mem : routine ∈ addressName
  decimal : ∀ d ∈ digits, isDecimal d = true
  text_eq : text = label ++ offsetText digits ++ '^' :: routine ∨
    text = label ++ offsetText digits ++ '\n' :: '^' :: routine

/-- What is said of an offset with more digits than are converted. -/
def offsetTooLong : Fault :=
  .failure .badValue "the offset has too many digits"

/-- An address with its offset in full. -/
def text (a : Address) : String :=
  a.label ++ "+" ++ showInt a.offset ++ "^" ++ a.routine

variable {label digits routine : List Char} {raw : String}

theorem drop_offsetText (digits : List Char) : (offsetText digits).drop 1 = digits := by
  cases digits <;> rfl

theorem mem_offset_iff {offset : List Char} : offset ∈ 1 + addressOffset ↔
    ∃ digits, (∀ d ∈ digits, isDecimal d = true) ∧ offset = offsetText digits := by
  constructor
  · rintro (rfl | mem)
    · exact ⟨[], nofun, rfl⟩
    · obtain ⟨digits, some_digit, decimal, rfl⟩ := mem_addressOffset.mp mem
      obtain ⟨c, u, rfl⟩ := List.exists_cons_of_ne_nil some_digit
      exact ⟨c :: u, decimal, rfl⟩
  · rintro ⟨digits, decimal, rfl⟩
    cases digits with
    | nil => exact .inl rfl
    | cons c u => exact .inr (mem_addressOffset.mpr ⟨c :: u, List.cons_ne_nil c u, decimal, rfl⟩)

/-- A spelling is read segment by segment. -/
theorem parse_of_spells (h : Spells (trim raw.toList) label digits routine) :
    parse raw = ofSegments label digits routine := by
  have offset : offsetText digits ∈ 1 + addressOffset := mem_offset_iff.mpr ⟨digits, h.decimal, rfl⟩
  have empty : isSegmentEnd [] = true := rfl
  have feed : isSegmentEnd ['\n'] = true := rfl
  rw [← drop_offsetText digits]
  rcases h.text_eq with unbroken | broken
  · exact parse_of_mem h.label_mem offset empty h.routine_mem (by simpa using unbroken)
  · exact parse_of_mem h.label_mem offset feed h.routine_mem (by simpa using broken)

/-- Nothing but spellings is read. -/
theorem spells_of_parse (h : parse raw ≠ .error .invalidAddress) :
    ∃ label digits routine, Spells (trim raw.toList) label digits routine := by
  obtain ⟨_, hlabel, routine, hroutine, after, ended, text⟩ := mem_of_parse h
  obtain ⟨label, hname, offset, hoffset, rfl⟩ := mem_addressLabel.mp hlabel
  obtain ⟨digits, decimal, rfl⟩ := mem_offset_iff.mp hoffset
  refine ⟨label, digits, routine, hname, hroutine, decimal, ?_⟩
  rcases isSegmentEnd_iff.mp ended with rfl | rfl
  · exact .inl (by simpa using text)
  · exact .inr (by simpa using text)

theorem ofSegments_of_isDecimal (decimal : ∀ d ∈ digits, isDecimal d = true)
    (label routine : List Char) :
    ofSegments label digits routine =
      if maxDigits < digits.length then .error offsetTooLong
      else .ok ⟨String.ofList routine, String.ofList label, numeral digits⟩ := by
  cases digits with
  | nil => rfl
  | cons c u =>
      rw [ofSegments, offsetValue, readMagnitude_of_isDecimal (List.cons_ne_nil c u) decimal]
      by_cases long : maxDigits < (c :: u).length
      · rw [if_pos long, if_pos long]
        rfl
      · rw [if_neg long, if_neg long]
        rfl

theorem parse_eq_ok_iff {a : Address} : parse raw = .ok a ↔ ∃ label digits routine,
    Spells (trim raw.toList) label digits routine ∧ digits.length ≤ maxDigits ∧
      a = ⟨String.ofList routine, String.ofList label, numeral digits⟩ := by
  constructor
  · intro read
    obtain ⟨label, digits, routine, h⟩ := spells_of_parse (by rw [read]; nofun)
    rw [parse_of_spells h, ofSegments_of_isDecimal h.decimal] at read
    split at read
    · cases read
    · next short =>
        exact ⟨label, digits, routine, h, Nat.not_lt.mp short, (Except.ok.inj read).symm⟩
  · rintro ⟨label, digits, routine, h, short, rfl⟩
    rw [parse_of_spells h, ofSegments_of_isDecimal h.decimal, if_neg (Nat.not_lt.mpr short)]

theorem parse_eq_invalid_iff_spells : parse raw = .error .invalidAddress ↔
    ∀ label digits routine, ¬ Spells (trim raw.toList) label digits routine := by
  constructor
  · intro refused label digits routine h
    rw [parse_of_spells h] at refused
    exact ofSegments_ne_invalid _ _ _ refused
  · intro other
    by_contra read
    obtain ⟨label, digits, routine, h⟩ := spells_of_parse read
    exact other label digits routine h

/-! ## Addresses read back -/

section

variable {a : Address} {before after : String}

/-- White space around a text makes no difference. -/
theorem parse_surrounded (hlabel : label ∈ addressName) (hroutine : routine ∈ addressName)
    (decimal : ∀ d ∈ digits, isDecimal d = true)
    (blank : ∀ c ∈ before.toList ++ after.toList, isBlank c = true)
    (spelled : raw.toList = label ++ offsetText digits ++ '^' :: routine) :
    parse (before ++ raw ++ after) = ofSegments label digits routine := by
  have solid : ∀ c ∈ raw.toList, isBlank c = false := by
    rw [spelled]
    have offset : offsetText digits ∈ 1 + addressOffset := mem_offset_iff.mpr ⟨digits, decimal, rfl⟩
    exact not_blank_of_mem_address (mem_address.mpr
      ⟨_, mem_addressLabel.mpr ⟨label, hlabel, _, offset, rfl⟩, routine, hroutine, rfl⟩)
  have trimmed : trim (before ++ raw ++ after).toList = raw.toList := by
    rw [String.toList_append, String.toList_append]
    refine trim_surrounded (fun c hc => blank c (List.mem_append_left _ hc))
      (fun c hc => blank c (List.mem_append_right _ hc)) ?_ solid
    rw [spelled]
    simp
  exact parse_of_spells ⟨hlabel, hroutine, decimal, .inl (trimmed.trans spelled)⟩

/-- An address with its offset in full is read back, or has more digits than are converted. -/
theorem parse_text (hlabel : a.label.toList ∈ addressName)
    (hroutine : a.routine.toList ∈ addressName)
    (blank : ∀ c ∈ before.toList ++ after.toList, isBlank c = true) {n : Nat}
    (offset : a.offset = n) :
    parse (before ++ a.text ++ after) =
      if n < 10 ^ maxDigits then .ok a else .error offsetTooLong := by
  have spelled : a.text.toList =
      a.label.toList ++ offsetText (natDigits n) ++ '^' :: a.routine.toList := by
    obtain ⟨c, u, digits⟩ := List.exists_cons_of_ne_nil (Json.natDigits_ne_nil n)
    simp [text, offset, showInt, digits, offsetText]
  have decimal : ∀ c ∈ natDigits n, isDecimal c = true := isDecimal_of_mem_natDigits
  rw [parse_surrounded hlabel hroutine decimal blank spelled, ofSegments_of_isDecimal decimal,
    numeral_natDigits, String.ofList_toList, String.ofList_toList, ← offset]
  by_cases small : n < 10 ^ maxDigits
  · have short := length_natDigits_le_iff.mpr small
    rw [if_pos small, if_neg (Nat.not_lt.mpr short)]
  · have long := mt length_natDigits_le_iff.mp small
    rw [if_neg small, if_pos (Nat.not_le.mp long)]

/-- The query of an address is read as the address without its offset. -/
theorem parse_query (hlabel : a.label.toList ∈ addressName)
    (hroutine : a.routine.toList ∈ addressName)
    (blank : ∀ c ∈ before.toList ++ after.toList, isBlank c = true) :
    parse (before ++ a.query ++ after) = .ok { a with offset := 0 } := by
  have spelled : a.query.toList = a.label.toList ++ offsetText [] ++ '^' :: a.routine.toList := by
    simp [query, offsetText]
  have decimal : ∀ d ∈ ([] : List Char), isDecimal d = true := nofun
  rw [parse_surrounded hlabel hroutine decimal blank spelled, ofSegments_of_isDecimal decimal,
    String.ofList_toList, String.ofList_toList]
  rfl

end

/-- A text is read as an address exactly if it spells one with an offset of no more digits than
are converted, and it is refused as an address exactly if it spells none.  So an address is read
back from its text, whatever white space stands around it, and from its query without its
offset. -/
theorem parse_spelled :
    (∀ raw : String,
      (∀ a, parse raw = .ok a ↔ ∃ label digits routine,
        Spells (trim raw.toList) label digits routine ∧ digits.length ≤ maxDigits ∧
          a = ⟨String.ofList routine, String.ofList label, numeral digits⟩) ∧
      (parse raw = .error .invalidAddress ↔
        ∀ label digits routine, ¬ Spells (trim raw.toList) label digits routine) ∧
      ∀ label digits routine, Spells (trim raw.toList) label digits routine →
        maxDigits < digits.length → parse raw = .error offsetTooLong) ∧
    ∀ (a : Address) (before after : String),
      a.label.toList ∈ addressName → a.routine.toList ∈ addressName →
      (∀ c ∈ before.toList ++ after.toList, isBlank c = true) →
      (∀ n : Nat, a.offset = n →
        parse (before ++ a.text ++ after) =
          if n < 10 ^ maxDigits then .ok a else .error offsetTooLong) ∧
      parse (before ++ a.query ++ after) = .ok { a with offset := 0 } := by
  constructor
  · intro raw
    refine ⟨fun a => parse_eq_ok_iff, parse_eq_invalid_iff_spells, ?_⟩
    intro label digits routine h long
    rw [parse_of_spells h, ofSegments_of_isDecimal h.decimal, if_pos long]
  · intro a before after hlabel hroutine blank
    exact ⟨fun n => parse_text hlabel hroutine blank, parse_query hlabel hroutine blank⟩

/-- An offset in Devanagari digits in front of a line feed, and the same address read back. -/
theorem parse_spelled_devanagari :
    let a : Address := ⟨"B", "%A", 42⟩
    Spells (trim " %A+४२\n^B".toList) ['%', 'A'] ['४', '२'] ['B'] ∧
      parse " %A+४२\n^B" = .ok a ∧
      parse ("\t" ++ a.text ++ "\u2003") = .ok a ∧
      parse ("\t" ++ a.query ++ "\u2003") = .ok { a with offset := 0 } := by
  intro a
  have hlabel : ['%', 'A'] ∈ addressName :=
    mem_addressName.mpr ⟨['%'], 'A', [], .inr rfl, by decide, nofun, rfl⟩
  have hroutine : ['B'] ∈ addressName :=
    mem_addressName.mpr ⟨[], 'B', [], .inl rfl, by decide, nofun, rfl⟩
  have spells : Spells (trim " %A+४२\n^B".toList) ['%', 'A'] ['४', '२'] ['B'] :=
    ⟨hlabel, hroutine, List.all_eq_true.mp (by decide), .inr (by decide)⟩
  have labelled : a.label.toList = ['%', 'A'] := by decide
  have called : a.routine.toList = ['B'] := by decide
  obtain ⟨back, query⟩ := parse_spelled.2 a "\t" "\u2003" (labelled ▸ hlabel) (called ▸ hroutine)
    (List.all_eq_true.mp (by decide))
  have small : 42 < 10 ^ maxDigits :=
    calc 42 < 10 ^ 2 := by decide
      _ ≤ 10 ^ maxDigits := Nat.pow_le_pow_right (by decide) (by decide)
  have read := back 42 rfl
  rw [if_pos small] at read
  refine ⟨spells, ?_, read, query⟩
  exact ((parse_spelled.1 _).1 a).mpr ⟨_, _, _, spells, by decide, by decide +kernel⟩

end Address

end RefNav
