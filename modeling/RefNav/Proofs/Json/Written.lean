import RefNav.Proofs.Json.Scalar

/-! # The characters that are written

Strings are escaped, so that the text of an ordinary value has only characters that ASCII can
show, and line feeds.
-/

namespace RefNav.Json

open RefNav.Text

variable {v : Json} {items : List Json} {members : List (String × Json)}

/-- There is no double in the value, and no half of a surrogate pair on its own. -/
inductive Ordinary : Json → Prop where
  | null : Ordinary .null
  | bool (b : Bool) : Ordinary (.bool b)
  | int (n : Int) : Ordinary (.int n)
  | str (s : String) : Ordinary (.str s)
  | arr {items : List Json} (all : ∀ v ∈ items, Ordinary v) : Ordinary (.arr items)
  | obj {members : List (String × Json)} (all : ∀ p ∈ members, Ordinary p.2) :
      Ordinary (.obj members)

theorem ordinary_obj : Ordinary (.obj members) ↔ ∀ p ∈ members, Ordinary p.2 := by
  constructor
  · intro h
    cases h with
    | obj all => exact all
  · exact .obj

/-- The characters that are written: those that ASCII can show, and line feeds. -/
def isWritten (c : Char) : Bool :=
  c = '\n' || (0x20 ≤ c.toNat && c.toNat ≤ 0x7e)

/-- A text of such characters. -/
def Written (text : List Char) : Prop :=
  ∀ c ∈ text, isWritten c = true

theorem written_of_all {text : List Char} (h : text.all isWritten = true) : Written text :=
  List.all_eq_true.mp h

theorem written_nil : Written [] := nofun

theorem written_cons {c : Char} {text : List Char} :
    Written (c :: text) ↔ isWritten c = true ∧ Written text :=
  List.forall_mem_cons

theorem written_append {first second : List Char} :
    Written (first ++ second) ↔ Written first ∧ Written second :=
  List.forall_mem_append

theorem isWritten_digitChar {d : Nat} (h : d < 16) : isWritten (Nat.digitChar d) = true := by
  have all : ∀ d < 16, isWritten (Nat.digitChar d) = true := by decide
  exact all d h

theorem written_unitEscape {n : Nat} (h : n < 65536) : Written (unitEscape n) := by
  rw [unitEscape, hexPadded_four h]
  simp only [written_cons, written_nil, and_true]
  exact ⟨rfl, rfl, isWritten_digitChar (by omega), isWritten_digitChar (by omega),
    isWritten_digitChar (by omega), isWritten_digitChar (by omega)⟩

theorem written_escapeChar (c : Char) : Written (escapeChar c) := by
  unfold escapeChar
  iterate 7
    split
    · simp only [written_cons, written_nil, and_true]
      decide
  split
  next printable => simp [Written, isWritten, printable]
  next =>
    have valid := toNat_cases c
    split
    next short => exact written_unitEscape short
    next long =>
      exact written_append.mpr ⟨written_unitEscape (by omega), written_unitEscape (by omega)⟩

theorem written_stringText (s : String) : Written (stringText s) := by
  have inner : Written (s.toList.flatMap escapeChar) := by
    intro c hc
    obtain ⟨d, _, escaped⟩ := List.mem_flatMap.mp hc
    exact written_escapeChar d c escaped
  simp only [stringText, written_append, written_cons, written_nil, and_true]
  exact ⟨⟨rfl, inner⟩, rfl⟩

theorem written_intText (n : Int) : Written (intText n) := by
  have digits : Written (natDigits n.natAbs) := by
    intro c hc
    have digit := isDigit_of_mem_natDigits hc
    simp only [isDigit, Bool.and_eq_true, decide_eq_true_eq, Char.le_def, UInt32.le_iff_toNat_le]
      at digit
    have low : 48 ≤ c.toNat := digit.1
    have high : c.toNat ≤ 57 := digit.2
    simp only [isWritten, Bool.or_eq_true, Bool.and_eq_true, decide_eq_true_eq]
    omega
  rw [intText_eq, written_append, signText]
  refine ⟨?_, digits⟩
  split
  · exact written_cons.mpr ⟨rfl, written_nil⟩
  · exact written_nil

theorem written_newline (depth : Nat) : Written (newline depth) := by
  refine written_cons.mpr ⟨rfl, fun c hc => ?_⟩
  rw [List.eq_of_mem_replicate hc]
  rfl

theorem written_indentedItems (all : ∀ v ∈ items, ∀ depth, Written (indented depth v))
    (depth : Nat) : Written (indentedItems depth items) := by
  induction items with
  | nil => exact written_nil
  | cons v items ih =>
      have here := all v List.mem_cons_self depth
      have later := ih fun w hw => all w (List.mem_cons_of_mem v hw)
      simp only [indentedItems, written_append, written_cons]
      exact ⟨⟨⟨rfl, written_newline depth⟩, here⟩, later⟩

theorem written_indentedMembers (all : ∀ p ∈ members, ∀ depth, Written (indented depth p.2))
    (depth : Nat) : Written (indentedMembers depth members) := by
  induction members with
  | nil => exact written_nil
  | cons p members ih =>
      have here := all p List.mem_cons_self depth
      have later := ih fun q hq => all q (List.mem_cons_of_mem p hq)
      simp only [indentedMembers, written_append, written_cons]
      exact ⟨⟨⟨⟨rfl, written_newline depth⟩, written_stringText p.1⟩, rfl, rfl, here⟩, later⟩

theorem written_indented (free : Ordinary v) (depth : Nat) : Written (indented depth v) := by
  induction free generalizing depth with
  | null => exact written_of_all rfl
  | bool b => cases b <;> exact written_of_all rfl
  | int n => exact written_intText n
  | str s => exact written_stringText s
  | @arr items _ ih =>
      cases items with
      | nil => exact written_of_all rfl
      | cons v items =>
          have here := ih v List.mem_cons_self (depth + 1)
          have later := written_indentedItems (fun w hw => ih w (List.mem_cons_of_mem v hw))
            (depth + 1)
          simp only [indented, written_append, written_cons, written_nil, and_true]
          exact ⟨⟨⟨⟨⟨rfl, written_newline _⟩, here⟩, later⟩, written_newline _⟩, rfl⟩
  | @obj members _ ih =>
      cases members with
      | nil => exact written_of_all rfl
      | cons p members =>
          have here := ih p List.mem_cons_self (depth + 1)
          have later := written_indentedMembers (fun q hq => ih q (List.mem_cons_of_mem p hq))
            (depth + 1)
          simp only [indented, written_append, written_cons, written_nil, and_true]
          exact ⟨⟨⟨⟨⟨⟨rfl, written_newline _⟩, written_stringText _⟩, rfl, rfl, here⟩, later⟩,
            written_newline _⟩, rfl⟩

/-! ## Sorted keys -/

theorem sortedItems_eq_map (items : List Json) : sortedItems items = items.map sorted := by
  induction items with
  | nil => rfl
  | cons v items ih => rw [sortedItems, ih, List.map_cons]

theorem sortedMembers_eq_map (members : List (String × Json)) :
    sortedMembers members = members.map fun p => (p.1, sorted p.2) := by
  induction members with
  | nil => rfl
  | cons p members ih => rw [sortedMembers, ih, List.map_cons]

theorem ordinary_sorted (free : Ordinary v) : Ordinary v.sorted := by
  induction free with
  | null => exact .null
  | bool b => exact .bool b
  | int n => exact .int n
  | str s => exact .str s
  | arr _ ih =>
      rw [sorted, sortedItems_eq_map]
      refine .arr fun w hw => ?_
      obtain ⟨v, hv, rfl⟩ := List.mem_map.mp hw
      exact ih v hv
  | obj _ ih =>
      rw [sorted, sortedMembers_eq_map, sortMembers]
      refine .obj fun q hq => ?_
      obtain ⟨p, hp, rfl⟩ := List.mem_map.mp (List.mem_mergeSort.mp hq)
      exact ih p hp

theorem written_canonical (free : Ordinary v) : Written v.canonical.toList := by
  rw [canonical, pretty, String.toList_ofList]
  exact written_indented (ordinary_sorted free) 0

end RefNav.Json
