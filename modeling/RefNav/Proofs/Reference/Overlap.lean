import RefNav.Proofs.Reference.Scan
import RefNav.Proofs.Reference.Shape

/-! # Occurrences that share characters

Only two pairs of shapes can share characters: a routine is the last part of a
label call, and a label call begins at the second character of a macro.
-/

namespace RefNav

open RefNav.Text RefNav.Shape

/-! ## Characters that show where a shape begins -/

/-- The first character of a shape. -/
def Kind.opening : Kind → Char
  | .labelCall => '$'
  | .routine => '^'
  | .macroCall => '$'
  | .classRef => '#'

theorem Kind.recognise?_opening {kind : Kind} {cs : List Char} {hit : Hit}
    (h : kind.recognise? cs = some hit) : hit.raw[0]? = some kind.opening := by
  cases kind with
  | labelCall =>
      obtain ⟨_, _, _, _, _, _, _, hraw, _⟩ := labelCall?_eq_some h
      rw [hraw]
      rfl
  | routine =>
      obtain ⟨_, _, hraw, _⟩ := routine?_eq_some h
      rw [hraw]
      rfl
  | macroCall =>
      obtain ⟨_, _, _, _, _, hraw, _⟩ := macroCall?_eq_some h
      rw [hraw]
      rfl
  | classRef =>
      obtain ⟨_, _, _, hraw, _⟩ := classRef?_eq_some h
      rw [hraw]
      rfl

theorem Kind.eq_routine_of_opening {kind : Kind} (h : kind.opening = '^') : kind = .routine := by
  cases kind with
  | routine => rfl
  | _ => exact absurd h (by decide)

namespace Shape

theorem isNameChar_of_mem_dotted {cs name rest : List Char} {d : Char}
    (h : dotted? isHead cs = some (name, rest)) (hd : d ∈ name) : isNameChar d = true := by
  obtain ⟨c, cs', _, head, rfl, _⟩ := dotted?_eq_some h
  rcases List.mem_cons.mp hd with rfl | later
  · exact isNameChar_of_isHead head
  · exact isNameChar_of_mem_dottedTail later

theorem opening_ne_of_isNameChar {c : Char} (h : isNameChar c = true) (kind : Kind) :
    c ≠ kind.opening := by
  rintro rfl
  cases kind <;> exact absurd h (by decide)

theorem opening_ne_of_isMacroChar {c : Char} (h : isMacroChar c = true) (kind : Kind) :
    c ≠ kind.opening := by
  rintro rfl
  cases kind <;> exact absurd h (by decide)

variable {cs : List Char} {hit : Hit} {kind : Kind} {t : Nat}

/-- In a label call only its own beginning and its caret can open a shape. -/
theorem opening_in_labelCall (h : labelCall? cs = some hit)
    (ht : hit.raw[t]? = some kind.opening) :
    t < 2 ∧ kind.opening = '$' ∨
      kind = .routine ∧ ∃ before after rest, t = before.length ∧ cs = before ++ '^' :: after ∧
        dotted? isHead after = some (hit.symbol, rest) ∧
        hit.raw = before ++ '^' :: hit.symbol := by
  obtain ⟨c, tail, rest, after, head, words, hsymbol, hraw, hcs⟩ := labelCall?_eq_some h
  rw [hraw] at ht
  match t with
  | 0 => exact .inl ⟨by omega, (Option.some.inj ht).symm⟩
  | 1 => exact .inl ⟨by omega, (Option.some.inj ht).symm⟩
  | t + 2 =>
      have hbody : (c :: tail ++ '^' :: hit.symbol)[t]? = some kind.opening := ht
      rcases Nat.lt_trichotomy t (c :: tail).length with inLabel | atCaret | inRoutine
      · rw [List.getElem?_append_left inLabel] at hbody
        have name : isNameChar kind.opening = true := by
          rcases List.mem_cons.mp (List.mem_of_getElem? hbody) with first | later
          · rw [first]
            exact isNameChar_of_isHead head
          · exact isNameChar_of_isWord (words _ later)
        exact absurd rfl (opening_ne_of_isNameChar name kind)
      · rw [List.getElem?_append_right (Nat.le_of_eq atCaret.symm), atCaret, Nat.sub_self] at hbody
        have caret : kind = .routine := Kind.eq_routine_of_opening (Option.some.inj hbody).symm
        refine .inr ⟨caret, '$' :: '$' :: c :: tail, after, rest, ?_, hcs, hsymbol, hraw⟩
        rw [atCaret]
        rfl
      · obtain ⟨k, rfl⟩ := Nat.exists_eq_add_of_lt inRoutine
        rw [List.getElem?_append_right (by omega), Nat.add_assoc, Nat.add_sub_cancel_left] at hbody
        have name := isNameChar_of_mem_dotted hsymbol (List.mem_of_getElem? hbody)
        exact absurd rfl (opening_ne_of_isNameChar name kind)

theorem opening_in_routine (h : routine? cs = some hit) (ht : hit.raw[t]? = some kind.opening) :
    kind = .routine := by
  obtain ⟨after, hsymbol, hraw, _⟩ := routine?_eq_some h
  obtain ⟨rest, hdotted⟩ := dotted?_of_routineName? hsymbol
  rw [hraw] at ht
  rcases List.mem_cons.mp (List.mem_of_getElem? ht) with caret | inName
  · exact Kind.eq_routine_of_opening caret
  · exact absurd rfl (opening_ne_of_isNameChar (isNameChar_of_mem_dotted hdotted inName) kind)

theorem opening_in_macroCall (h : macroCall? cs = some hit)
    (ht : hit.raw[t]? = some kind.opening) : t < 3 ∧ kind.opening = '$' := by
  obtain ⟨c, tail, rest, head, chars, hraw, _⟩ := macroCall?_eq_some h
  rw [hraw] at ht
  match t with
  | 0 => exact ⟨by omega, (Option.some.inj ht).symm⟩
  | 1 => exact ⟨by omega, (Option.some.inj ht).symm⟩
  | 2 => exact ⟨by omega, (Option.some.inj ht).symm⟩
  | t + 3 =>
      have hname : (c :: tail)[t]? = some kind.opening := ht
      rcases List.mem_cons.mp (List.mem_of_getElem? hname) with first | later
      · exact absurd first.symm (opening_ne_of_isNameChar (isNameChar_of_isHead head) kind)
      · exact absurd rfl (opening_ne_of_isMacroChar (chars _ later) kind)

theorem opening_in_classRef (h : classRef? cs = some hit)
    (ht : hit.raw[t]? = some kind.opening) : kind = .classRef := by
  obtain ⟨taken, _, chars, hraw, _⟩ := classRef?_eq_some h
  rw [hraw] at ht
  have classChar : isClassChar kind.opening = true := by
    rcases List.mem_cons.mp (List.mem_of_getElem? ht) with first | later
    · rw [first]
      rfl
    · exact chars _ later
  cases kind with
  | classRef => rfl
  | _ => exact absurd classChar (by decide)

end Shape

/-! ## Two shapes at a distance -/

section

variable {line : List Char} {a b : Hit} {i d : Nat}

/-- Two parts of a line agree where they lie on each other. -/
theorem getElem?_shared {first second : List Char} {t : Nat}
    (hfirst : ∃ rest, line.drop i = first ++ rest)
    (hsecond : ∃ rest, line.drop (i + d) = second ++ rest)
    (inFirst : d + t < first.length) (inSecond : t < second.length) :
    first[d + t]? = second[t]? := by
  obtain ⟨rest, hfirst⟩ := hfirst
  obtain ⟨rest', hsecond⟩ := hsecond
  have left : (line.drop i)[d + t]? = first[d + t]? := by
    rw [hfirst, List.getElem?_append_left inFirst]
  have right : (line.drop (i + d))[t]? = second[t]? := by
    rw [hsecond, List.getElem?_append_left inSecond]
  rw [← left, ← right, List.getElem?_drop, List.getElem?_drop, Nat.add_assoc]

/-- The first of two things that share a character has the opening of the second
in it. -/
theorem opening_shared {first second : Kind} (ha : first.recognise? (line.drop i) = some a)
    (hb : second.recognise? (line.drop (i + d)) = some b) (meets : d < a.raw.length) :
    a.raw[d]? = some second.opening := by
  obtain ⟨_, restA⟩ := Kind.recognise?_append ha
  obtain ⟨nonempty, restB⟩ := Kind.recognise?_append hb
  rw [← Kind.recognise?_opening hb]
  exact getElem?_shared restA restB meets (List.length_pos_iff.mpr nonempty)

/-- A routine in a label call ends where the label call ends. -/
theorem routine_in_labelCall (ha : Kind.labelCall.recognise? (line.drop i) = some a)
    (hb : Kind.routine.recognise? (line.drop (i + d)) = some b) (meets : d < a.raw.length) :
    0 < d ∧ d + b.raw.length = a.raw.length := by
  have shared := opening_shared ha hb meets
  rcases opening_in_labelCall ha shared with
    ⟨_, dollar⟩ | ⟨_, before, after, rest, rfl, hcs, hsymbol, hraw⟩
  · exact absurd dollar (by decide)
  obtain ⟨after', hname, hrawB, hcsB⟩ := routine?_eq_some hb
  obtain ⟨rest', hdotted⟩ := dotted?_of_routineName? hname
  rw [← List.drop_drop, hcs, List.drop_left] at hcsB
  cases hcsB
  rw [hsymbol] at hdotted
  have same : a.symbol = b.symbol := (Prod.mk.inj (Option.some.inj hdotted)).1
  constructor
  · apply List.length_pos_iff.mpr
    rintro rfl
    have dollar := Kind.recognise?_opening ha
    rw [hraw] at dollar
    exact absurd (Option.some.inj dollar) (by decide)
  · rw [hraw, hrawB, same, List.length_append]

/-- A macro does not begin in a label call. -/
theorem not_macroCall_in_labelCall (ha : Kind.labelCall.recognise? (line.drop i) = some a)
    (hb : Kind.macroCall.recognise? (line.drop (i + d)) = some b) : a.raw.length ≤ d := by
  apply Nat.le_of_not_lt
  intro meets
  have shared := opening_shared ha hb meets
  rcases opening_in_labelCall ha shared with ⟨early, _⟩ | ⟨routine, _⟩
  · obtain ⟨_, restA⟩ := Kind.recognise?_append ha
    obtain ⟨_, restB⟩ := Kind.recognise?_append hb
    obtain ⟨c, tail, _, _, head, _, _, hrawA, _⟩ := labelCall?_eq_some ha
    obtain ⟨e, tail', _, _, _, hrawB, _⟩ := macroCall?_eq_some hb
    have third : a.raw[d + (2 - d)]? = b.raw[2 - d]? := by
      apply getElem?_shared restA restB
      · simp only [hrawA, List.length_append, List.length_cons]
        omega
      · simp only [hrawB, List.length_cons]
        omega
    have dollar : b.raw[2 - d]? = some '$' := by
      rw [hrawB]
      match d with
      | 0 => rfl
      | 1 => rfl
    rw [Nat.add_sub_cancel' (by omega), dollar, hrawA] at third
    exact opening_ne_of_isNameChar (isNameChar_of_isHead head) .macroCall (Option.some.inj third)
  · cases routine

/-- A label call in a macro begins at its second character and goes on behind it. -/
theorem labelCall_in_macroCall (ha : Kind.macroCall.recognise? (line.drop i) = some a)
    (hb : Kind.labelCall.recognise? (line.drop (i + d)) = some b) (meets : d < a.raw.length) :
    d = 1 ∧ a.raw.length < d + b.raw.length := by
  obtain ⟨_, restA⟩ := Kind.recognise?_append ha
  obtain ⟨_, restB⟩ := Kind.recognise?_append hb
  obtain ⟨e, tail', _, headE, _, hrawA, _⟩ := macroCall?_eq_some ha
  obtain ⟨c, tail, _, _, headC, _, _, hrawB, _⟩ := labelCall?_eq_some hb
  have lengthA : a.raw.length = tail'.length + 4 := by rw [hrawA]; rfl
  have lengthB : b.raw.length = tail.length + b.symbol.length + 4 := by
    simp only [hrawB, List.length_append, List.length_cons]
    omega
  have early := (opening_in_macroCall ha (opening_shared ha hb meets)).1
  have place : d = 1 := by
    match d with
    | 0 =>
        have third : a.raw[0 + 2]? = b.raw[2]? :=
          getElem?_shared restA restB (by omega) (by omega)
        rw [hrawA, hrawB] at third
        exact absurd (Option.some.inj third).symm
          (opening_ne_of_isNameChar (isNameChar_of_isHead headC) .macroCall)
    | 1 => rfl
    | 2 =>
        have second : a.raw[2 + 1]? = b.raw[1]? :=
          getElem?_shared restA restB (by omega) (by omega)
        rw [hrawA, hrawB] at second
        exact absurd (Option.some.inj second)
          (opening_ne_of_isNameChar (isNameChar_of_isHead headE) .macroCall)
  refine ⟨place, Nat.lt_of_not_le fun inside => ?_⟩
  have caret : b.raw[tail.length + 3]? = some Kind.routine.opening := by
    simp [hrawB, Kind.opening]
  have shared : a.raw[d + (tail.length + 3)]? = b.raw[tail.length + 3]? :=
    getElem?_shared restA restB (by omega) (by omega)
  rw [caret] at shared
  exact absurd (opening_in_macroCall ha shared).2 (by decide)

/-- The shapes of two things that share a character. -/
theorem shapes_of_shared {first second : Kind} (ha : first.recognise? (line.drop i) = some a)
    (hb : second.recognise? (line.drop (i + d)) = some b) (differ : first ≠ second)
    (meets : d < a.raw.length) :
    first = .labelCall ∧ second = .routine ∧ 0 < d ∧ d + b.raw.length = a.raw.length ∨
      first = .macroCall ∧ second = .labelCall ∧ d = 1 ∧ a.raw.length < d + b.raw.length := by
  have shared := opening_shared ha hb meets
  cases first with
  | labelCall =>
      cases second with
      | labelCall => exact absurd rfl differ
      | routine => exact .inl ⟨rfl, rfl, routine_in_labelCall ha hb meets⟩
      | macroCall => exact absurd meets (Nat.not_lt.mpr (not_macroCall_in_labelCall ha hb))
      | classRef =>
          rcases opening_in_labelCall ha shared with ⟨_, dollar⟩ | ⟨routine, _⟩
          · exact absurd dollar (by decide)
          · cases routine
  | routine => exact absurd (opening_in_routine ha shared).symm differ
  | macroCall =>
      have dollar := (opening_in_macroCall ha shared).2
      cases second with
      | labelCall => exact .inr ⟨rfl, rfl, labelCall_in_macroCall ha hb meets⟩
      | macroCall => exact absurd rfl differ
      | routine => exact absurd dollar (by decide)
      | classRef => exact absurd dollar (by decide)
  | classRef => exact absurd (opening_in_classRef ha shared).symm differ

end

end RefNav
