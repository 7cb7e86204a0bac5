import Mathlib.Data.List.Induction
import RefNav.Proofs.Json.RoundTrip

/-! # The limits of the reader and the writer

Whatever was read keeps within the reader's limits, so that it can be written and read again:
integers have no more digits than are converted, keys are distinct, and containers are not nested
too deeply.  A list inside a list inside a list comes to an end at the deepest level allowed, where
it is read and where it is written.
-/

namespace RefNav.Json

open RefNav.Text

/-! ## Numbers -/

theorem isDigit_of_mem_wholeDigits {cs : List Char} {c : Char} (h : c ∈ wholeDigits cs) :
    isDigit c = true := by
  unfold wholeDigits at h
  split at h
  · rw [List.mem_singleton.mp h]
    rfl
  · exact (List.all_eq_true.mp List.all_takeWhile) c h

theorem digitsValue_lt {cs : List Char} (h : ∀ c ∈ cs, isDigit c = true) :
    digitsValue cs < 10 ^ cs.length := by
  induction cs using List.reverseRecOn with
  | nil => decide
  | append_singleton cs c ih =>
      have earlier := ih fun d hd => h d (List.mem_append_left _ hd)
      have digit := h c (by simp)
      rw [isDigit, Bool.and_eq_true, decide_eq_true_eq, decide_eq_true_eq, Char.le_def,
        Char.le_def, UInt32.le_iff_toNat_le, UInt32.le_iff_toNat_le] at digit
      have high : c.toNat ≤ 57 := digit.2
      have step : digitsValue (cs ++ [c]) = 10 * digitsValue cs + (c.toNat - 48) := by
        simp [digitsValue]
      rw [step, List.length_append, List.length_singleton, Nat.pow_succ]
      omega

/-- A number that was read has no more digits than its text. -/
theorem readable_readNumber {cur next : Cursor} {v : Json} (h : readNumber cur = .ok (v, next))
    (depth : Nat) : Readable depth v := by
  unfold readNumber at h
  extract_lets negative body whole afterWhole fraction fractionSize exponent size at h
  split at h
  · cases h
  · split at h
    · split at h
      · cases h
      next few =>
        cases h
        have digits : digitsValue whole < 10 ^ whole.length :=
          digitsValue_lt fun _ => isDigit_of_mem_wholeDigits
        have bound : (10 : Nat) ^ whole.length ≤ 10 ^ maxDigits :=
          Nat.pow_le_pow_right (by decide) (Nat.not_lt.mp few)
        have same : (if negative then -(digitsValue whole : Int) else digitsValue whole).natAbs =
            digitsValue whole := by
          split <;> simp
        refine .int ?_
        rw [same, natDigits, Nat.length_toDigits_le_iff (by decide) (by decide)]
        exact Nat.lt_of_lt_of_le digits bound
    · cases h
      exact .float _

theorem readable_word {w : List Char × Json} (h : w ∈ words) (depth : Nat) :
    Readable depth w.2 := by
  simp only [words, List.mem_cons, List.not_mem_nil, or_false] at h
  rcases h with rfl | rfl | rfl | rfl | rfl | rfl
  · exact .null
  · exact .bool true
  · exact .bool false
  · exact .float _
  · exact .float _
  · exact .float _

theorem readable_readScalar {cur next : Cursor} {v : Json} (h : readScalar cur = .ok (v, next))
    (depth : Nat) : Readable depth v := by
  unfold readScalar at h
  split at h
  next found =>
    cases h
    exact readable_word (List.mem_of_find?_eq_some found) depth
  next => exact readable_readNumber h depth

/-! ## Values -/

/-- Whatever is read with that much fuel can be read with as many containers around it. -/
structure ReadsReadable (fuel : Nat) : Prop where
  value : ∀ {depth : Nat} {cur next : Cursor} {v : Json},
    readValue fuel depth cur = .ok (v, next) → Readable depth v
  items : ∀ {depth : Nat} {cur next : Cursor} {items : List Json},
    readItems fuel depth cur = .ok (items, next) → ∀ v ∈ items, Readable depth v
  members : ∀ {depth : Nat} {cur next : Cursor} {members : List (String × Json)},
    readMembers fuel depth cur = .ok (members, next) → ∀ p ∈ members, Readable depth p.2

variable {fuel depth : Nat} {cur next : Cursor} {v : Json} {items : List Json}
  {members : List (String × Json)}

theorem ReadsReadable.succ_value (ih : ReadsReadable fuel)
    (h : readValue (fuel + 1) depth cur = .ok (v, next)) : Readable depth v := by
  unfold readValue at h
  split at h
  · cases h
  split at h
  · split at h
    next points _ _ =>
      cases h
      unfold ofPoints
      split
      · exact .str _
      · exact .unpaired _
    · cases h
  split at h
  · split at h
    · cases h
    next shallow =>
      have shallow := Nat.not_le.mp shallow
      dsimp only at h
      split at h
      · cases h
        exact .arr shallow (List.forall_mem_nil _)
      · split at h
        next read =>
          cases h
          exact .arr shallow (ih.items read)
        · cases h
  split at h
  · split at h
    · cases h
    next shallow =>
      have shallow := Nat.not_le.mp shallow
      dsimp only at h
      split at h
      · cases h
        exact .obj shallow Members.distinct_nil (List.forall_mem_nil _)
      · split at h
        next read =>
          cases h
          exact .obj shallow (Members.ofPairs_distinct _) fun p known =>
            ih.members read p (Members.mem_ofPairs known)
        · cases h
  · exact readable_readScalar h depth

theorem ReadsReadable.succ_items (ih : ReadsReadable fuel)
    (h : readItems (fuel + 1) depth cur = .ok (items, next)) : ∀ v ∈ items, Readable depth v := by
  unfold readItems at h
  split at h
  · cases h
  next value behind first =>
    have here := ih.value first
    dsimp only at h
    split at h
    · cases h
      exact List.forall_mem_singleton.mpr here
    · split at h
      · split at h
        next read =>
          cases h
          exact List.forall_mem_cons.mpr ⟨here, ih.items read⟩
        · cases h
      · cases h

theorem ReadsReadable.succ_members (ih : ReadsReadable fuel)
    (h : readMembers (fuel + 1) depth cur = .ok (members, next)) :
    ∀ p ∈ members, Readable depth p.2 := by
  unfold readMembers at h
  split at h
  · cases h
  split at h
  · cases h
  dsimp only at h
  split at h
  · cases h
  split at h
  · cases h
  next value behind first =>
    have here := ih.value first
    split at h
    · cases h
      exact List.forall_mem_singleton.mpr here
    · split at h
      · split at h
        next read =>
          cases h
          exact List.forall_mem_cons.mpr ⟨here, ih.members read⟩
        · cases h
      · cases h

theorem readsReadable (fuel : Nat) : ReadsReadable fuel := by
  induction fuel with
  | zero => exact ⟨nofun, nofun, nofun⟩
  | succ fuel ih => exact ⟨ih.succ_value, ih.succ_items, ih.succ_members⟩

/-- What was read can be read. -/
theorem readable_of_readText {text : List Char} (h : readText text = .ok v) : Readable 0 v := by
  unfold readText at h
  split at h
  · cases h
  split at h
  · cases h
  next read =>
    dsimp only at h
    split at h
    · cases h
      exact (readsReadable _).value read
    · cases h

/-! ## Writing -/

theorem itemObstacle?_eq_none (all : ∀ v ∈ items, obstacle? depth v = none) :
    itemObstacle? depth items = none := by
  induction items with
  | nil => rfl
  | cons v items ih =>
      obtain ⟨here, later⟩ := List.forall_mem_cons.mp all
      rw [itemObstacle?, here, Option.none_or, ih later]

theorem memberObstacle?_eq_none (all : ∀ p ∈ members, obstacle? depth p.2 = none) :
    memberObstacle? depth members = none := by
  induction members with
  | nil => rfl
  | cons p members ih =>
      obtain ⟨here, later⟩ := List.forall_mem_cons.mp all
      rw [memberObstacle?, here, Option.none_or, ih later]

/-- Nothing stands in the way of writing what can be read. -/
theorem obstacle?_of_readable (h : Readable depth v) : obstacle? depth v = none := by
  induction h with
  | int short => simp only [obstacle?, Nat.not_lt.mpr short, if_false]
  | arr shallow _ ih =>
      simp only [obstacle?, Nat.not_le.mpr shallow, if_false, itemObstacle?_eq_none ih]
  | obj shallow _ _ ih =>
      simp only [obstacle?, Nat.not_le.mpr shallow, if_false, memberObstacle?_eq_none ih]
  | _ => rfl

theorem serialise_of_readable (h : Readable 0 v) : serialise v = .ok v.pretty := by
  rw [serialise, obstacle?_of_readable h]

theorem obstacle?_int {n : Nat} (long : 10 ^ maxDigits ≤ n) (depth : Nat) :
    obstacle? depth (.int n) = some .tooManyDigits := by
  have digits : maxDigits < (natDigits n).length := by
    rw [natDigits, ← Nat.not_le, Nat.length_toDigits_le_iff (by decide) (by decide)]
    exact Nat.not_lt.mpr long
  simp only [obstacle?, Int.natAbs_natCast, digits, if_true]

/-! ## Nesting -/

/-- An empty list inside as many lists. -/
def nest : Nat → Json
  | 0 => .arr []
  | n + 1 => .arr [nest n]

theorem nest_succ (n : Nat) : nest (n + 1) = .arr [nest n] := rfl

theorem ordinary_nest (n : Nat) : Ordinary (nest n) := by
  induction n with
  | zero => exact .arr nofun
  | succ n ih => exact .arr (List.forall_mem_singleton.mpr ih)

theorem obstacle?_nest {n : Nat} (deep : maxDepth ≤ depth + n) :
    obstacle? depth (nest n) = some .tooDeep := by
  induction n generalizing depth with
  | zero => simp only [nest, obstacle?, Nat.add_zero depth ▸ deep, if_true]
  | succ n ih =>
      rw [nest_succ, obstacle?]
      split
      · rfl
      · rw [itemObstacle?, ih (by omega), Option.some_or]

theorem readValue_at_maxDepth (deep : maxDepth ≤ depth) (fuel offset : Nat) (more : List Char) :
    readValue (fuel + 1) depth ⟨offset, '[' :: more⟩ = .error (.tooDeep "array") := by
  unfold readValue
  simp [deep]

/-- The reader gives up on the way in, whatever follows. -/
theorem readValue_nest {n : Nat} (deep : maxDepth ≤ depth + n) (indent offset : Nat)
    (rest : List Char) (long : 2 * n < fuel) :
    readValue fuel depth ⟨offset, indented indent (nest n) ++ rest⟩ =
      .error (.tooDeep "array") := by
  induction n generalizing fuel depth indent offset rest with
  | zero =>
      obtain ⟨fuel, rfl⟩ := Nat.exists_eq_succ_of_ne_zero (by omega : fuel ≠ 0)
      exact readValue_at_maxDepth deep fuel offset (']' :: rest)
  | succ n ih =>
      -- A list takes two units of fuel, one for itself and one for its first item.
      obtain ⟨fuel, rfl⟩ : ∃ less, fuel = less + 2 := ⟨fuel - 2, by omega⟩
      by_cases already : maxDepth ≤ depth
      · rw [nest_succ, indented_arr]
        exact readValue_at_maxDepth already (fuel + 1) offset _
      · have opens := (opens_indented (ordinary_nest n) (indent + 1)).append
          (indentedItems (indent + 1) [] ++ (newline indent ++ ']' :: rest))
        obtain ⟨start, skipped⟩ := skip_newline opens.noSpace (offset + 1) (indent + 1)
        have inner : readValue fuel (depth + 1) ⟨start, _⟩ = .error (.tooDeep "array") :=
          ih (by omega) (indent + 1) start
            (indentedItems (indent + 1) [] ++ (newline indent ++ ']' :: rest)) (by omega)
        have items : readItems (fuel + 1) (depth + 1) ⟨start, indented (indent + 1) (nest n) ++
            (indentedItems (indent + 1) [] ++ (newline indent ++ ']' :: rest))⟩ =
              .error (.tooDeep "array") := by
          unfold readItems
          rw [inner]
        rw [nest_succ, indented_arr]
        unfold readValue
        simp only [Char.reduceEq, if_false, if_true, already, Cursor.advance,
          List.drop_succ_cons, List.drop_zero]
        rw [skipped, items]
        simp only [opens.head?_ne, if_false]

theorem length_nest (indent n : Nat) : n < (indented indent (nest n)).length := by
  induction n generalizing indent with
  | zero => exact Nat.succ_pos _
  | succ n ih =>
      have text := congrArg List.length (indented_arr indent (nest n) [] [])
      have inner := ih (indent + 1)
      simp only [List.append_nil, List.length_cons, List.length_append] at text
      rw [nest_succ]
      omega

theorem readMembers_nest (k : String) {n : Nat} (deep : maxDepth ≤ depth + n) (indent offset : Nat)
    (rest : List Char) (long : 2 * n < fuel) :
    readMembers (fuel + 1) depth
        ⟨offset, stringText k ++ ':' :: ' ' :: (indented indent (nest n) ++ rest)⟩ =
      .error (.tooDeep "array") := by
  have opens := (opens_indented (ordinary_nest n) indent).append rest
  obtain ⟨start, keyed⟩ := readMembers_key fuel depth offset k opens.noSpace
  rw [keyed, readValue_nest deep indent start rest long]

theorem readValue_obj_nest (k : String) {n : Nat} (shallow : depth < maxDepth)
    (deep : maxDepth ≤ depth + 1 + n) (indent offset : Nat) (rest : List Char)
    (long : 2 * n < fuel) :
    readValue (fuel + 2) depth ⟨offset, indented indent (.obj [(k, nest n)]) ++ rest⟩ =
      .error (.tooDeep "array") := by
  have opens := (opens_stringText k).append (':' :: ' ' :: (indented (indent + 1) (nest n) ++
    (indentedMembers (indent + 1) [] ++ (newline indent ++ '\x7d' :: rest))))
  obtain ⟨start, skipped⟩ := skip_newline opens.noSpace (offset + 1) (indent + 1)
  have inner := readMembers_nest k deep (indent + 1) start
    (indentedMembers (indent + 1) [] ++ (newline indent ++ '\x7d' :: rest)) long
  rw [indented_obj]
  unfold readValue
  simp only [Char.reduceEq, if_false, if_true, Nat.not_le.mpr shallow, Cursor.advance,
    List.drop_succ_cons, List.drop_zero]
  rw [skipped, inner]
  simp only [opens.head?_ne, if_false]

/-- An object that holds too many lists inside each other is written, but not read. -/
theorem readText_nest (k : String) {n : Nat} (deep : maxDepth ≤ n + 1) (indent : Nat) :
    readText (indented indent (.obj [(k, nest n)])) = .error (.tooDeep "array") := by
  have free : Ordinary (.obj [(k, nest n)]) :=
    .obj (List.forall_mem_singleton.mpr (ordinary_nest n))
  have long : n < (indented indent (.obj [(k, nest n)])).length := by
    have inner := length_nest (indent + 1) n
    have size := congrArg List.length (indented_obj indent k (nest n) [] [])
    simp only [List.append_nil, List.length_cons, List.length_append] at size
    omega
  have value := readValue_obj_nest k (by decide : 0 < maxDepth) (by omega) indent 0 []
    (by omega : 2 * n < 2 * (indented indent (.obj [(k, nest n)])).length)
  rw [List.append_nil] at value
  rw [readText_eq free, value]

end RefNav.Json
