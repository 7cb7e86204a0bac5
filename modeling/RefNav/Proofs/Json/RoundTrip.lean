import RefNav.Proofs.Json.Members
import RefNav.Proofs.Json.Written

/-! # Values, written and read

An ordinary value is read back from its indented form: the reader goes through the text
in the order in which it was written, and what it has not read yet begins at each moment with
what was written next.
-/

namespace RefNav.Json

open RefNav.Text

/-! ## Values that can be read -/

/-- A value that can be read with `depth` containers open around it: integers are not too long,
keys are distinct, and containers are not nested too deeply. -/
inductive Readable : Nat → Json → Prop where
  | null {depth : Nat} : Readable depth .null
  | bool {depth : Nat} (b : Bool) : Readable depth (.bool b)
  | int {depth : Nat} {n : Int} (short : (natDigits n.natAbs).length ≤ maxDigits) :
      Readable depth (.int n)
  | float {depth : Nat} (x : Number.Binary64) : Readable depth (.float x)
  | str {depth : Nat} (s : String) : Readable depth (.str s)
  | unpaired {depth : Nat} (u : Unpaired) : Readable depth (.unpaired u)
  | arr {depth : Nat} {items : List Json} (shallow : depth < maxDepth)
      (all : ∀ v ∈ items, Readable (depth + 1) v) : Readable depth (.arr items)
  | obj {depth : Nat} {members : List (String × Json)} (shallow : depth < maxDepth)
      (distinct : Members.Distinct members) (all : ∀ p ∈ members, Readable (depth + 1) p.2) :
      Readable depth (.obj members)

theorem readable_obj {depth : Nat} {members : List (String × Json)} :
    Readable depth (.obj members) ↔
      depth < maxDepth ∧ Members.Distinct members ∧ ∀ p ∈ members, Readable (depth + 1) p.2 := by
  constructor
  · intro h
    cases h with
    | obj shallow distinct all => exact ⟨shallow, distinct, all⟩
  · rintro ⟨shallow, distinct, all⟩
    exact .obj shallow distinct all

/-! ## White space -/

/-- The text does not go on with white space. -/
def NoSpace (rest : List Char) : Prop :=
  ∀ c, rest.head? = some c → isSpace c = false

theorem skip_of_noSpace {rest : List Char} (h : NoSpace rest) (offset : Nat) :
    (Cursor.mk offset rest).skip = ⟨offset, rest⟩ := by
  cases rest with
  | nil => rfl
  | cons c more => simp [Cursor.skip, h c rfl]

theorem skip_newline {rest : List Char} (h : NoSpace rest) (offset depth : Nat) :
    ∃ after, (Cursor.mk offset (newline depth ++ rest)).skip = ⟨after, rest⟩ := by
  have spaces : ∀ c ∈ newline depth, isSpace c = true := by
    intro c hc
    rcases List.mem_cons.mp hc with rfl | blank
    · rfl
    · rw [List.eq_of_mem_replicate blank]
      rfl
  have rest_stays : rest.dropWhile isSpace = rest :=
    congrArg Cursor.rest (skip_of_noSpace h 0)
  refine ⟨_, congrArg (Cursor.mk _) ?_⟩
  rw [List.dropWhile_append_of_pos spaces, rest_stays]

theorem skip_blank {rest : List Char} (h : NoSpace rest) (offset : Nat) :
    ∃ after, (Cursor.mk offset (' ' :: rest)).skip = ⟨after, rest⟩ := by
  have rest_stays : rest.dropWhile isSpace = rest :=
    congrArg Cursor.rest (skip_of_noSpace h 0)
  exact ⟨_, congrArg (Cursor.mk _) rest_stays⟩

/-! ## The first character -/

/-- The text begins with a character that neither is white space nor closes a container. -/
def Opens (text : List Char) : Prop :=
  ∃ c more, text = c :: more ∧ isSpace c = false ∧ c ≠ ']' ∧ c ≠ '\x7d'

theorem Opens.append {text : List Char} (h : Opens text) (rest : List Char) :
    Opens (text ++ rest) := by
  obtain ⟨c, more, rfl, kind⟩ := h
  exact ⟨c, more ++ rest, rfl, kind⟩

theorem Opens.noSpace {text : List Char} (h : Opens text) : NoSpace text := by
  obtain ⟨c, more, rfl, noSpace, -⟩ := h
  intro d hd
  rw [← Option.some.inj hd]
  exact noSpace

theorem Opens.length_pos {text : List Char} (h : Opens text) : 0 < text.length := by
  obtain ⟨c, more, rfl, -⟩ := h
  exact Nat.succ_pos _

theorem Opens.head?_ne {text : List Char} (h : Opens text) :
    text.head? ≠ some ']' ∧ text.head? ≠ some '\x7d' := by
  obtain ⟨c, more, rfl, -, noBracket, noBrace⟩ := h
  simp [noBracket, noBrace]

theorem opens_stringText (s : String) : Opens (stringText s) :=
  ⟨'"', _, rfl, by decide⟩

theorem opens_natDigits (n : Nat) : Opens (natDigits n) := by
  obtain ⟨c, more, digits⟩ := List.exists_cons_of_ne_nil (natDigits_ne_nil n)
  have digit : isDigit c = true := isDigit_of_mem_natDigits (n := n) (by simp [digits])
  refine ⟨c, more, digits, ?_, ?_, ?_⟩
  · by_contra space
    simp only [isSpace, Bool.not_eq_false, Bool.or_eq_true, decide_eq_true_eq] at space
    rcases space with ((rfl | rfl) | rfl) | rfl <;> revert digit <;> decide
  · rintro rfl
    revert digit
    decide
  · rintro rfl
    revert digit
    decide

theorem opens_intText (n : Int) : Opens (intText n) := by
  rw [intText_eq, signText]
  split
  · exact ⟨'-', _, rfl, by decide⟩
  · exact opens_natDigits n.natAbs

/-! ## Containers -/

section

variable (depth : Nat) (k : String) (v : Json) (items : List Json) (members : List (String × Json))
  (rest : List Char)

theorem indented_arr : indented depth (.arr (v :: items)) ++ rest =
    '[' :: (newline (depth + 1) ++ (indented (depth + 1) v ++
      (indentedItems (depth + 1) items ++ (newline depth ++ ']' :: rest)))) := by
  simp [indented]

theorem indented_obj : indented depth (.obj ((k, v) :: members)) ++ rest =
    '\x7b' :: (newline (depth + 1) ++ (stringText k ++ ':' :: ' ' :: (indented (depth + 1) v ++
      (indentedMembers (depth + 1) members ++ (newline depth ++ '\x7d' :: rest))))) := by
  simp [indented]

theorem indentedItems_cons : indentedItems depth (v :: items) ++ rest =
    ',' :: (newline depth ++ (indented depth v ++ (indentedItems depth items ++ rest))) := by
  simp [indentedItems]

theorem indentedMembers_cons : indentedMembers depth ((k, v) :: members) ++ rest =
    ',' :: (newline depth ++ (stringText k ++ ':' :: ' ' :: (indented depth v ++
      (indentedMembers depth members ++ rest)))) := by
  simp [indentedMembers]

end

theorem opens_indented {v : Json} (h : Ordinary v) (depth : Nat) : Opens (indented depth v) := by
  cases h with
  | null => exact ⟨'n', _, rfl, by decide⟩
  | bool b => cases b <;> exact ⟨_, _, rfl, by decide⟩
  | int n => exact opens_intText n
  | str s => exact opens_stringText s
  | @arr items all =>
      cases items with
      | nil => exact ⟨'[', _, rfl, by decide⟩
      | cons v items =>
          have text := indented_arr depth v items []
          rw [List.append_nil] at text
          exact ⟨'[', _, text, by decide⟩
  | @obj members all =>
      cases members with
      | nil => exact ⟨'\x7b', _, rfl, by decide⟩
      | cons p members =>
          have text := indented_obj depth p.1 p.2 members []
          rw [List.append_nil] at text
          exact ⟨'\x7b', _, text, by decide⟩

/-! ## Scalars -/

/-- No word begins like an integer. -/
theorem find?_words_intText (n : Int) (rest : List Char) :
    (words.find? fun w => w.1.isPrefixOf (intText n ++ rest)) = none := by
  obtain ⟨c, more, digits⟩ := List.exists_cons_of_ne_nil (natDigits_ne_nil n.natAbs)
  have digit : isDigit c = true := isDigit_of_mem_natDigits (n := n.natAbs) (by simp [digits])
  have differs : 'n' ≠ c ∧ 't' ≠ c ∧ 'f' ≠ c ∧ 'N' ≠ c ∧ 'I' ≠ c ∧ '-' ≠ c := by
    refine ⟨?_, ?_, ?_, ?_, ?_, ?_⟩ <;> rintro rfl <;> revert digit <;> decide
  rw [intText_eq, digits, signText]
  split <;> simp [words, differs]

theorem readScalar_intText {n : Int} (short : (natDigits n.natAbs).length ≤ maxDigits)
    {rest : List Char} (ends : EndsValue rest) (offset : Nat) :
    ∃ after, readScalar ⟨offset, intText n ++ rest⟩ = .ok (.int n, ⟨after, rest⟩) := by
  unfold readScalar
  rw [find?_words_intText]
  exact readNumber_intText short ends offset

/-! ## Reading back -/

/-- Whatever was written in no more characters than there is fuel is read back. -/
structure ReadsBack (fuel : Nat) : Prop where
  value : ∀ (indent offset : Nat) {depth : Nat} {v : Json} {rest : List Char}, Readable depth v →
    Ordinary v → EndsValue rest → (indented indent v).length ≤ fuel →
    ∃ after, readValue fuel depth ⟨offset, indented indent v ++ rest⟩ = .ok (v, ⟨after, rest⟩)
  items : ∀ (indent outer offset : Nat) {depth : Nat} {v : Json} {items : List Json}
    {rest : List Char},
    (∀ w ∈ v :: items, Readable depth w) → (∀ w ∈ v :: items, Ordinary w) →
    (indented indent v).length + (indentedItems indent items).length < fuel →
    ∃ after, readItems fuel depth ⟨offset, indented indent v ++ (indentedItems indent items ++
      (newline outer ++ ']' :: rest))⟩ = .ok (v :: items, ⟨after, rest⟩)
  members : ∀ (indent outer offset : Nat) {depth : Nat} {k : String} {v : Json}
    {members : List (String × Json)} {rest : List Char},
    (∀ p ∈ (k, v) :: members, Readable depth p.2) → (∀ p ∈ (k, v) :: members, Ordinary p.2) →
    (indented indent v).length + (indentedMembers indent members).length < fuel →
    ∃ after, readMembers fuel depth ⟨offset, stringText k ++ ':' :: ' ' :: (indented indent v ++
      (indentedMembers indent members ++ (newline outer ++ '\x7d' :: rest)))⟩ =
        .ok ((k, v) :: members, ⟨after, rest⟩)

variable {fuel depth indent outer offset : Nat} {k : String} {v : Json} {items : List Json}
  {members : List (String × Json)} {rest : List Char}

theorem noSpace_cons {c : Char} (h : isSpace c = false) (rest : List Char) :
    NoSpace (c :: rest) := by
  intro d hd
  rw [← Option.some.inj hd]
  exact h

theorem endsValue_newline (depth : Nat) (rest : List Char) : EndsValue (newline depth ++ rest) := by
  intro c hc
  exact .inr (Option.some.inj hc).symm

theorem endsValue_items (depth outer : Nat) (items : List Json) (rest : List Char) :
    EndsValue (indentedItems depth items ++ (newline outer ++ rest)) := by
  cases items with
  | nil => exact endsValue_newline outer rest
  | cons v items =>
      intro c hc
      rw [indentedItems_cons] at hc
      exact .inl (Option.some.inj hc).symm

theorem endsValue_members (depth outer : Nat) (members : List (String × Json)) (rest : List Char) :
    EndsValue (indentedMembers depth members ++ (newline outer ++ rest)) := by
  cases members with
  | nil => exact endsValue_newline outer rest
  | cons p members =>
      intro c hc
      rw [indentedMembers_cons] at hc
      exact .inl (Option.some.inj hc).symm

theorem length_indentedItems_cons (indent : Nat) (v : Json) (items : List Json) :
    (indented indent v).length + (indentedItems indent items).length <
      (indentedItems indent (v :: items)).length := by
  have text := congrArg List.length (indentedItems_cons indent v items [])
  simp only [List.append_nil, List.length_cons, List.length_append] at text
  omega

theorem length_indentedMembers_cons (indent : Nat) (k : String) (v : Json)
    (members : List (String × Json)) :
    (indented indent v).length + (indentedMembers indent members).length <
      (indentedMembers indent ((k, v) :: members)).length := by
  have text := congrArg List.length (indentedMembers_cons indent k v members [])
  simp only [List.append_nil, List.length_cons, List.length_append] at text
  omega

theorem ReadsBack.succ_items (ih : ReadsBack fuel) (readable : ∀ w ∈ v :: items, Readable depth w)
    (free : ∀ w ∈ v :: items, Ordinary w)
    (long : (indented indent v).length + (indentedItems indent items).length < fuel + 1) :
    ∃ after, readItems (fuel + 1) depth ⟨offset, indented indent v ++ (indentedItems indent items ++
      (newline outer ++ ']' :: rest))⟩ = .ok (v :: items, ⟨after, rest⟩) := by
  obtain ⟨behind, first⟩ := ih.value indent offset (readable v List.mem_cons_self)
    (free v List.mem_cons_self) (endsValue_items indent outer items (']' :: rest)) (by omega)
  unfold readItems
  rw [first]
  dsimp only
  cases items with
  | nil =>
      obtain ⟨after, skipped⟩ := skip_newline (noSpace_cons (c := ']') rfl rest) behind outer
      rw [indentedItems, List.nil_append, skipped]
      exact ⟨after + 1, rfl⟩
  | cons w items =>
      -- A comma and a line break stand before the next item, and the text is that much shorter.
      have shorter := length_indentedItems_cons indent w items
      have opens := (opens_indented (free w (by simp)) indent).append
        (indentedItems indent items ++ (newline outer ++ ']' :: rest))
      obtain ⟨start, skipped⟩ := skip_newline opens.noSpace (behind + 1) indent
      obtain ⟨after, others⟩ :
          ∃ after, readItems fuel depth ⟨start, _⟩ = .ok (w :: items, ⟨after, rest⟩) :=
        ih.items indent outer start (fun u hu => readable u (List.mem_cons_of_mem v hu))
          (fun u hu => free u (List.mem_cons_of_mem v hu)) (by omega)
      rw [indentedItems_cons, skip_of_noSpace (noSpace_cons (c := ',') rfl _)]
      simp only [List.head?_cons, Option.some.injEq, Char.reduceEq, if_false, if_true,
        Cursor.advance, List.drop_succ_cons, List.drop_zero]
      rw [skipped, others]
      exact ⟨after, rfl⟩

/-- The key of the first member is read, and its value comes next. -/
theorem readMembers_key (fuel depth offset : Nat) (k : String) {text : List Char}
    (noSpace : NoSpace text) :
    ∃ start, readMembers (fuel + 1) depth ⟨offset, stringText k ++ ':' :: ' ' :: text⟩ =
      match readValue fuel depth ⟨start, text⟩ with
      | .error f => .error f
      | .ok (value, next) =>
          let next := next.skip
          if next.rest.head? = some '\x7d' then .ok ([(k, value)], next.advance 1)
          else if next.rest.head? = some ',' then
            match readMembers fuel depth (next.advance 1).skip with
            | .ok (members, last) => .ok ((k, value) :: members, last)
            | .error f => .error f
          else .error (.malformed .expectingComma next.offset) := by
  obtain ⟨colon, key⟩ := readString_stringText k (':' :: ' ' :: text) offset
  obtain ⟨start, skipped⟩ := skip_blank noSpace (colon + 1)
  refine ⟨start, ?_⟩
  have quoted : ¬ (stringText k ++ ':' :: ' ' :: text).head? ≠ some '"' := fun other => other rfl
  conv =>
    lhs
    unfold readMembers
  rw [if_neg quoted, key]
  dsimp only
  rw [skip_of_noSpace (noSpace_cons (c := ':') rfl _)]
  simp only [List.head?_cons, ne_eq, not_true_eq_false, if_false, Cursor.advance,
    List.drop_succ_cons, List.drop_zero, keyOf_map_char, String.ofList_toList]
  rewrite [skipped]
  rfl

theorem ReadsBack.succ_members (ih : ReadsBack fuel)
    (readable : ∀ p ∈ (k, v) :: members, Readable depth p.2)
    (free : ∀ p ∈ (k, v) :: members, Ordinary p.2)
    (long : (indented indent v).length + (indentedMembers indent members).length < fuel + 1) :
    ∃ after, readMembers (fuel + 1) depth ⟨offset, stringText k ++ ':' :: ' ' ::
      (indented indent v ++ (indentedMembers indent members ++
        (newline outer ++ '\x7d' :: rest)))⟩ = .ok ((k, v) :: members, ⟨after, rest⟩) := by
  have readable_here : Readable depth v := readable (k, v) List.mem_cons_self
  have free_here : Ordinary v := free (k, v) List.mem_cons_self
  have opens := (opens_indented free_here indent).append
    (indentedMembers indent members ++ (newline outer ++ '\x7d' :: rest))
  obtain ⟨start, keyed⟩ := readMembers_key fuel depth offset k opens.noSpace
  obtain ⟨behind, first⟩ := ih.value indent start readable_here free_here
    (endsValue_members indent outer members ('\x7d' :: rest)) (by omega)
  rw [keyed, first]
  dsimp only
  cases members with
  | nil =>
      obtain ⟨after, skipped⟩ := skip_newline (noSpace_cons (c := '\x7d') rfl rest) behind outer
      rw [indentedMembers, List.nil_append, skipped]
      exact ⟨after + 1, rfl⟩
  | cons p members =>
      obtain ⟨l, w⟩ := p
      have shorter := length_indentedMembers_cons indent l w members
      have opens := (opens_stringText l).append (':' :: ' ' :: (indented indent w ++
        (indentedMembers indent members ++ (newline outer ++ '\x7d' :: rest))))
      obtain ⟨start, skipped⟩ := skip_newline opens.noSpace (behind + 1) indent
      obtain ⟨after, others⟩ :
          ∃ after, readMembers fuel depth ⟨start, _⟩ = .ok ((l, w) :: members, ⟨after, rest⟩) :=
        ih.members indent outer start (fun p hp => readable p (List.mem_cons_of_mem _ hp))
          (fun p hp => free p (List.mem_cons_of_mem _ hp)) (by omega)
      rw [indentedMembers_cons, skip_of_noSpace (noSpace_cons (c := ',') rfl _)]
      simp only [List.head?_cons, Option.some.injEq, Char.reduceEq, if_false, if_true,
        Cursor.advance, List.drop_succ_cons, List.drop_zero]
      rw [skipped, others]
      exact ⟨after, rfl⟩

/-- What is neither a string nor a container is a scalar. -/
theorem readValue_scalar {c : Char} {more : List Char}
    (other : c ≠ '"' ∧ c ≠ '[' ∧ c ≠ '\x7b') (fuel depth offset : Nat) :
    readValue (fuel + 1) depth ⟨offset, c :: more⟩ = readScalar ⟨offset, c :: more⟩ := by
  unfold readValue
  simp only [other, if_false]

theorem readValue_word {c : Char} {more : List Char} {value : Json}
    (other : c ≠ '"' ∧ c ≠ '[' ∧ c ≠ '\x7b')
    (known : (words.find? fun w => w.1.isPrefixOf (c :: more ++ rest)) = some (c :: more, value))
    (fuel depth offset : Nat) :
    ∃ after, readValue (fuel + 1) depth ⟨offset, c :: more ++ rest⟩ =
      .ok (value, ⟨after, rest⟩) := by
  rw [List.cons_append, readValue_scalar other, ← List.cons_append]
  unfold readScalar
  simp only [known, Cursor.advance, List.drop_left]
  exact ⟨_, rfl⟩

theorem readValue_intText {n : Int} (short : (natDigits n.natAbs).length ≤ maxDigits)
    (ends : EndsValue rest) (fuel depth offset : Nat) :
    ∃ after, readValue (fuel + 1) depth ⟨offset, intText n ++ rest⟩ =
      .ok (.int n, ⟨after, rest⟩) := by
  obtain ⟨after, read⟩ := readScalar_intText short ends offset
  refine ⟨after, ?_⟩
  obtain ⟨c, more, digits⟩ := List.exists_cons_of_ne_nil (natDigits_ne_nil n.natAbs)
  have digit : isDigit c = true := isDigit_of_mem_natDigits (n := n.natAbs) (by simp [digits])
  rw [← read, intText_eq, digits, signText]
  split
  · exact readValue_scalar (by decide) fuel depth offset
  · refine readValue_scalar ⟨?_, ?_, ?_⟩ fuel depth offset <;> rintro rfl <;> revert digit <;>
      decide

/-- A container without content. -/
theorem readValue_empty (shallow : depth < maxDepth) (fuel offset : Nat) (rest : List Char) :
    readValue (fuel + 1) depth ⟨offset, '[' :: ']' :: rest⟩ = .ok (.arr [], ⟨offset + 2, rest⟩) ∧
      readValue (fuel + 1) depth ⟨offset, '\x7b' :: '\x7d' :: rest⟩ =
        .ok (.obj [], ⟨offset + 2, rest⟩) := by
  have bracket := skip_of_noSpace (noSpace_cons (c := ']') rfl rest)
  have brace := skip_of_noSpace (noSpace_cons (c := '\x7d') rfl rest)
  constructor <;> unfold readValue <;>
    simp [Nat.not_le.mpr shallow, Cursor.advance, bracket, brace]

theorem ReadsBack.succ_arr (ih : ReadsBack fuel) (shallow : depth < maxDepth)
    (readable : ∀ w ∈ v :: items, Readable (depth + 1) w) (free : ∀ w ∈ v :: items, Ordinary w)
    (long : (indented indent (.arr (v :: items))).length ≤ fuel + 1) :
    ∃ after, readValue (fuel + 1) depth ⟨offset, indented indent (.arr (v :: items)) ++ rest⟩ =
      .ok (.arr (v :: items), ⟨after, rest⟩) := by
  have size := congrArg List.length (indented_arr indent v items [])
  simp only [List.append_nil, List.length_cons, List.length_append] at size
  have opens := (opens_indented (free v List.mem_cons_self) (indent + 1)).append
    (indentedItems (indent + 1) items ++ (newline indent ++ ']' :: rest))
  obtain ⟨start, skipped⟩ := skip_newline opens.noSpace (offset + 1) (indent + 1)
  obtain ⟨after, read⟩ :
      ∃ after, readItems fuel (depth + 1) ⟨start, _⟩ = .ok (v :: items, ⟨after, rest⟩) :=
    ih.items (indent + 1) indent start readable free (by omega)
  refine ⟨after, ?_⟩
  rw [indented_arr]
  unfold readValue
  simp only [Char.reduceEq, if_false, if_true, Nat.not_le.mpr shallow, Cursor.advance,
    List.drop_succ_cons, List.drop_zero]
  rw [skipped, read]
  simp only [opens.head?_ne, if_false]

theorem ReadsBack.succ_obj (ih : ReadsBack fuel) (shallow : depth < maxDepth)
    (distinct : Members.Distinct ((k, v) :: members))
    (readable : ∀ p ∈ (k, v) :: members, Readable (depth + 1) p.2)
    (free : ∀ p ∈ (k, v) :: members, Ordinary p.2)
    (long : (indented indent (.obj ((k, v) :: members))).length ≤ fuel + 1) :
    ∃ after, readValue (fuel + 1) depth
        ⟨offset, indented indent (.obj ((k, v) :: members)) ++ rest⟩ =
      .ok (.obj ((k, v) :: members), ⟨after, rest⟩) := by
  have size := congrArg List.length (indented_obj indent k v members [])
  simp only [List.append_nil, List.length_cons, List.length_append] at size
  have opens := (opens_stringText k).append (':' :: ' ' :: (indented (indent + 1) v ++
    (indentedMembers (indent + 1) members ++ (newline indent ++ '\x7d' :: rest))))
  obtain ⟨start, skipped⟩ := skip_newline opens.noSpace (offset + 1) (indent + 1)
  obtain ⟨after, read⟩ :
      ∃ after, readMembers fuel (depth + 1) ⟨start, _⟩ = .ok ((k, v) :: members, ⟨after, rest⟩) :=
    ih.members (indent + 1) indent start readable free (by omega)
  refine ⟨after, ?_⟩
  rw [indented_obj]
  unfold readValue
  simp only [Char.reduceEq, if_false, if_true, Nat.not_le.mpr shallow, Cursor.advance,
    List.drop_succ_cons, List.drop_zero]
  rw [skipped, read]
  simp only [opens.head?_ne, if_false, Members.ofPairs_eq_self distinct]

theorem ReadsBack.succ_value (ih : ReadsBack fuel) (readable : Readable depth v)
    (free : Ordinary v) (ends : EndsValue rest) (long : (indented indent v).length ≤ fuel + 1) :
    ∃ after, readValue (fuel + 1) depth ⟨offset, indented indent v ++ rest⟩ =
      .ok (v, ⟨after, rest⟩) := by
  cases free with
  | null => exact readValue_word (by decide) rfl fuel depth offset
  | bool b => cases b <;> exact readValue_word (by decide) rfl fuel depth offset
  | int n =>
      cases readable with
      | int short => exact readValue_intText short ends fuel depth offset
  | str s =>
      obtain ⟨after, read⟩ := readString_stringText s rest offset
      refine ⟨after, ?_⟩
      change readValue (fuel + 1) depth ⟨offset, stringText s ++ rest⟩ = _
      unfold readValue
      rw [read]
      change Except.ok (ofPoints (s.toList.map .char), _) = _
      rw [ofPoints_map_char, String.ofList_toList]
  | @arr items free =>
      cases readable with
      | arr shallow readable =>
          cases items with
          | nil => exact ⟨_, (readValue_empty shallow fuel offset rest).1⟩
          | cons v items => exact ih.succ_arr shallow readable free long
  | @obj members free =>
      cases readable with
      | obj shallow distinct readable =>
          cases members with
          | nil => exact ⟨_, (readValue_empty shallow fuel offset rest).2⟩
          | cons p members => exact ih.succ_obj shallow distinct readable free long

theorem readsBack (fuel : Nat) : ReadsBack fuel := by
  induction fuel with
  | zero =>
      -- Everything that was written has a character.
      constructor
      · intro indent offset depth v rest _ free _ long
        have := (opens_indented free indent).length_pos
        omega
      · intro indent outer offset depth v items rest _ _ long
        omega
      · intro indent outer offset depth k v members rest _ _ long
        omega
  | succ fuel ih =>
      exact ⟨fun _ _ {_ _ _} => ih.succ_value, fun _ _ _ {_ _ _ _} => ih.succ_items,
        fun _ _ _ {_ _ _ _ _} => ih.succ_members⟩

/-- Nothing stands in front of the value. -/
theorem readText_eq (free : Ordinary v) (indent : Nat) :
    readText (indented indent v) =
      match readValue (2 * (indented indent v).length + 2) 0 ⟨0, indented indent v⟩ with
      | .error f => .error f
      | .ok (value, next) =>
          let last := next.skip
          if last.rest.isEmpty then .ok value else .error (.malformed .extraData last.offset) := by
  have noMark : (indented indent v).head? ≠ some '\ufeff' := by
    intro mark
    have := written_indented free indent _ (List.mem_of_mem_head? mark)
    revert this
    decide
  unfold readText
  rewrite [if_neg noMark, skip_of_noSpace (opens_indented free indent).noSpace]
  rfl

/-- An ordinary value is read back from its indented form. -/
theorem readText_indented (readable : Readable 0 v) (free : Ordinary v) (indent : Nat) :
    readText (indented indent v) = .ok v := by
  obtain ⟨after, read⟩ := (readsBack (2 * (indented indent v).length + 2)).value indent 0 readable
    free (show EndsValue [] from nofun) (by omega)
  rw [List.append_nil] at read
  rw [readText_eq free, read]
  rfl

end RefNav.Json
