import RefNav.Proofs.Reference.Cursor
import RefNav.Proofs.Reference.Grammar

/-! # What a line is read as

The occurrences of a shape in a line are the longest texts of its grammar, one for
every place where a text of the grammar begins.  A scan that goes on behind each
occurrence passes over none of them, because a shape opens with a run of a
character that it does not contain again.
-/

namespace RefNav

open RefNav.Text RefNav.Shape

/-! ## Opening marks -/

namespace Grammar

variable {o : Char} {head : Char → Bool} {w : List Char}

theorem not_mem_blanks (blank : isBlank o = false) (h : w ∈ blanks) : o ∉ w := by
  intro ho
  rw [mem_star_oneOf.mp h o ho] at blank
  cases blank

theorem not_mem_name (first : head o = false) (word : isWord o = false) (h : w ∈ name head) :
    o ∉ w := by
  obtain ⟨c, u, hc, hu, rfl⟩ := mem_name.mp h
  intro ho
  rcases List.mem_cons.mp ho with rfl | later
  · rw [hc] at first
    cases first
  · rw [hu o later] at word
    cases word

theorem not_mem_tail (first : head o = false) (word : isWord o = false) (dot : o ≠ '.')
    (h : Tail head w) : o ∉ w := by
  induction h with
  | nil => exact List.not_mem_nil
  | word hc _ ih =>
      intro ho
      rcases List.mem_cons.mp ho with rfl | later
      · rw [hc] at word
        cases word
      · exact ih later
  | dot hd _ ih =>
      intro ho
      rcases List.mem_cons.mp ho with same | later
      · exact dot same
      · rcases List.mem_cons.mp later with rfl | later
        · rw [hd] at first
          cases first
        · exact ih later

theorem not_mem_dotted (first : head o = false) (word : isWord o = false) (dot : o ≠ '.')
    (h : w ∈ dotted head) : o ∉ w := by
  obtain ⟨c, t, hc, ht, rfl⟩ := mem_dotted.mp h
  intro ho
  rcases List.mem_cons.mp ho with rfl | later
  · rw [hc] at first
    cases first
  · exact not_mem_tail first word dot ht later

theorem not_mem_member (h : w ∈ member) : '#' ∉ w := by
  obtain ⟨b₁, h₁, b₂, h₂, n, hn, rfl⟩ := mem_member.mp h
  have inBlanks : ∀ b ∈ blanks, '#' ∉ b := fun _ => not_mem_blanks (by decide)
  have inName : '#' ∉ n := not_mem_name (by decide) (by decide) hn
  simp [inBlanks b₁ h₁, inBlanks b₂ h₂, inName]

theorem exists_body_of_className (h : w ∈ className) :
    ∃ body, w = '#' :: '#' :: body ∧ body ≠ [] ∧ '#' ∉ body := by
  obtain ⟨k, hk, b₁, h₁, b₂, h₂, n, hn, b₃, h₃, rfl⟩ := mem_className.mp h
  have inBlanks : ∀ b ∈ blanks, '#' ∉ b := fun _ => not_mem_blanks (by decide)
  have inName : '#' ∉ n := not_mem_dotted (by decide) (by decide) (by decide) hn
  have inKeyword : '#' ∉ k := by
    intro hash
    have folded : fold '#' ∈ "class".toList :=
      mem_ignoringCase.mp hk ▸ List.mem_map_of_mem hash
    exact absurd folded (by decide)
  refine ⟨_, rfl, by simp, ?_⟩
  simp [inBlanks b₁ h₁, inBlanks b₂ h₂, inBlanks b₃ h₃, inName, inKeyword]

end Grammar

/-- How often a shape repeats its first character. -/
def Kind.marks : Kind → Nat
  | .labelCall => 2
  | .routine => 1
  | .macroCall => 3
  | .classRef => 2

variable {kind : Kind} {cs line w : List Char} {a b : Hit} {d : Nat}

/-- A shape opens with a run of one character and goes on without it. -/
theorem Kind.exists_body (h : w ∈ kind.grammar) :
    ∃ body, w = List.replicate kind.marks kind.opening ++ body ∧ body ≠ [] ∧
      kind.opening ∉ body := by
  cases kind with
  | labelCall =>
      obtain ⟨label, hlabel, routine, hroutine, rfl⟩ := Grammar.mem_labelCall.mp h
      have inLabel : '$' ∉ label := Grammar.not_mem_name (by decide) (by decide) hlabel
      have inRoutine : '$' ∉ routine :=
        Grammar.not_mem_dotted (by decide) (by decide) (by decide) hroutine
      exact ⟨label ++ '^' :: routine, rfl, by simp, by simp [opening, inLabel, inRoutine]⟩
  | routine =>
      obtain ⟨sign, c, t, hsign, hc, ht, rfl⟩ := Grammar.mem_routine.mp h
      have inSign : '^' ∉ sign := by rcases hsign with rfl | rfl <;> decide
      have inTail : '^' ∉ t := Grammar.not_mem_tail (by decide) (by decide) (by decide) ht
      have first : '^' ≠ c := by
        rintro rfl
        exact absurd hc (by decide)
      exact ⟨sign ++ c :: t, rfl, by simp, by simp [opening, inSign, inTail, first]⟩
  | macroCall =>
      obtain ⟨c, u, hc, hu, rfl⟩ := Grammar.mem_macroCall.mp h
      have first : '$' ≠ c := by
        rintro rfl
        exact absurd hc (by decide)
      have inName : '$' ∉ u := fun later => absurd (hu _ later) (by decide)
      exact ⟨c :: u, rfl, by simp, by simp [opening, first, inName]⟩
  | classRef =>
      obtain ⟨front, hfront, m, hm, rfl⟩ := h
      obtain ⟨body, rfl, nonempty, inBody⟩ := Grammar.exists_body_of_className hfront
      have inMember : '#' ∉ m := by
        rcases hm with rfl | hm
        · exact List.not_mem_nil
        · exact Grammar.not_mem_member hm
      exact ⟨body ++ m, rfl, by simp [nonempty], by simp [opening, inBody, inMember]⟩

theorem Kind.getElem?_marks (h : w ∈ kind.grammar) {t : Nat} :
    w[t]? = some kind.opening ↔ t < kind.marks := by
  obtain ⟨body, rfl, _, outside⟩ := Kind.exists_body h
  constructor
  · intro opens
    apply Nat.lt_of_not_le
    intro behind
    rw [List.getElem?_append_right (by simpa using behind)] at opens
    exact outside (List.mem_of_getElem? opens)
  · intro early
    rw [List.getElem?_append_left (by simpa using early), List.getElem?_replicate, if_pos early]

theorem Kind.marks_lt_length (h : w ∈ kind.grammar) : kind.marks < w.length := by
  obtain ⟨body, rfl, nonempty, _⟩ := Kind.exists_body h
  have positive := List.length_pos_iff.mpr nonempty
  rw [List.length_append, List.length_replicate]
  omega

/-- Two things of one shape share no character. -/
theorem Kind.length_le_of_recognise? (ha : kind.recognise? cs = some a)
    (hb : kind.recognise? (cs.drop d) = some b) (behind : 0 < d) : a.raw.length ≤ d := by
  rw [← Nat.zero_add d] at hb
  rw [← List.drop_zero (l := cs)] at ha
  have grammarA := Kind.mem_grammar_of_recognise? ha
  have grammarB := Kind.mem_grammar_of_recognise? hb
  have longA := Kind.marks_lt_length grammarA
  have longB := Kind.marks_lt_length grammarB
  apply Nat.le_of_not_lt
  intro meets
  have early : d < kind.marks :=
    (Kind.getElem?_marks grammarA).mp (opening_shared ha hb meets)
  -- the character behind the marks of the first is still a mark of the second
  have shared : a.raw[d + (kind.marks - d)]? = b.raw[kind.marks - d]? :=
    getElem?_shared (Kind.recognise?_append ha).2 (Kind.recognise?_append hb).2 (by omega)
      (by omega)
  rw [(Kind.getElem?_marks grammarB).mpr (by omega), Kind.getElem?_marks grammarA] at shared
  omega

/-! ## Occurrences -/

theorem Kind.mem_occurrences_iff {r : Reference} :
    r ∈ kind.occurrences line ↔ ∃ hit, kind.recognise? (line.drop r.span.start) = some hit ∧
      r = Reference.ofHit kind (r.span.start, hit) := by
  constructor
  · exact Kind.recognise?_of_mem_occurrences
  · rintro ⟨hit, taken, hr⟩
    have inside : r.span.start < line.length := by
      obtain ⟨nonempty, rest, hrest⟩ := Kind.recognise?_append taken
      have positive := List.length_pos_iff.mpr nonempty
      have lengths := congrArg List.length hrest
      rw [List.length_drop, List.length_append] at lengths
      omega
    have found := mem_scan_of_recognise (fun _ _ _ _ => Kind.length_le_of_recognise?) 0
      (Nat.zero_le _) taken inside
    rw [Nat.zero_add] at found
    rw [hr]
    exact List.mem_map_of_mem found

/-! ## Longest texts of a grammar -/

/-- The characters of a span are the longest text of a language that begins at its start. -/
structure LongestAt (l : Language Char) (line : List Char) (s : Span) : Prop where
  start_le : s.start ≤ s.stop
  stop_le : s.stop ≤ line.length
  mem : line.extract s.start s.stop ∈ l
  longest : ∀ stop ≤ line.length, line.extract s.start stop ∈ l → stop ≤ s.stop

/-- A reader takes the longest text of a language from the start of what it is given. -/
structure TakesLongest (l : Language Char) (read : List Char → Option (List Char)) : Prop where
  nonempty : [] ∉ l
  sound : ∀ cs w, read cs = some w → w ∈ l ∧ w <+: cs
  greedy : ∀ w ∈ l, ∀ rest, ∃ more, read (w ++ rest) = some (w ++ more)

section

variable {l : Language Char} {read : List Char → Option (List Char)} {i j : Nat}

theorem TakesLongest.extract_eq (takes : TakesLongest l read) (h : read (line.drop i) = some w) :
    i + w.length ≤ line.length ∧ line.extract i (i + w.length) = w := by
  obtain ⟨mem, rest, split⟩ := takes.sound _ _ h
  have positive : 0 < w.length := by
    refine List.length_pos_iff.mpr ?_
    rintro rfl
    exact takes.nonempty mem
  have lengths := congrArg List.length split
  rw [List.length_append, List.length_drop] at lengths
  constructor
  · omega
  · rw [List.extract_eq_take_drop, ← split, Nat.add_sub_cancel_left, List.take_left]

theorem TakesLongest.of_extract (takes : TakesLongest l read) (h : line.extract i j ∈ l) :
    ∃ more, read (line.drop i) = some (line.extract i j ++ more) := by
  obtain ⟨more, found⟩ := takes.greedy _ h ((line.drop i).drop (j - i))
  rw [List.extract_eq_take_drop] at found ⊢
  rw [List.take_append_drop] at found
  exact ⟨more, found⟩

theorem length_extract (h : j ≤ line.length) : (line.extract i j).length = j - i := by
  rw [List.extract_eq_take_drop, List.length_take, List.length_drop]
  omega

/-- The longest texts of a language are those that its reader takes. -/
theorem TakesLongest.longestAt_iff (takes : TakesLongest l read) {s : Span} :
    LongestAt l line s ↔
      ∃ w, read (line.drop s.start) = some w ∧ s.stop = s.start + w.length := by
  constructor
  · rintro ⟨start_le, stop_le, mem, longest⟩
    obtain ⟨more, taken⟩ := takes.of_extract mem
    obtain ⟨inside, whole⟩ := takes.extract_eq taken
    have upper : s.start + (line.extract s.start s.stop ++ more).length ≤ s.stop := by
      apply longest _ inside
      rw [whole]
      exact (takes.sound _ _ taken).1
    refine ⟨_, taken, ?_⟩
    rw [List.length_append, length_extract stop_le] at upper ⊢
    omega
  · rintro ⟨w, taken, hstop⟩
    obtain ⟨inside, whole⟩ := takes.extract_eq taken
    refine ⟨by omega, by omega, ?_, fun stop stop_le mem => ?_⟩
    · rw [hstop, whole]
      exact (takes.sound _ _ taken).1
    · obtain ⟨more, again⟩ := takes.of_extract mem
      have lengths := congrArg List.length (Option.some.inj (taken.symm.trans again))
      rw [List.length_append, length_extract stop_le] at lengths
      omega

end

theorem Kind.takesLongest (kind : Kind) :
    TakesLongest kind.grammar fun cs => (kind.recognise? cs).map Hit.raw where
  nonempty := fun empty => absurd (Kind.marks_lt_length empty) (Nat.not_lt_zero _)
  sound := by
    intro cs w read
    obtain ⟨hit, taken, rfl⟩ := Option.map_eq_some_iff.mp read
    obtain ⟨_, rest, split⟩ := Kind.recognise?_append taken
    exact ⟨Kind.mem_grammar_of_recognise? taken, rest, split.symm⟩
  greedy := by
    intro w mem rest
    obtain ⟨hit, more, taken, raw⟩ := Kind.recognise?_append_of_mem mem rest
    exact ⟨more, by rw [taken, Option.map_some, raw]⟩

theorem Kind.longestAt_iff {s : Span} : LongestAt kind.grammar line s ↔
    ∃ hit, kind.recognise? (line.drop s.start) = some hit ∧
      s.stop = s.start + hit.raw.length := by
  rw [kind.takesLongest.longestAt_iff]
  simp only [Option.map_eq_some_iff]
  constructor
  · rintro ⟨_, ⟨hit, taken, rfl⟩, hstop⟩
    exact ⟨hit, taken, hstop⟩
  · rintro ⟨hit, taken, hstop⟩
    exact ⟨hit.raw, ⟨hit, taken, rfl⟩, hstop⟩

theorem Kind.mem_spans_iff {s : Span} : s ∈ (kind.occurrences line).map Reference.span ↔
    LongestAt kind.grammar line s := by
  rw [Kind.longestAt_iff, List.mem_map]
  constructor
  · rintro ⟨r, hr, rfl⟩
    obtain ⟨hit, taken, hr⟩ := Kind.mem_occurrences_iff.mp hr
    exact ⟨hit, taken, by rw [hr]; rfl⟩
  · rintro ⟨hit, taken, hstop⟩
    have hs : (Reference.ofHit kind (s.start, hit)).span = s := by
      rw [Reference.ofHit, ← hstop]
    refine ⟨_, Kind.mem_occurrences_iff.mpr ⟨hit, ?_, rfl⟩, hs⟩
    exact taken

/-- Something of the shape begins wherever a text of its grammar does. -/
theorem Kind.exists_occurrence_iff {i : Nat} :
    (∃ r ∈ kind.occurrences line, r.span.start = i) ↔
      ∃ w ∈ kind.grammar, w <+: line.drop i := by
  constructor
  · rintro ⟨r, hr, rfl⟩
    obtain ⟨hit, taken, _⟩ := Kind.mem_occurrences_iff.mp hr
    obtain ⟨_, rest, hrest⟩ := Kind.recognise?_append taken
    exact ⟨hit.raw, Kind.mem_grammar_of_recognise? taken, rest, hrest.symm⟩
  · rintro ⟨w, hw, rest, hrest⟩
    obtain ⟨hit, _, taken, _⟩ := Kind.recognise?_append_of_mem hw rest
    rw [hrest] at taken
    exact ⟨Reference.ofHit kind (i, hit), Kind.mem_occurrences_iff.mpr ⟨hit, taken, rfl⟩, rfl⟩

theorem Kind.raw_eq_extract {r : Reference} (h : r ∈ kind.occurrences line) :
    r.raw.toList = line.extract r.span.start r.span.stop := by
  obtain ⟨hit, taken, hr⟩ := Kind.mem_occurrences_iff.mp h
  have hraw : r.raw.toList = hit.raw := by
    rw [hr]
    exact String.toList_ofList
  have hstop : r.span.stop = r.span.start + hit.raw.length := by rw [hr]; rfl
  have read : (kind.recognise? (line.drop r.span.start)).map Hit.raw = some hit.raw := by
    rw [taken, Option.map_some]
  rw [hraw, hstop, (kind.takesLongest.extract_eq read).2]

theorem Kind.occurrences_increasing (kind : Kind) (line : List Char) :
    (kind.occurrences line).Pairwise fun a b => a.span.start < b.span.start := by
  refine (kind.occurrences_pairwise line).imp_of_mem fun ha _ behind => ?_
  have nonempty := start_lt_stop_of_mem_occurrences (RefNav.mem_occurrences_iff.mpr ⟨kind, ha⟩)
  omega

/-! ## Whole lines -/

theorem mem_occurrences_span {kind : Kind} {s : Span} (h : LongestAt kind.grammar line s) :
    ∃ r ∈ occurrences line, r.kind = kind ∧ r.span = s := by
  obtain ⟨r, hr, hs⟩ := List.mem_map.mp (Kind.mem_spans_iff.mpr h)
  exact ⟨r, mem_occurrences_iff.mpr ⟨kind, hr⟩, Kind.kind_of_mem_occurrences hr, hs⟩

theorem longestAt_of_mem_occurrences {r : Reference} (h : r ∈ occurrences line) :
    LongestAt r.kind.grammar line r.span :=
  Kind.mem_spans_iff.mp (List.mem_map_of_mem (mem_kind_occurrences h))

/-- The occurrences of a shape are the longest texts of its grammar, in the order of the
line, and a cursor finds one of the highest priority among those that it is on. -/
theorem recognition_of_grammars (text : String) :
    (∀ kind : Kind,
      ((kind.occurrences text.toList).Pairwise fun a b => a.span.start < b.span.start) ∧
      (∀ s : Span, s ∈ (kind.occurrences text.toList).map Reference.span ↔
        LongestAt kind.grammar text.toList s) ∧
      (∀ i : Nat, (∃ r ∈ kind.occurrences text.toList, r.span.start = i) ↔
        ∃ w ∈ kind.grammar, w <+: text.toList.drop i) ∧
      ∀ r ∈ kind.occurrences text.toList, r.kind = kind ∧
        r.raw.toList = text.toList.extract r.span.start r.span.stop) ∧
    ∀ offset : Int,
      ((referenceAt text offset).isSome = true ↔
        ∃ (kind : Kind) (s : Span), LongestAt kind.grammar text.toList s ∧
          s.covers offset = true) ∧
      ∀ m, referenceAt text offset = some m →
        LongestAt m.kind.grammar text.toList m.span ∧ m.span.covers offset = true ∧
        ∀ (kind : Kind) (s : Span), LongestAt kind.grammar text.toList s →
          s.covers offset = true → m.kind.rank ≤ kind.rank := by
  refine ⟨fun kind => ⟨kind.occurrences_increasing _, fun s => Kind.mem_spans_iff,
    fun i => Kind.exists_occurrence_iff, fun r hr => ?_⟩, fun offset => ⟨?_, fun m hm => ?_⟩⟩
  · exact ⟨Kind.kind_of_mem_occurrences hr, Kind.raw_eq_extract hr⟩
  · rw [Option.isSome_iff_exists]
    constructor
    · rintro ⟨m, hm⟩
      exact ⟨m.kind, m.span, longestAt_of_mem_occurrences (mem_occurrences_of_referenceAt hm),
        covers_of_referenceAt hm⟩
    · rintro ⟨kind, s, hs, covers⟩
      obtain ⟨r, found, _, rfl⟩ := mem_occurrences_span hs
      apply Option.ne_none_iff_exists'.mp
      intro nothing
      exact List.find?_eq_none.mp nothing r found covers
  · refine ⟨longestAt_of_mem_occurrences (mem_occurrences_of_referenceAt hm),
      covers_of_referenceAt hm, fun kind s hs covers => ?_⟩
    obtain ⟨r, found, rfl, rfl⟩ := mem_occurrences_span hs
    exact rank_le_of_referenceAt hm found covers

theorem recognition_of_grammars_blanks :
    let text := "$$$A^B ##Class( P.C ) .M"
    let m : Reference := ⟨"$$A^B", "A^B", .labelCall, "B", ⟨1, 6⟩⟩
    LongestAt Kind.macroCall.grammar text.toList ⟨0, 4⟩ ∧
      LongestAt Kind.classRef.grammar text.toList ⟨7, 24⟩ ∧
      referenceAt text 4 = some m ∧ LongestAt m.kind.grammar text.toList m.span := by
  intro text m
  obtain ⟨shapes, cursor⟩ := recognition_of_grammars text
  have hm : referenceAt text 4 = some m := by decide
  exact ⟨((shapes .macroCall).2.1 ⟨0, 4⟩).mp (by decide),
    ((shapes .classRef).2.1 ⟨7, 24⟩).mp (by decide), hm, ((cursor 4).2 m hm).1⟩

end RefNav
