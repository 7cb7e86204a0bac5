import RefNav.Proofs.Reference.Enumeration

/-! # How many dollar signs

A shape looks at the characters from its start on, so it is found at the end of a
longer run of its first character as well.  A macro begins three dollar signs
before the end of a run of three or more, a label call two before the end of a
run of two or more.  Both count exactly as long as no further dollar sign stands
in front of a text of their grammars.
-/

namespace RefNav

/-- A run of exactly `n` times the character `c` begins at an offset of a line, and neither
the character before it nor the one behind it is another. -/
structure RunAt (c : Char) (cs : List Char) (start n : Nat) : Prop where
  inside : ∀ i < n, cs[start + i]? = some c
  ends : cs[start + n]? ≠ some c
  begins : ∀ i, i + 1 = start → cs[i]? ≠ some c

variable {c : Char} {cs : List Char} {kind : Kind} {r : Reference}

/-- A run goes back to where it begins. -/
theorem exists_runAt {place n : Nat} (inside : ∀ i < n, cs[place + i]? = some c)
    (ends : cs[place + n]? ≠ some c) :
    ∃ start m, RunAt c cs start m ∧ n ≤ m ∧ start + m = place + n := by
  induction place generalizing n with
  | zero => exact ⟨0, n, ⟨inside, ends, nofun⟩, Nat.le_refl n, rfl⟩
  | succ place ih =>
      by_cases before : cs[place]? = some c
      · have longer : ∀ i < n + 1, cs[place + i]? = some c := by
          intro i hi
          cases i with
          | zero => exact before
          | succ i =>
              have here := inside i (by omega)
              rwa [Nat.add_right_comm] at here
        rw [Nat.add_right_comm] at ends
        obtain ⟨start, m, run, le, stop⟩ := ih longer ends
        exact ⟨start, m, run, by omega, by omega⟩
      · refine ⟨place + 1, n, ⟨inside, ends, fun i hi => ?_⟩, Nat.le_refl n, rfl⟩
        cases hi
        exact before

/-! ## Runs in front of a shape -/

/-- The marks of an occurrence stand in the line, and no other one follows them. -/
theorem Kind.marks_of_mem_occurrences (h : r ∈ kind.occurrences cs) :
    (∀ i < kind.marks, cs[r.span.start + i]? = some kind.opening) ∧
      cs[r.span.start + kind.marks]? ≠ some kind.opening := by
  obtain ⟨hit, taken, _⟩ := Kind.mem_occurrences_iff.mp h
  obtain ⟨_, rest, hrest⟩ := Kind.recognise?_append taken
  have mem := Kind.mem_grammar_of_recognise? taken
  have long := Kind.marks_lt_length mem
  have place {i : Nat} (hi : i ≤ kind.marks) : cs[r.span.start + i]? = hit.raw[i]? := by
    rw [← List.getElem?_drop, hrest, List.getElem?_append_left (by omega)]
  constructor
  · intro i hi
    rw [place (Nat.le_of_lt hi), Kind.getElem?_marks mem]
    exact hi
  · rw [place (Nat.le_refl _), Ne, Kind.getElem?_marks mem]
    exact Nat.lt_irrefl _

/-- An occurrence begins its marks before the end of a run that may be longer. -/
theorem Kind.exists_runAt_of_mem_occurrences (h : r ∈ kind.occurrences cs) :
    ∃ start n, RunAt kind.opening cs start n ∧ kind.marks ≤ n ∧
      start + n = r.span.start + kind.marks :=
  exists_runAt (Kind.marks_of_mem_occurrences h).1 (Kind.marks_of_mem_occurrences h).2

theorem Kind.runAt_iff_of_mem_occurrences (h : r ∈ kind.occurrences cs) :
    RunAt kind.opening cs r.span.start kind.marks ↔
      ∀ i, i + 1 = r.span.start → cs[i]? ≠ some kind.opening := by
  obtain ⟨inside, ends⟩ := Kind.marks_of_mem_occurrences h
  exact ⟨RunAt.begins, fun begins => ⟨inside, ends, begins⟩⟩

/-- A line has a text of a shape with a further mark in front of it. -/
def Kind.Overmarked (kind : Kind) (cs : List Char) : Prop :=
  ∃ before, ∃ w ∈ kind.grammar, ∃ after, cs = before ++ kind.opening :: (w ++ after)

/-- An occurrence takes part of a longer run exactly in a line with a mark too many. -/
theorem Kind.overmarked_iff :
    kind.Overmarked cs ↔
      ∃ r ∈ kind.occurrences cs, ¬ RunAt kind.opening cs r.span.start kind.marks := by
  constructor
  · rintro ⟨before, w, hw, after, rfl⟩
    have starts : w <+: (before ++ kind.opening :: (w ++ after)).drop (before.length + 1) := by
      rw [← List.drop_drop, List.drop_left, List.drop_one, List.tail_cons]
      exact List.prefix_append w after
    obtain ⟨r, hr, hstart⟩ := Kind.exists_occurrence_iff.mpr ⟨w, hw, starts⟩
    refine ⟨r, hr, fun run => run.begins before.length hstart.symm ?_⟩
    simp
  · rintro ⟨r, hr, longer⟩
    rw [Kind.runAt_iff_of_mem_occurrences hr] at longer
    push Not at longer
    obtain ⟨i, hi, mark⟩ := longer
    obtain ⟨w, hw, after, hafter⟩ := Kind.exists_occurrence_iff.mp ⟨r, hr, rfl⟩
    refine ⟨cs.take i, w, hw, after, ?_⟩
    obtain ⟨inside, same⟩ := List.getElem?_eq_some_iff.mp mark
    rw [hafter, ← hi, ← same, ← List.drop_eq_getElem_cons inside, List.take_append_drop]

/-! ## Dollar signs counted by macros and label calls -/

/-- A macro begins a run of exactly three dollar signs, a label call one of exactly two. -/
def Reference.CountsDollars (cs : List Char) (r : Reference) : Prop :=
  (r.kind = .macroCall → RunAt '$' cs r.span.start 3) ∧
    (r.kind = .labelCall → RunAt '$' cs r.span.start 2)

theorem Reference.not_countsDollars_iff :
    ¬ r.CountsDollars cs ↔ (r.kind = .macroCall ∨ r.kind = .labelCall) ∧
      ¬ RunAt r.kind.opening cs r.span.start r.kind.marks := by
  unfold CountsDollars
  cases r.kind <;> simp [Kind.opening, Kind.marks]

theorem exists_uncounted_iff :
    (∃ r ∈ occurrences cs, ¬ r.CountsDollars cs) ↔
      Kind.macroCall.Overmarked cs ∨ Kind.labelCall.Overmarked cs := by
  simp only [Reference.not_countsDollars_iff, Kind.overmarked_iff]
  constructor
  · rintro ⟨r, hr, shape, longer⟩
    have own := mem_kind_occurrences hr
    rcases shape with shape | shape <;> rw [shape] at own longer
    · exact .inl ⟨r, own, longer⟩
    · exact .inr ⟨r, own, longer⟩
  · rintro (⟨r, hr, longer⟩ | ⟨r, hr, longer⟩) <;>
      rw [← Kind.kind_of_mem_occurrences hr] at longer
    · exact ⟨r, mem_occurrences_iff.mpr ⟨_, hr⟩, .inl (Kind.kind_of_mem_occurrences hr), longer⟩
    · exact ⟨r, mem_occurrences_iff.mpr ⟨_, hr⟩, .inr (Kind.kind_of_mem_occurrences hr), longer⟩

section

variable {text : String}

/-- A macro that is left out gives way to a label call behind its first dollar sign, which then
takes part of a longer run itself. -/
theorem exists_uncounted_reference (h : r ∈ occurrences text.toList)
    (uncounted : ¬ r.CountsDollars text.toList) :
    ∃ k ∈ referencesIn text, ¬ k.CountsDollars text.toList := by
  by_cases kept : r ∈ referencesIn text
  · exact ⟨r, kept, uncounted⟩
  obtain ⟨k, hk, less, overlap⟩ := (not_mem_referencesIn_iff h).mp kept
  refine ⟨k, hk, fun counted => ?_⟩
  obtain ⟨label, ⟨routine, _⟩ | ⟨isMacro, begins, _⟩⟩ :=
    shapes_of_overlap (mem_occurrences_of_mem_referencesIn hk) h less overlap
  · rcases (Reference.not_countsDollars_iff.mp uncounted).1 with shape | shape <;>
      rw [routine] at shape <;> cases shape
  · have own := mem_kind_occurrences h
    rw [isMacro] at own
    have dollar := (Kind.marks_of_mem_occurrences own).1 0 (by decide)
    exact (counted.2 label).begins r.span.start begins.symm dollar

/-- Behind the first dollar sign of a macro or label call a cursor finds nothing else. -/
theorem referenceAt_of_dollar (h : r ∈ referencesIn text)
    (shape : r.kind = .macroCall ∨ r.kind = .labelCall) :
    referenceAt text (r.span.start + 1) = some r := by
  have found := mem_occurrences_of_mem_referencesIn h
  have long : r.span.start + 1 < r.span.stop := by
    obtain ⟨hit, taken, hr⟩ := recognise?_of_mem_occurrences found
    have marks := Kind.marks_lt_length (Kind.mem_grammar_of_recognise? taken)
    have stop : r.span.stop = r.span.start + hit.raw.length := by rw [hr]; rfl
    have two : 2 ≤ r.kind.marks := by rcases shape with shape | shape <;> rw [shape] <;> decide
    omega
  have covers : r.span.covers (r.span.start + 1) = true :=
    Span.covers_iff.mpr ⟨by omega, by omega⟩
  obtain ⟨m, hm, rfl | ⟨_, _, touches⟩⟩ := referenceAt_beside h covers
  · exact hm
  · omega

end

/-- Every macro begins three dollar signs before the end of a run of at least three, every label
call two before the end of a run of at least two.  The runs have exactly that many in all that is
found in a line, in all its references and under every cursor, precisely if nowhere in the line a
dollar sign stands in front of a text of one of the two grammars. -/
theorem dollars_counted_iff (text : String) :
    (∀ r ∈ occurrences text.toList,
      (r.kind = .macroCall → ∃ start n, RunAt '$' text.toList start n ∧ 3 ≤ n ∧
        start + n = r.span.start + 3) ∧
      (r.kind = .labelCall → ∃ start n, RunAt '$' text.toList start n ∧ 2 ≤ n ∧
        start + n = r.span.start + 2)) ∧
    ((∀ r ∈ occurrences text.toList, r.CountsDollars text.toList) ↔
      ¬ (Kind.macroCall.Overmarked text.toList ∨ Kind.labelCall.Overmarked text.toList)) ∧
    ((∀ r ∈ referencesIn text, r.CountsDollars text.toList) ↔
      ¬ (Kind.macroCall.Overmarked text.toList ∨ Kind.labelCall.Overmarked text.toList)) ∧
    ((∀ offset r, referenceAt text offset = some r → r.CountsDollars text.toList) ↔
      ¬ (Kind.macroCall.Overmarked text.toList ∨ Kind.labelCall.Overmarked text.toList)) := by
  have everywhere : (∀ r ∈ occurrences text.toList, r.CountsDollars text.toList) ↔
      ¬ (Kind.macroCall.Overmarked text.toList ∨ Kind.labelCall.Overmarked text.toList) := by
    rw [← exists_uncounted_iff]
    push Not
    rfl
  have kept : (∀ r ∈ referencesIn text, r.CountsDollars text.toList) →
      ∀ r ∈ occurrences text.toList, r.CountsDollars text.toList := by
    intro counted r hr
    by_contra uncounted
    obtain ⟨k, hk, longer⟩ := exists_uncounted_reference hr uncounted
    exact longer (counted k hk)
  have cursor : (∀ offset r, referenceAt text offset = some r → r.CountsDollars text.toList) →
      ∀ r ∈ referencesIn text, r.CountsDollars text.toList := by
    intro counted r hr
    by_contra uncounted
    have shape := (Reference.not_countsDollars_iff.mp uncounted).1
    exact uncounted (counted _ r (referenceAt_of_dollar hr shape))
  refine ⟨fun r hr => ⟨fun shape => ?_, fun shape => ?_⟩, everywhere, ?_, ?_⟩
  · have own := mem_kind_occurrences hr
    rw [shape] at own
    exact Kind.exists_runAt_of_mem_occurrences own
  · have own := mem_kind_occurrences hr
    rw [shape] at own
    exact Kind.exists_runAt_of_mem_occurrences own
  · rw [← everywhere]
    exact ⟨kept, fun counted r hr => counted r (mem_occurrences_of_mem_referencesIn hr)⟩
  · rw [← everywhere]
    exact ⟨fun counted => kept (cursor counted),
      fun counted _ r hr => counted r (mem_occurrences_of_referenceAt hr)⟩

/-- The label call of a line with a run of three dollar signs is a reference, and the macro of a
line with a run of four. -/
theorem dollars_miscounted :
    (∃ r ∈ referencesIn "$$$X^Y", r.kind = .labelCall ∧
      ¬ RunAt '$' "$$$X^Y".toList r.span.start 2) ∧
    ∃ r ∈ referencesIn "$$$$X", r.kind = .macroCall ∧
      ¬ RunAt '$' "$$$$X".toList r.span.start 3 := by
  refine ⟨⟨⟨"$$X^Y", "X^Y", .labelCall, "Y", ⟨1, 6⟩⟩, ?_, rfl, fun run => ?_⟩,
    ⟨⟨"$$$X", "$$$X", .macroCall, "X", ⟨1, 5⟩⟩, ?_, rfl, fun run => ?_⟩⟩
  · rw [mem_referencesIn]
    decide
  · exact run.begins 0 rfl (by decide)
  · rw [mem_referencesIn]
    decide
  · exact run.begins 0 rfl (by decide)

end RefNav
