import RefNav.Proofs.Reference.Extract

/-! # Cursors on a line

A cursor inside a reference of a line finds that reference, and a cursor at one
of its ends at most a neighbour that touches it there.  Conversely a cursor finds
only references of the line, with one exception: a macro of which all but the
first dollar sign belongs to a label call.
-/

namespace RefNav

variable {text : String} {offset : Int} {line : List Char} {m r : Reference}

theorem Span.covers_iff {s : Span} :
    s.covers offset = true ↔ (s.start : Int) ≤ offset ∧ offset ≤ (s.stop : Int) := by
  simp [Span.covers]

/-- Two spans under one cursor that share no character touch at the cursor. -/
theorem Span.touches_of_covers {s t : Span} (hs : s.covers offset = true)
    (ht : t.covers offset = true) (apart : s.overlaps t = false) :
    offset = s.start ∧ t.stop = s.start ∨ offset = s.stop ∧ t.start = s.stop := by
  rw [Span.covers_iff] at hs ht
  rw [← Bool.not_eq_true, Span.overlaps_iff] at apart
  by_cases before : t.stop ≤ s.start
  · left
    omega
  · right
    omega

theorem covers_of_referenceAt (hm : referenceAt text offset = some m) :
    m.span.covers offset = true :=
  List.find?_some (p := fun r : Reference => r.span.covers offset) hm

theorem mem_occurrences_of_referenceAt (hm : referenceAt text offset = some m) :
    m ∈ occurrences text.toList :=
  List.mem_of_find?_eq_some hm

theorem mem_kind_occurrences (h : r ∈ occurrences line) : r ∈ r.kind.occurrences line := by
  obtain ⟨kind, found⟩ := mem_occurrences_iff.mp h
  rwa [Kind.kind_of_mem_occurrences found]

/-! ## References under the cursor -/

theorem referenceAt_beside (h : r ∈ referencesIn text) (covers : r.span.covers offset = true) :
    ∃ m, referenceAt text offset = some m ∧
      (m = r ∨ m.kind.rank ≤ r.kind.rank ∧ r.span.overlaps m.span = false ∧
        (offset = r.span.start ∧ m.span.stop = r.span.start ∨
          offset = r.span.stop ∧ m.span.start = r.span.stop)) := by
  obtain ⟨m, hm, same | ⟨precedes, apart⟩⟩ := referenceAt_of_covers h covers
  · exact ⟨m, hm, .inl same⟩
  · have touches := Span.touches_of_covers covers (covers_of_referenceAt hm) apart
    exact ⟨m, hm, .inr ⟨precedes.rank_le, apart, touches⟩⟩

/-- A reference of a line is found everywhere inside it.  At its ends it is missed only for
one of the same or a higher priority that touches it there. -/
theorem referenceAt_on_reference (text : String) (r : Reference) (h : r ∈ referencesIn text)
    (offset : Int) :
    (r.span.start < offset → offset < r.span.stop → referenceAt text offset = some r) ∧
    (offset = r.span.start ∨ offset = r.span.stop →
      ∃ m, referenceAt text offset = some m ∧
        (m = r ∨ m.kind.rank ≤ r.kind.rank ∧ r.span.overlaps m.span = false ∧
          (offset = r.span.start ∧ m.span.stop = r.span.start ∨
            offset = r.span.stop ∧ m.span.start = r.span.stop))) := by
  have nonempty := start_lt_stop_of_mem_occurrences (mem_occurrences_of_mem_referencesIn h)
  constructor
  · intro behind before
    have covers : r.span.covers offset = true := Span.covers_iff.mpr ⟨by omega, by omega⟩
    obtain ⟨m, hm, rfl | ⟨_, _, touches⟩⟩ := referenceAt_beside h covers
    · exact hm
    · omega
  · intro atEnd
    exact referenceAt_beside h (Span.covers_iff.mpr ⟨by omega, by omega⟩)

theorem referenceAt_on_reference_touched :
    let r : Reference := ⟨"^B", "^B", .routine, "B", ⟨2, 4⟩⟩
    r ∈ referencesIn "^A^B" ∧ referenceAt "^A^B" 3 = some r ∧
      ∃ m, referenceAt "^A^B" 2 = some m ∧ (m = r ∨ m.span.stop = 2) := by
  intro r
  have hr : r ∈ referencesIn "^A^B" := by
    rw [mem_referencesIn]
    decide
  obtain ⟨inside, _⟩ := referenceAt_on_reference "^A^B" r hr 3
  obtain ⟨_, atEnd⟩ := referenceAt_on_reference "^A^B" r hr 2
  refine ⟨hr, inside (by decide) (by decide), ?_⟩
  obtain ⟨m, hm, same | ⟨_, _, ⟨_, touches⟩ | ⟨behind, _⟩⟩⟩ := atEnd (.inl rfl)
  · exact ⟨m, hm, .inl same⟩
  · exact ⟨m, hm, .inr touches⟩
  · exact absurd behind (by decide)

/-! ## Occurrences that are no references -/

/-- A macro begins at an offset, and a label call at its second dollar sign. -/
structure HiddenMacro (line : List Char) (offset : Int) (m : Reference) : Prop where
  isMacro : m ∈ Kind.macroCall.occurrences line
  start_eq : (m.span.start : Int) = offset
  labelCall : ∃ k ∈ Kind.labelCall.occurrences line, (k.span.start : Int) = offset + 1

theorem HiddenMacro.covers (h : HiddenMacro line offset m) : m.span.covers offset = true := by
  have nonempty := start_lt_stop_of_mem_occurrences (mem_occurrences_iff.mpr ⟨_, h.isMacro⟩)
  have place := h.start_eq
  exact Span.covers_iff.mpr ⟨by omega, by omega⟩

theorem dollars_lt_stop_of_macro (h : m ∈ Kind.macroCall.occurrences line) :
    m.span.start + 3 < m.span.stop := by
  obtain ⟨hit, taken, hm⟩ := Kind.recognise?_of_mem_occurrences h
  obtain ⟨_, _, _, _, _, hraw, _⟩ := Shape.macroCall?_eq_some taken
  have stop : m.span.stop = m.span.start + hit.raw.length := by rw [hm]; rfl
  rw [stop, hraw]
  simp only [List.length_cons]
  omega

theorem HiddenMacro.not_mem_referencesIn (h : HiddenMacro text.toList offset m) :
    m ∉ referencesIn text := by
  intro kept
  obtain ⟨k, label, behind⟩ := h.labelCall
  have foundK := mem_occurrences_iff.mpr ⟨_, label⟩
  have nonemptyK := start_lt_stop_of_mem_occurrences foundK
  have long := dollars_lt_stop_of_macro h.isMacro
  have place := h.start_eq
  have less : k.kind.rank < m.kind.rank := by
    rw [Kind.kind_of_mem_occurrences label, Kind.kind_of_mem_occurrences h.isMacro]
    decide
  have apart := (mem_referencesIn_iff.mp kept).2 k foundK less
  rw [← Bool.not_eq_true, Span.overlaps_iff] at apart
  omega

/-- Of the occurrences under a cursor none that is found has a higher priority. -/
theorem rank_le_of_referenceAt (hm : referenceAt text offset = some m)
    (found : r ∈ occurrences text.toList) (covers : r.span.covers offset = true) :
    m.kind.rank ≤ r.kind.rank := by
  rcases eq_or_precedes_of_referenceAt hm found covers with rfl | precedes
  · exact Nat.le_refl _
  · exact precedes.rank_le

/-- What a cursor finds is dropped from a line only as a macro that a label call follows. -/
theorem hiddenMacro_of_referenceAt (hm : referenceAt text offset = some m)
    (dropped : m ∉ referencesIn text) : HiddenMacro text.toList offset m := by
  have found := mem_occurrences_of_referenceAt hm
  have covers := Span.covers_iff.mp (covers_of_referenceAt hm)
  rcases kept_or_overlaps_reference found with kept | ⟨k, hk, less, overlap⟩
  · exact absurd kept dropped
  have foundK := mem_occurrences_of_mem_referencesIn hk
  -- the label call would win wherever the cursor is on it, too
  have uncovered : ¬ ((k.span.start : Int) ≤ offset ∧ offset ≤ k.span.stop) := by
    intro inside
    exact absurd (rank_le_of_referenceAt hm foundK (Span.covers_iff.mpr inside))
      (Nat.not_le_of_lt less)
  obtain ⟨label, ⟨_, begins, ends⟩ | ⟨isMacro, begins, ends⟩⟩ :=
    shapes_of_overlap foundK found less overlap
  · omega
  · have kindM := mem_kind_occurrences found
    have kindK := mem_kind_occurrences foundK
    rw [isMacro] at kindM
    rw [label] at kindK
    exact ⟨kindM, by omega, k, kindK, by omega⟩

/-- A cursor finds references of the line only, or else a macro at its own first character
with a label call at the next; and it finds nothing only where there is neither. -/
theorem referenceAt_enumerated (text : String) (offset : Int) :
    (∀ m, referenceAt text offset = some m →
      (m ∉ referencesIn text ↔ HiddenMacro text.toList offset m)) ∧
    (referenceAt text offset = none ↔
      (∀ r ∈ referencesIn text, r.span.covers offset = false) ∧
        ∀ m, ¬ HiddenMacro text.toList offset m) := by
  refine ⟨fun m hm => ⟨hiddenMacro_of_referenceAt hm, HiddenMacro.not_mem_referencesIn⟩, ?_⟩
  constructor
  · intro nothing
    have uncovered : ∀ r ∈ occurrences text.toList, r.span.covers offset = false := by
      simpa using List.find?_eq_none.mp nothing
    refine ⟨fun r hr => uncovered r (mem_occurrences_of_mem_referencesIn hr), fun m hidden => ?_⟩
    have covers := hidden.covers
    rw [uncovered m (mem_occurrences_iff.mpr ⟨_, hidden.isMacro⟩)] at covers
    cases covers
  · rintro ⟨free, noMacro⟩
    rw [Option.eq_none_iff_forall_ne_some]
    intro m hm
    by_cases kept : m ∈ referencesIn text
    · have covers := covers_of_referenceAt hm
      rw [free m kept] at covers
      cases covers
    · exact noMacro m (hiddenMacro_of_referenceAt hm kept)

theorem referenceAt_enumerated_macro :
    let m : Reference := ⟨"$$$A", "$$$A", .macroCall, "A", ⟨0, 4⟩⟩
    referenceAt "$$$A^B" 0 = some m ∧ m ∉ referencesIn "$$$A^B" ∧
      HiddenMacro "$$$A^B".toList 0 m := by
  intro m
  have hm : referenceAt "$$$A^B" 0 = some m := by decide
  have dropped : m ∉ referencesIn "$$$A^B" := by
    rw [mem_referencesIn]
    decide
  exact ⟨hm, dropped, ((referenceAt_enumerated "$$$A^B" 0).1 m hm).mp dropped⟩

end RefNav
