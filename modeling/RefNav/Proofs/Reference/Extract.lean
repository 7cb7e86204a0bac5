import RefNav.Proofs.Reference.Overlap

/-! # The references of a line

The occurrences of a line stand in the order in which they compete.  The
references of the line are those occurrences that share no character with one
of a shape of higher priority.
-/

namespace RefNav

/-! ## Occurrences in order -/

/-- The place of a shape in the order of priority. -/
def Kind.rank : Kind → Nat
  | .labelCall => 0
  | .routine => 1
  | .macroCall => 2
  | .classRef => 3

/-- Of two occurrences, does the first come first by shape and then by place? -/
def Reference.Precedes (a b : Reference) : Prop :=
  a.kind.rank < b.kind.rank ∨ a.kind = b.kind ∧ a.span.stop ≤ b.span.start

variable {line : List Char} {a b r : Reference}

theorem Kind.recognise?_of_mem_occurrences {kind : Kind} (h : r ∈ kind.occurrences line) :
    ∃ hit, kind.recognise? (line.drop r.span.start) = some hit ∧
      r = Reference.ofHit kind (r.span.start, hit) := by
  obtain ⟨⟨i, hit⟩, found, rfl⟩ := List.mem_map.mp h
  obtain ⟨d, place, _, taken⟩ := recognise_of_mem_scan found
  have same : d = i := by
    dsimp only at place
    omega
  rw [same] at taken
  exact ⟨hit, taken, rfl⟩

theorem mem_occurrences_iff : r ∈ occurrences line ↔ ∃ kind : Kind, r ∈ kind.occurrences line := by
  unfold occurrences
  rw [List.mem_flatMap]
  constructor
  · rintro ⟨kind, _, h⟩
    exact ⟨kind, h⟩
  · rintro ⟨kind, h⟩
    exact ⟨kind, by cases kind <;> decide, h⟩

theorem recognise?_of_mem_occurrences (h : r ∈ occurrences line) :
    ∃ hit, r.kind.recognise? (line.drop r.span.start) = some hit ∧
      r = Reference.ofHit r.kind (r.span.start, hit) := by
  obtain ⟨kind, h⟩ := mem_occurrences_iff.mp h
  obtain ⟨hit, taken, hr⟩ := Kind.recognise?_of_mem_occurrences h
  have hkind : r.kind = kind := by rw [hr]; rfl
  rw [hkind]
  exact ⟨hit, taken, hr⟩

theorem start_lt_stop_of_mem_occurrences (h : r ∈ occurrences line) :
    r.span.start < r.span.stop := by
  obtain ⟨hit, taken, hr⟩ := recognise?_of_mem_occurrences h
  have positive := List.length_pos_iff.mpr (Kind.recognise?_append taken).1
  have hstop : r.span.stop = r.span.start + hit.raw.length := by rw [hr]; rfl
  omega

theorem Kind.occurrences_pairwise (kind : Kind) (line : List Char) :
    (kind.occurrences line).Pairwise fun a b => a.span.stop ≤ b.span.start := by
  unfold Kind.occurrences
  rw [List.pairwise_map]
  exact scan_pairwise (fun _ _ taken => (Kind.recognise?_append taken).1) 0 0 line

theorem Kind.kind_of_mem_occurrences {kind : Kind} (h : r ∈ kind.occurrences line) :
    r.kind = kind := by
  obtain ⟨_, _, rfl⟩ := List.mem_map.mp h
  rfl

theorem occurrences_pairwise (line : List Char) :
    (occurrences line).Pairwise Reference.Precedes := by
  unfold occurrences
  rw [List.pairwise_flatMap]
  constructor
  · intro kind _
    refine (kind.occurrences_pairwise line).imp_of_mem fun ha hb ordered => .inr ⟨?_, ordered⟩
    rw [Kind.kind_of_mem_occurrences ha, Kind.kind_of_mem_occurrences hb]
  · have ranks : Kind.all.Pairwise fun k l => k.rank < l.rank := by decide
    refine ranks.imp fun less a ha b hb => .inl ?_
    rwa [Kind.kind_of_mem_occurrences ha, Kind.kind_of_mem_occurrences hb]

/-! ## Occurrences that overlap -/

theorem Span.overlaps_iff {s t : Span} :
    s.overlaps t = true ↔ s.start < t.stop ∧ t.start < s.stop := by
  simp [Span.overlaps]

theorem Span.overlaps_comm (s t : Span) : s.overlaps t = t.overlaps s := by
  rw [Bool.eq_iff_iff, Span.overlaps_iff, Span.overlaps_iff]
  exact And.comm

theorem Reference.Precedes.rank_lt_of_overlaps (h : a.Precedes b)
    (overlap : b.span.overlaps a.span = true) : a.kind.rank < b.kind.rank := by
  rw [Span.overlaps_iff] at overlap
  rcases h with less | ⟨_, behind⟩
  · exact less
  · omega

theorem shapes_of_overlap_of_le (ha : a ∈ occurrences line) (hb : b ∈ occurrences line)
    (differ : a.kind ≠ b.kind) (before : a.span.start ≤ b.span.start)
    (meets : b.span.start < a.span.stop) :
    a.kind = .labelCall ∧ b.kind = .routine ∧ a.span.start < b.span.start ∧
        b.span.stop = a.span.stop ∨
      a.kind = .macroCall ∧ b.kind = .labelCall ∧ b.span.start = a.span.start + 1 ∧
        a.span.stop < b.span.stop := by
  obtain ⟨x, takenA, hra⟩ := recognise?_of_mem_occurrences ha
  obtain ⟨y, takenB, hrb⟩ := recognise?_of_mem_occurrences hb
  have stopA : a.span.stop = a.span.start + x.raw.length := by rw [hra]; rfl
  have stopB : b.span.stop = b.span.start + y.raw.length := by rw [hrb]; rfl
  obtain ⟨d, hd⟩ := Nat.exists_eq_add_of_le before
  rw [hd] at takenB
  rcases shapes_of_shared takenA takenB differ (by omega) with
    ⟨label, routine, inside, ends⟩ | ⟨isMacro, label, place, ends⟩
  · exact .inl ⟨label, routine, by omega, by omega⟩
  · exact .inr ⟨isMacro, label, by omega, by omega⟩

/-- A shape is kept from its characters only by a label call: a routine that is its last
part, or a macro whose dollar signs reach into it. -/
theorem shapes_of_overlap (ha : a ∈ occurrences line) (hb : b ∈ occurrences line)
    (less : a.kind.rank < b.kind.rank) (overlap : b.span.overlaps a.span = true) :
    a.kind = .labelCall ∧
      (b.kind = .routine ∧ a.span.start < b.span.start ∧ b.span.stop = a.span.stop ∨
        b.kind = .macroCall ∧ a.span.start = b.span.start + 1 ∧ b.span.stop < a.span.stop) := by
  have differ : a.kind ≠ b.kind := by
    intro same
    rw [same] at less
    exact Nat.lt_irrefl _ less
  rw [Span.overlaps_iff] at overlap
  rcases Nat.le_total a.span.start b.span.start with before | after
  · rcases shapes_of_overlap_of_le ha hb differ before overlap.1 with
      ⟨label, routine, ends⟩ | ⟨isMacro, label, _⟩
    · exact ⟨label, .inl ⟨routine, ends⟩⟩
    · rw [isMacro, label] at less
      exact absurd less (by decide)
  · rcases shapes_of_overlap_of_le hb ha differ.symm after overlap.2 with
      ⟨label, routine, _⟩ | ⟨isMacro, label, ends⟩
    · rw [label, routine] at less
      exact absurd less (by decide)
    · exact ⟨label, .inr ⟨isMacro, ends⟩⟩

/-! ## Kept occurrences -/

/-- No two of some references share a character. -/
def Apart (kept : List Reference) : Prop :=
  ∀ a ∈ kept, ∀ b ∈ kept, a ≠ b → a.span.overlaps b.span = false

theorem mem_keepDisjoint {kept : List Reference} {x : Reference} (h : a ∈ kept) :
    a ∈ keepDisjoint kept x := by
  unfold keepDisjoint
  split
  · exact h
  · exact List.mem_append_left _ h

theorem mem_of_mem_keepDisjoint {kept : List Reference} {x : Reference}
    (h : a ∈ keepDisjoint kept x) : a ∈ kept ∨ a = x := by
  unfold keepDisjoint at h
  split at h
  · exact .inl h
  · rcases List.mem_append.mp h with old | new
    · exact .inl old
    · exact .inr (List.mem_singleton.mp new)

theorem Apart.keepDisjoint {kept : List Reference} (h : Apart kept) (x : Reference) :
    Apart (keepDisjoint kept x) := by
  unfold RefNav.keepDisjoint
  split
  next => exact h
  next free =>
    simp only [List.any_eq_true, not_exists, not_and, Bool.not_eq_true] at free
    intro a ha b hb differ
    rcases List.mem_append.mp ha with oldA | newA
    · rcases List.mem_append.mp hb with oldB | newB
      · exact h a oldA b oldB differ
      · rw [List.mem_singleton.mp newB, Span.overlaps_comm]
        exact free a oldA
    · rw [List.mem_singleton.mp newA] at differ ⊢
      rcases List.mem_append.mp hb with oldB | newB
      · exact free b oldB
      · exact absurd (List.mem_singleton.mp newB).symm differ

section

variable {kept found : List Reference}

theorem mem_foldl_keepDisjoint (h : a ∈ kept) : a ∈ found.foldl keepDisjoint kept := by
  induction found generalizing kept with
  | nil => exact h
  | cons x found ih => exact ih (mem_keepDisjoint h)

theorem mem_of_mem_foldl_keepDisjoint (h : a ∈ found.foldl keepDisjoint kept) :
    a ∈ kept ∨ a ∈ found := by
  induction found generalizing kept with
  | nil => exact .inl h
  | cons x found ih =>
      rcases ih h with early | late
      · rcases mem_of_mem_keepDisjoint early with old | rfl
        · exact .inl old
        · exact .inr List.mem_cons_self
      · exact .inr (List.mem_cons_of_mem x late)

theorem Apart.foldl (h : Apart kept) : Apart (found.foldl RefNav.keepDisjoint kept) := by
  induction found generalizing kept with
  | nil => exact h
  | cons x found ih => exact ih (h.keepDisjoint x)

/-- What is not kept shares a character with something kept that comes first. -/
theorem kept_or_overlaps (ordered : found.Pairwise Reference.Precedes)
    (before : ∀ k ∈ kept, ∀ r ∈ found, k.Precedes r) (h : r ∈ found) :
    r ∈ found.foldl keepDisjoint kept ∨
      ∃ k ∈ found.foldl keepDisjoint kept, k.Precedes r ∧ r.span.overlaps k.span = true := by
  induction found generalizing kept with
  | nil => cases h
  | cons x found ih =>
      obtain ⟨first, rest⟩ := List.pairwise_cons.mp ordered
      rw [List.foldl_cons]
      rcases List.mem_cons.mp h with rfl | later
      · by_cases overlap : (kept.any fun k => r.span.overlaps k.span) = true
        · obtain ⟨k, hk, overlaps⟩ := List.any_eq_true.mp overlap
          exact .inr ⟨k, mem_foldl_keepDisjoint (mem_keepDisjoint hk),
            before k hk r List.mem_cons_self, overlaps⟩
        · refine .inl (mem_foldl_keepDisjoint ?_)
          rw [keepDisjoint, if_neg overlap]
          exact List.mem_append_right _ List.mem_cons_self
      · refine ih rest (fun k hk s hs => ?_) later
        rcases mem_of_mem_keepDisjoint hk with old | rfl
        · exact before k old s (List.mem_cons_of_mem x hs)
        · exact first s hs

end

theorem mem_referencesIn {text : String} :
    r ∈ referencesIn text ↔ r ∈ (occurrences text.toList).foldl keepDisjoint [] :=
  List.mem_mergeSort

theorem mem_occurrences_of_mem_referencesIn {text : String} (h : r ∈ referencesIn text) :
    r ∈ occurrences text.toList := by
  rcases mem_of_mem_foldl_keepDisjoint (mem_referencesIn.mp h) with none | found
  · cases none
  · exact found

theorem referencesIn_apart (text : String) : Apart (referencesIn text) := by
  intro a ha b hb
  have apart : Apart ((occurrences text.toList).foldl keepDisjoint []) := Apart.foldl nofun
  exact apart a (mem_referencesIn.mp ha) b (mem_referencesIn.mp hb)

theorem kept_or_overlaps_reference {text : String} (h : r ∈ occurrences text.toList) :
    r ∈ referencesIn text ∨
      ∃ k ∈ referencesIn text, k.kind.rank < r.kind.rank ∧ r.span.overlaps k.span = true := by
  have nothing : ∀ k ∈ ([] : List Reference), ∀ r ∈ occurrences text.toList, k.Precedes r := nofun
  rcases kept_or_overlaps (occurrences_pairwise _) nothing h with
    kept | ⟨k, hk, precedes, overlap⟩
  · exact .inl (mem_referencesIn.mpr kept)
  · exact .inr ⟨k, mem_referencesIn.mpr hk, precedes.rank_lt_of_overlaps overlap, overlap⟩

/-- The references of a line are the occurrences that no occurrence of a shape of higher
priority overlaps. -/
theorem mem_referencesIn_iff {text : String} :
    r ∈ referencesIn text ↔ r ∈ occurrences text.toList ∧
      ∀ o ∈ occurrences text.toList, o.kind.rank < r.kind.rank →
        r.span.overlaps o.span = false := by
  constructor
  · intro h
    have found := mem_occurrences_of_mem_referencesIn h
    refine ⟨found, fun o ho less => Bool.eq_false_iff.mpr fun overlap => ?_⟩
    have label := (shapes_of_overlap ho found less overlap).1
    -- a label call has the highest priority, so it is kept
    have kept : o ∈ referencesIn text := by
      rcases kept_or_overlaps_reference ho with kept | ⟨k, _, higher, _⟩
      · exact kept
      · rw [label] at higher
        exact absurd higher (Nat.not_lt_zero _)
    have differ : r ≠ o := by
      rintro rfl
      exact Nat.lt_irrefl _ less
    rw [referencesIn_apart text r h o kept differ] at overlap
    cases overlap
  · rintro ⟨found, free⟩
    rcases kept_or_overlaps_reference found with kept | ⟨k, hk, less, overlap⟩
    · exact kept
    · rw [free k (mem_occurrences_of_mem_referencesIn hk) less] at overlap
      cases overlap

/-! ## The reference under a cursor -/

section

variable {text : String} {offset : Int}

/-- Everything that a cursor is on comes behind the reference under it. -/
theorem eq_or_precedes_of_referenceAt {m : Reference} (hm : referenceAt text offset = some m)
    (found : r ∈ occurrences text.toList) (covers : r.span.covers offset = true) :
    r = m ∨ m.Precedes r := by
  obtain ⟨_, before, after, split, uncovered⟩ := List.find?_eq_some_iff_append.mp hm
  have ordered := occurrences_pairwise text.toList
  rw [split] at found ordered
  rcases List.mem_append.mp found with early | late
  · exact absurd covers (by simpa using uncovered r early)
  · rcases List.mem_cons.mp late with same | later
    · exact .inl same
    · exact .inr ((List.pairwise_cons.mp (List.pairwise_append.mp ordered).2.1).1 r later)

/-- Under a cursor on a reference lies that reference, or an earlier occurrence that the
cursor is on too and that shares no character with it. -/
theorem referenceAt_of_covers (h : r ∈ referencesIn text) (covers : r.span.covers offset = true) :
    ∃ m, referenceAt text offset = some m ∧
      (m = r ∨ m.Precedes r ∧ r.span.overlaps m.span = false) := by
  have found := mem_occurrences_of_mem_referencesIn h
  cases hm : referenceAt text offset with
  | none => exact absurd covers (List.find?_eq_none.mp hm r found)
  | some m =>
      refine ⟨m, rfl, ?_⟩
      rcases eq_or_precedes_of_referenceAt hm found covers with same | precedes
      · exact .inl same.symm
      · refine .inr ⟨precedes, Bool.eq_false_iff.mpr fun overlap => ?_⟩
        have less := precedes.rank_lt_of_overlaps overlap
        rw [(mem_referencesIn_iff.mp h).2 m (List.mem_of_find?_eq_some hm) less] at overlap
        cases overlap

/-- A reference is missed at its first character only for one that ends there. -/
theorem referenceAt_start (h : r ∈ referencesIn text) :
    ∃ m, referenceAt text r.span.start = some m ∧
      (m = r ∨ m.Precedes r ∧ m.span.stop = r.span.start) := by
  have nonempty := start_lt_stop_of_mem_occurrences (mem_occurrences_of_mem_referencesIn h)
  have covers : r.span.covers r.span.start = true := by
    simp only [Span.covers, Bool.and_eq_true, decide_eq_true_eq]
    omega
  obtain ⟨m, hm, rfl | ⟨precedes, apart⟩⟩ := referenceAt_of_covers h covers
  · exact ⟨m, hm, .inl rfl⟩
  · refine ⟨m, hm, .inr ⟨precedes, ?_⟩⟩
    have covered := List.find?_some hm
    simp only [Span.covers, Bool.and_eq_true, decide_eq_true_eq] at covered
    rw [← Bool.not_eq_true, Span.overlaps_iff] at apart
    omega

theorem Reference.Precedes.rank_le (h : a.Precedes b) : a.kind.rank ≤ b.kind.rank := by
  rcases h with less | ⟨same, _⟩
  · exact Nat.le_of_lt less
  · exact Nat.le_of_eq (congrArg Kind.rank same)

/-- An occurrence that ends where a reference begins and comes before it shows that a
reference does so, too: itself, or the label call that it is a part of. -/
theorem exists_touching {m : Reference} (h : r ∈ referencesIn text)
    (found : m ∈ occurrences text.toList) (precedes : m.Precedes r)
    (touches : m.span.stop = r.span.start) :
    ∃ o ∈ referencesIn text, o.span.stop = r.span.start ∧ o.kind.rank ≤ r.kind.rank := by
  rcases kept_or_overlaps_reference found with kept | ⟨k, hk, less, overlap⟩
  · exact ⟨m, kept, touches, precedes.rank_le⟩
  have foundK := mem_occurrences_of_mem_referencesIn hk
  rcases shapes_of_overlap foundK found less overlap with
    ⟨_, ⟨_, _, ends⟩ | ⟨_, begins, ends⟩⟩
  · exact ⟨k, hk, by omega, Nat.le_trans (Nat.le_of_lt less) precedes.rank_le⟩
  -- a label call behind a macro would lie on the reference itself
  · have nonemptyM := start_lt_stop_of_mem_occurrences found
    have nonemptyR := start_lt_stop_of_mem_occurrences (mem_occurrences_of_mem_referencesIn h)
    have differ : r ≠ k := by
      rintro rfl
      exact Nat.not_le_of_lt less precedes.rank_le
    have apart := referencesIn_apart text r h k hk differ
    rw [← Bool.not_eq_true, Span.overlaps_iff] at apart
    omega

/-- A reference is found at its first character unless one of the same or a higher
priority ends there. -/
theorem referenceAt_start_eq_iff (h : r ∈ referencesIn text) :
    referenceAt text r.span.start = some r ↔
      ∀ o ∈ referencesIn text, o.span.stop = r.span.start → r.kind.rank < o.kind.rank := by
  have nonempty := start_lt_stop_of_mem_occurrences (mem_occurrences_of_mem_referencesIn h)
  constructor
  · intro hr o ho touches
    have foundO := mem_occurrences_of_mem_referencesIn ho
    have nonemptyO := start_lt_stop_of_mem_occurrences foundO
    have covers : o.span.covers r.span.start = true := by
      simp only [Span.covers, Bool.and_eq_true, decide_eq_true_eq]
      omega
    rcases eq_or_precedes_of_referenceAt hr foundO covers with rfl | less | ⟨_, behind⟩
    · omega
    · exact less
    · omega
  · intro free
    obtain ⟨m, hm, rfl | ⟨precedes, touches⟩⟩ := referenceAt_start h
    · exact hm
    · obtain ⟨o, ho, touchesO, le⟩ :=
        exists_touching h (List.mem_of_find?_eq_some hm) precedes touches
      exact absurd (free o ho touchesO) (Nat.not_lt.mpr le)

end

end RefNav
