import Mathlib.Data.List.Nodup
import RefNav.Link
import RefNav.Proofs.Reference.Recognition

/-! # All references of a document

The references of a line stand one behind the other, and those of a document line
by line.  An occurrence is left out exactly where it shares a character with a
reference of a shape of higher priority, so every label call is there.
-/

namespace RefNav

/-! ## Within a line -/

/-- What is kept stays in the order in which it was found. -/
theorem foldl_keepDisjoint_sublist (kept found : List Reference) :
    (found.foldl keepDisjoint kept).Sublist (kept ++ found) := by
  induction found generalizing kept with
  | nil => simp
  | cons r found ih =>
      have grown : (keepDisjoint kept r).Sublist (kept ++ [r]) := by
        unfold keepDisjoint
        split
        · exact List.sublist_append_left kept [r]
        · exact List.Sublist.refl _
      rw [List.foldl_cons, List.append_cons]
      exact (ih _).trans (grown.append_right found)

theorem occurrences_nodup (line : List Char) : (occurrences line).Nodup := by
  refine (occurrences_pairwise line).imp_of_mem fun ha _ precedes same => ?_
  subst same
  have nonempty := start_lt_stop_of_mem_occurrences ha
  rcases precedes with less | ⟨_, behind⟩
  · exact Nat.lt_irrefl _ less
  · omega

theorem referencesIn_nodup (text : String) : (referencesIn text).Nodup := by
  have kept : ((occurrences text.toList).foldl keepDisjoint []).Nodup :=
    (occurrences_nodup text.toList).sublist (foldl_keepDisjoint_sublist [] _)
  exact (List.mergeSort_perm _ _).nodup_iff.mpr kept

/-- Each reference of a line begins behind the one before it. -/
theorem referencesIn_pairwise (text : String) :
    (referencesIn text).Pairwise fun a b => a.span.stop ≤ b.span.start := by
  have byStart : (referencesIn text).Pairwise fun a b =>
      decide (a.span.start ≤ b.span.start) = true := by
    refine List.pairwise_mergeSort (fun a b c hab hbc => ?_) (fun a b => ?_) _
    · simp only [decide_eq_true_eq] at hab hbc ⊢
      omega
    · simp only [Bool.or_eq_true, decide_eq_true_eq]
      omega
  have apart : (referencesIn text).Pairwise fun a b => a.span.overlaps b.span = false :=
    (referencesIn_nodup text).pairwise_of_forall_ne fun a ha b hb differ =>
      referencesIn_apart text a ha b hb differ
  refine (byStart.and apart).imp_of_mem fun ha hb ⟨before, free⟩ => ?_
  rw [decide_eq_true_eq] at before
  have nonempty := start_lt_stop_of_mem_occurrences (mem_occurrences_of_mem_referencesIn hb)
  rw [← Bool.not_eq_true, Span.overlaps_iff] at free
  omega

/-- An occurrence is no reference exactly if a reference of higher priority overlaps it. -/
theorem not_mem_referencesIn_iff {text : String} {r : Reference}
    (found : r ∈ occurrences text.toList) :
    r ∉ referencesIn text ↔
      ∃ k ∈ referencesIn text, k.kind.rank < r.kind.rank ∧ r.span.overlaps k.span = true := by
  constructor
  · intro dropped
    rcases kept_or_overlaps_reference found with kept | hidden
    · exact absurd kept dropped
    · exact hidden
  · rintro ⟨k, hk, less, overlap⟩ kept
    have free := (mem_referencesIn_iff.mp kept).2 k (mem_occurrences_of_mem_referencesIn hk) less
    rw [free] at overlap
    cases overlap

/-! ## Line by line -/

namespace Document

variable {d : Document} {p : Placed}

theorem mem_references_iff :
    p ∈ d.references ↔ ∃ text, d.lines[p.line]? = some text ∧ p.reference ∈ referencesIn text := by
  simp only [references, List.mem_flatMap, List.mem_map, Prod.exists, List.mem_zipIdx_iff_getElem?]
  constructor
  · rintro ⟨text, line, hline, r, hr, rfl⟩
    exact ⟨text, hline, hr⟩
  · rintro ⟨text, hline, hr⟩
    exact ⟨text, p.line, hline, p.reference, hr, rfl⟩

theorem references_pairwise (d : Document) :
    d.references.Pairwise fun p q =>
      p.line < q.line ∨ p.line = q.line ∧ p.reference.span.stop ≤ q.reference.span.start := by
  unfold references
  rw [List.pairwise_flatMap]
  constructor
  · rintro ⟨text, line⟩ _
    rw [List.pairwise_map]
    exact (referencesIn_pairwise text).imp fun behind => .inr ⟨rfl, behind⟩
  · have numbers : (d.lines.zipIdx.map Prod.snd).Pairwise (· < ·) := by
      rw [List.zipIdx_map_snd]
      exact List.pairwise_lt_range'
    rw [List.pairwise_map] at numbers
    refine numbers.imp fun less p hp q hq => .inl ?_
    obtain ⟨_, _, rfl⟩ := List.mem_map.mp hp
    obtain ⟨_, _, rfl⟩ := List.mem_map.mp hq
    exact less

/-- The references of a document go up by line and place, none of them is empty or shares a
character with another, and each is an occurrence of its shape with the characters that stand
there.  An occurrence is missing exactly if a reference of higher priority on its line shares a
character with it; no label call is missing.  The links have the same places and queries. -/
theorem references_disjoint_maximal (d : Document) :
    (d.references.Pairwise fun p q => p.line < q.line ∨
      p.line = q.line ∧ p.reference.span.start < q.reference.span.start) ∧
    (d.references.Pairwise fun p q => p.line = q.line →
      p.reference.span.overlaps q.reference.span = false) ∧
    (∀ p ∈ d.references, ∃ text, d.lines[p.line]? = some text ∧
      p.reference ∈ p.reference.kind.occurrences text.toList ∧
      p.reference.span.start < p.reference.span.stop ∧
      p.reference.span.stop ≤ text.length ∧
      p.reference.raw.toList =
        text.toList.extract p.reference.span.start p.reference.span.stop) ∧
    (∀ (line : Nat) (text : String), d.lines[line]? = some text →
      (∀ (kind : Kind), ∀ r ∈ kind.occurrences text.toList,
        (⟨line, r⟩ ∉ d.references ↔ ∃ p ∈ d.references, p.line = line ∧
          p.reference.kind.rank < kind.rank ∧ r.span.overlaps p.reference.span = true)) ∧
      ∀ r ∈ Kind.labelCall.occurrences text.toList, ⟨line, r⟩ ∈ d.references) ∧
    d.links.map (fun l => (l.uri, l.line, Span.mk l.start l.stop, l.query)) =
      d.references.map fun p => (d.uri, p.line, p.reference.span, p.reference.query) := by
  have place {line : Nat} {text : String} (hline : d.lines[line]? = some text) (r : Reference) :
      ⟨line, r⟩ ∈ d.references ↔ r ∈ referencesIn text := by
    simp [mem_references_iff, hline]
  have missing {line : Nat} {text : String} (hline : d.lines[line]? = some text) {kind : Kind}
      {r : Reference} (hr : r ∈ kind.occurrences text.toList) :
      ⟨line, r⟩ ∉ d.references ↔ ∃ p ∈ d.references, p.line = line ∧
        p.reference.kind.rank < kind.rank ∧ r.span.overlaps p.reference.span = true := by
    rw [place hline, not_mem_referencesIn_iff (mem_occurrences_iff.mpr ⟨kind, hr⟩),
      Kind.kind_of_mem_occurrences hr]
    constructor
    · rintro ⟨k, hk, less, overlap⟩
      exact ⟨⟨line, k⟩, (place hline k).mpr hk, rfl, less, overlap⟩
    · rintro ⟨⟨line, k⟩, hk, rfl, less, overlap⟩
      exact ⟨k, (place hline k).mp hk, less, overlap⟩
  have inside : ∀ p ∈ d.references, ∃ text, d.lines[p.line]? = some text ∧
      p.reference ∈ occurrences text.toList := by
    intro p hp
    obtain ⟨text, hline, hr⟩ := mem_references_iff.mp hp
    exact ⟨text, hline, mem_occurrences_of_mem_referencesIn hr⟩
  refine ⟨?_, ?_, fun p hp => ?_, fun line text hline => ⟨fun kind r => missing hline, ?_⟩, ?_⟩
  · refine d.references_pairwise.imp_of_mem fun hp _ ordered => ?_
    obtain ⟨_, _, found⟩ := inside _ hp
    have nonempty := start_lt_stop_of_mem_occurrences found
    omega
  · refine d.references_pairwise.imp fun ordered same => ?_
    rw [← Bool.not_eq_true, Span.overlaps_iff]
    omega
  · obtain ⟨text, hline, found⟩ := inside p hp
    have own := mem_kind_occurrences found
    exact ⟨text, hline, own, start_lt_stop_of_mem_occurrences found,
      (longestAt_of_mem_occurrences found).stop_le, Kind.raw_eq_extract own⟩
  · intro r hr
    apply Decidable.by_contra
    intro absent
    -- nothing has a higher priority than a label call
    obtain ⟨p, _, _, less, _⟩ := (missing hline hr).mp absent
    exact Nat.not_lt_zero _ less
  · simp [links, Function.comp_def]

/-- The macro of a line with a label call at its second character is left out, and what
follows is kept. -/
theorem references_disjoint_maximal_macro :
    let d := Document.ofText "/ws/A.mac" "set x = $$$A^B\ndo ^C"
    let hidden : Reference := ⟨"$$$A", "$$$A", .macroCall, "A", ⟨8, 12⟩⟩
    let call : Reference := ⟨"$$A^B", "A^B", .labelCall, "B", ⟨9, 14⟩⟩
    hidden ∈ Kind.macroCall.occurrences "set x = $$$A^B".toList ∧
      ⟨0, call⟩ ∈ d.references ∧ ⟨0, hidden⟩ ∉ d.references := by
  intro d hidden call
  obtain ⟨_, _, _, complete, _⟩ := references_disjoint_maximal d
  obtain ⟨missing, calls⟩ := complete 0 "set x = $$$A^B" rfl
  have occurs : hidden ∈ Kind.macroCall.occurrences "set x = $$$A^B".toList := by decide
  have kept : ⟨0, call⟩ ∈ d.references := calls call (by decide)
  exact ⟨occurs, kept,
    (missing .macroCall hidden occurs).mpr ⟨⟨0, call⟩, kept, rfl, by decide, by decide⟩⟩

end Document

end RefNav
