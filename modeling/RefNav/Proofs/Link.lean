import RefNav.Link
import RefNav.Proofs.Reference.Extract
import RefNav.Proofs.Text.Lines

/-! # Following links

A link is followed by looking for the reference under its first character.  That
is the reference it was made for, unless another one ends there.
-/

namespace RefNav

theorem Document.mem_links_iff {d : Document} {l : Link} :
    l ∈ d.links ↔ ∃ (text : String) (r : Reference), d.lines[l.line]? = some text ∧
      r ∈ referencesIn text ∧ l.uri = d.uri ∧ r.span = ⟨l.start, l.stop⟩ ∧
      l.tooltip = "Go to Definition" ∧ r.query = l.query := by
  simp only [links, references, List.mem_map, List.mem_flatMap, Prod.exists,
    List.mem_zipIdx_iff_getElem?]
  constructor
  · rintro ⟨p, ⟨text, line, hline, r, hr, rfl⟩, rfl⟩
    exact ⟨text, r, hline, hr, rfl, rfl, rfl, rfl⟩
  · rintro ⟨text, r, hline, hr, huri, hspan, htip, hquery⟩
    refine ⟨⟨l.line, r⟩, ⟨text, l.line, hline, r, hr, rfl⟩, ?_⟩
    obtain ⟨uri, line, start, stop, tooltip, query⟩ := l
    simp_all

/-- A link leads back to the reference it was made for unless one of the same or a higher
priority ends where it begins, and then to a reference that ends there. -/
theorem Document.links_followed (d : Document) (l : Link) (hl : l ∈ d.links) :
    ∃ text r, d.lineAt l.line = .ok text ∧ r ∈ referencesIn text ∧
      r.span = ⟨l.start, l.stop⟩ ∧ r.query = l.query ∧
      ∃ m, referenceAt text l.start = some m ∧
        (m = r ∨ m.span.stop = l.start ∧ m.kind.rank ≤ r.kind.rank) ∧
        (m.query = l.query ∧ m.span = ⟨l.start, l.stop⟩ ↔
          ∀ o ∈ referencesIn text, o.span.stop = l.start → r.kind.rank < o.kind.rank) := by
  obtain ⟨text, r, hline, hr, _, hspan, _, hquery⟩ := mem_links_iff.mp hl
  have hstart : r.span.start = l.start := by rw [hspan]
  have nonempty := start_lt_stop_of_mem_occurrences (mem_occurrences_of_mem_referencesIn hr)
  have found := referenceAt_start_eq_iff hr
  obtain ⟨m, hm, result⟩ := referenceAt_start hr
  rw [hstart] at found hm result
  refine ⟨text, r, lineAt_of_getElem? hline, hr, hspan, hquery, m, hm, ?_, ?_⟩
  · rcases result with same | ⟨precedes, touches⟩
    · exact .inl same
    · exact .inr ⟨touches, precedes.rank_le⟩
  · rw [← found, hm]
    constructor
    · rintro ⟨_, sameSpan⟩
      rcases result with rfl | ⟨_, touches⟩
      · rfl
      · rw [sameSpan] at touches
        rw [hspan] at nonempty
        dsimp only at touches nonempty
        omega
    · intro same
      cases same
      exact ⟨hquery, hspan⟩

theorem Document.links_followed_second :
    let d := Document.ofText "/ws/A.mac" "^A ^B"
    let l : Link := { uri := "/ws/A.mac", line := 0, start := 3, stop := 5, query := "^B" }
    l ∈ d.links ∧ ∃ m, referenceAt "^A ^B" 3 = some m ∧ m.query = "^B" ∧ m.span = ⟨3, 5⟩ := by
  intro d l
  have hl : l ∈ d.links := by
    refine mem_links_iff.mpr
      ⟨"^A ^B", ⟨"^B", "^B", .routine, "B", ⟨3, 5⟩⟩, rfl, ?_, rfl, rfl, rfl, rfl⟩
    rw [mem_referencesIn]
    decide
  have hline : d.lineAt l.line = .ok "^A ^B" := rfl
  obtain ⟨text, r, hline', _, _, _, m, hm, _, faithful⟩ := links_followed d l hl
  rw [hline] at hline'
  cases hline'
  refine ⟨hl, m, hm, faithful.mpr fun o ho touches => absurd touches ?_⟩
  have untouched : ∀ o ∈ (occurrences "^A ^B".toList).foldl keepDisjoint [], o.span.stop ≠ 3 := by
    decide
  exact untouched o (mem_referencesIn.mp ho)

/-- The link of a reference that touches the one before it leads to that one. -/
theorem Document.touching_link_misses :
    let d := Document.ofText "/ws/A.mac" "^A^B"
    let l : Link := { uri := "/ws/A.mac", line := 0, start := 2, stop := 4, query := "^B" }
    l ∈ d.links ∧ d.lineAt l.line = .ok "^A^B" ∧
      referenceAt "^A^B" l.start = some ⟨"^A", "^A", .routine, "A", ⟨0, 2⟩⟩ := by
  intro d l
  refine ⟨mem_links_iff.mpr
    ⟨"^A^B", ⟨"^B", "^B", .routine, "B", ⟨2, 4⟩⟩, rfl, ?_, rfl, rfl, rfl, rfl⟩, rfl, by decide⟩
  rw [mem_referencesIn]
  decide

end RefNav
