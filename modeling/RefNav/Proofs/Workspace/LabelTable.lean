import Mathlib.Order.Bounds.Basic
import RefNav.Proofs.Workspace.Declaration

/-! # The table of labels, line by line

The label of a line is the longest plain name at its start.  The table has every label with the
first line that starts with it, in the order of these lines, and lines that come later only add to
it.
-/

namespace RefNav

open RefNav.Text

/-! ## Plain names as longest texts -/

/-- The longest plain name at the start of a text. -/
def plainStart? (cs : List Char) : Option (List Char) :=
  (plainName? isLetter isLetterOrDigit cs).map (·.1)

variable {cs w line : List Char}

theorem plainStart?_append (h : w ∈ Grammar.plain) (rest : List Char) :
    plainStart? (w ++ rest) = some (w ++ rest.takeWhile isLetterOrDigit) := by
  obtain ⟨sign, c, u, hsign, hc, hu, rfl⟩ := Grammar.mem_plain.mp h
  rw [plainStart?, List.append_assoc, List.cons_append, plainName?_append hsign hc,
    List.takeWhile_append_of_pos hu]
  simp

theorem of_plainStart? (h : plainStart? cs = some w) : w ∈ Grammar.plain ∧ w <+: cs := by
  obtain ⟨⟨name, rest⟩, read, rfl⟩ := Option.map_eq_some_iff.mp h
  obtain ⟨sign, c, after, hsign, hc, rfl, rfl⟩ := plainName?_eq_some read
  constructor
  · exact Grammar.mem_plain.mpr
      ⟨sign, c, _, hsign, hc, fun d hd => List.all_eq_true.mp List.all_takeWhile d hd, rfl⟩
  · exact (List.prefix_append_right_inj sign).mpr
      (List.cons_prefix_cons.mpr ⟨rfl, List.takeWhile_prefix _⟩)

theorem takesLongest_plain : TakesLongest Grammar.plain plainStart? where
  nonempty := by
    intro empty
    obtain ⟨sign, c, u, _, _, _, same⟩ := Grammar.mem_plain.mp empty
    simp at same
  sound := fun _ _ => of_plainStart?
  greedy := fun _ mem rest => ⟨_, plainStart?_append mem rest⟩

/-! ## Labels of lines -/

/-- The label of a line: the longest plain name at its start. -/
def HasLabel (line label : String) : Prop :=
  LongestAt Grammar.plain line.toList ⟨0, label.length⟩ ∧ label.toList <+: line.toList

/-- What is passed over has no plain name at its start. -/
theorem label?_eq_plainStart? (line : List Char) : label? line = plainStart? line := by
  cases read : plainStart? line with
  | some w =>
      obtain ⟨mem, rest, rfl⟩ := of_plainStart? read
      rw [plainStart?_append mem] at read
      obtain ⟨sign, c, u, hsign, hc, hu, rfl⟩ := Grammar.mem_plain.mp mem
      rw [← read, List.append_assoc, List.cons_append, label?_append hsign hc,
        List.takeWhile_append_of_pos hu]
      simp
  | none =>
      have unread : plainName? isLetter isLetterOrDigit line = none := by
        simpa [plainStart?] using read
      simp [label?, unread]

theorem label?_eq_some_iff {line label : String} :
    label? line.toList = some label.toList ↔ HasLabel line label := by
  rw [label?_eq_plainStart?, HasLabel, takesLongest_plain.longestAt_iff, List.drop_zero]
  constructor
  · intro read
    refine ⟨⟨label.toList, read, ?_⟩, (of_plainStart? read).2⟩
    rw [String.length_toList, Nat.zero_add]
  · rintro ⟨⟨w, read, same⟩, front⟩
    -- Two starts of one length are the same.
    have length : w.length = label.toList.length := by
      rw [String.length_toList]
      exact (same.trans (Nat.zero_add _)).symm
    have start := List.prefix_of_prefix_length_le (of_plainStart? read).2 front length.le
    rw [read, start.eq_of_length length]

/-- The first line with a label. -/
def FirstLabelled (lines : List String) (label : String) (i : Nat) : Prop :=
  IsLeast {n | ∃ line, lines[n]? = some line ∧ HasLabel line label} i

theorem firstLine_label?_iff {lines : List String} {label : String} {i : Nat} :
    Index.firstLine label? label lines = some i ↔ FirstLabelled lines label i := by
  have declares : ∀ n, Index.DeclaredAt label? label lines n ↔
      n ∈ {n | ∃ line, lines[n]? = some line ∧ HasLabel line label} := by
    intro n
    simp only [Index.DeclaredAt, label?_eq_some_iff, Set.mem_ofPred_eq]
  constructor
  · intro found
    obtain ⟨here, least⟩ := Index.least_of_firstLine found
    exact ⟨(declares i).mp here, fun m among => least m ((declares m).mpr among)⟩
  · rintro ⟨here, least⟩
    obtain ⟨m, found⟩ := Index.exists_firstLine_of_declaredAt ((declares i).mpr here)
    obtain ⟨there, earliest⟩ := Index.least_of_firstLine found
    rw [found, Nat.le_antisymm (earliest i ((declares i).mpr here)) (least ((declares m).mp there))]

/-! ## The table -/

theorem lookup_enter {α : Type} (table pairs : List (String × α)) (name : String) :
    (enter table pairs).lookup name = (table.lookup name).or (pairs.lookup name) := by
  induction pairs generalizing table with
  | nil => simp [enter]
  | cons p rest ih =>
      have step : enter table (p :: rest) = enter (addFirst table p.1 p.2) rest := rfl
      rw [step, ih, lookup_addFirst, Option.or_assoc, List.lookup_cons]
      by_cases same : name = p.1
      · simp [same]
      · have differs : (name == p.1) = false := by simpa using same
        simp [same, differs]

theorem prefix_enter {α : Type} (table pairs : List (String × α)) :
    table <+: enter table pairs := by
  induction pairs generalizing table with
  | nil => exact List.prefix_rfl
  | cons p rest ih =>
      have step : table <+: addFirst table p.1 p.2 := by
        unfold addFirst
        split
        · exact List.prefix_rfl
        · exact List.prefix_append _ _
      exact step.trans (ih (addFirst table p.1 p.2))

/-- The labels of numbered lines, each with its line. -/
def labelled (numbered : List (String × Nat)) : List (String × Nat) :=
  numbered.filterMap fun p => (label? p.1.toList).map fun label => (String.ofList label, p.2)

theorem labels_eq_enter (lines : List String) :
    labels lines = enter [] (labelled lines.zipIdx) := by
  rw [labels, enter, labelled, List.foldl_filterMap]
  congr 1
  funext table p
  cases label? p.1.toList <;> rfl

theorem labelled_pairwise (lines : List String) :
    (labelled lines.zipIdx).Pairwise fun a b => a.2 < b.2 := by
  have numbers : lines.zipIdx.Pairwise fun a b => a.2 < b.2 := by
    apply List.pairwise_map.mp
    rw [List.zipIdx_map_snd]
    exact List.pairwise_lt_range'
  refine List.Pairwise.filterMap _ ?_ numbers
  rintro p q less a entry b other
  obtain ⟨_, _, rfl⟩ := Option.map_eq_some_iff.mp entry
  obtain ⟨_, _, rfl⟩ := Option.map_eq_some_iff.mp other
  exact less

theorem mem_labels_iff_lookup {lines : List String} {label : String} {i : Nat} :
    (label, i) ∈ labels lines ↔ (labels lines).lookup label = some i := by
  rw [labels_eq_enter, mem_enter_iff, lookup_enter]
  simp

theorem mem_labels_iff {lines : List String} {label : String} {i : Nat} :
    (label, i) ∈ labels lines ↔ FirstLabelled lines label i := by
  rw [mem_labels_iff_lookup, lookup_labels, firstLine_label?_iff]

theorem labels_pairwise (lines : List String) :
    (labels lines).Pairwise fun a b => a.2 < b.2 := by
  rw [labels_eq_enter]
  exact (labelled_pairwise lines).sublist (enter_sublist [] _)

/-- Lines that come later only add to the table. -/
theorem labels_prefix_append (lines more : List String) :
    labels lines <+: labels (lines ++ more) := by
  have split : labelled (lines ++ more).zipIdx =
      labelled lines.zipIdx ++ labelled (more.zipIdx lines.length) := by
    rw [List.zipIdx_append, labelled, List.filterMap_append, Nat.zero_add]
    rfl
  rw [labels_eq_enter, labels_eq_enter, split, Index.enter_append]
  exact prefix_enter _ _

/-- The table of labels holds a label with a line exactly if that is the first line with the
label.  The entries are in the order of the lines, each name has one, and they stay as they are
when lines are appended.  No line that is passed over starts with a plain name. -/
theorem labels_first_lines (lines : List String) :
    (∀ label i, (label, i) ∈ labels lines ↔ FirstLabelled lines label i) ∧
    (∀ label i, (labels lines).lookup label = some i ↔ (label, i) ∈ labels lines) ∧
    ((labels lines).Pairwise fun a b => a.2 < b.2) ∧
    (∀ more, labels lines <+: labels (lines ++ more)) ∧
    ∀ line, isSkipped line = true → ∀ w ∈ Grammar.plain, ¬ w <+: line := by
  refine ⟨fun label i => mem_labels_iff, fun label i => mem_labels_iff_lookup.symm,
    labels_pairwise lines, labels_prefix_append lines, ?_⟩
  rintro line skipped w plain ⟨rest, rfl⟩
  have read := label?_eq_plainStart? (w ++ rest)
  rw [plainStart?_append plain, label?, if_pos skipped] at read
  cases read

/-- A comment, a label that comes again, an indented name and a name that an accented letter
ends. -/
theorem labels_first_lines_repeated :
    let lines := ["; A", "A(x) quit", " B", "%C1é quit", "A quit"]
    labels lines = [("A", 1), ("%C1", 3)] ∧ FirstLabelled lines "A" 1 ∧
      FirstLabelled lines "%C1" 3 ∧ isSkipped "; A".toList = true ∧
      ¬ "A".toList <+: "; A".toList := by
  intro lines
  have table : labels lines = [("A", 1), ("%C1", 3)] := by decide +kernel
  have skipped : isSkipped "; A".toList = true := by decide
  have plain : "A".toList ∈ Grammar.plain :=
    Grammar.mem_plain.mpr ⟨[], 'A', [], .inl rfl, by decide, by simp, rfl⟩
  obtain ⟨entries, _, _, _, passed⟩ := labels_first_lines lines
  exact ⟨table, (entries "A" 1).mp (by simp [table]), (entries "%C1" 3).mp (by simp [table]),
    skipped, passed _ skipped _ plain⟩

end RefNav
