import RefNav.Proofs.Command.Search
import RefNav.Proofs.FileTree.Probe
import RefNav.Proofs.Workspace.Word

/-! # The local search at a place

The local search has two ways to an answer, and what stands under the cursor decides between them.
A reference is looked up in what a scan of the workspace finds at that moment; any other word is
looked up among the labels of the document itself.  Either way there is at most one location.
-/

namespace RefNav

open RefNav.Text

variable {t : FileTree} {root : PathName} {d : Document} {position : Position} {line : String}

theorem Document.lineAt_of_outside
    (h : position.line < 0 ∨ (d.lines.length : Int) ≤ position.line) :
    ∃ fault, d.lineAt position.line = .error fault := by
  unfold Document.lineAt
  dsimp only
  split
  · exact ⟨_, rfl⟩
  next started =>
    have behind : d.lines.length ≤ position.line.toNat := by omega
    rw [List.getElem?_eq_none behind]
    exact ⟨_, rfl⟩

theorem Document.lineAt_of_inside (started : 0 ≤ position.line)
    (here : d.lines[position.line.toNat]? = some line) : d.lineAt position.line = .ok line := by
  rw [← Int.toNat_of_nonneg started]
  exact Document.lineAt_of_getElem? here

/-! ## The two ways to an answer -/

theorem mem_labelInDocument_iff {l : Location} :
    l ∈ labelInDocument d line position ↔
      ∃ word i, WordUnder line.toList position.character word.toList ∧
        FirstLabelled d.lines word i ∧ l = { uri := d.uri, line := i } := by
  simp only [← wordAt_eq_some_iff, ← mem_labels_iff, mem_labels_iff_lookup]
  unfold labelInDocument
  cases wordAt line position.character with
  | none => simp
  | some word =>
      dsimp only
      cases found : (labels d.lines).lookup word <;> simp [found]

theorem localDefinitions_of_outside {fault : Fault} (h : d.lineAt position.line = .error fault) :
    localDefinitions t root d position = .ok ([], []) := by
  rw [localDefinitions, h]

theorem localDefinitions_of_word (h : d.lineAt position.line = .ok line)
    (bare : referenceAt line position.character = none) :
    localDefinitions t root d position = .ok (labelInDocument d line position, []) := by
  rw [localDefinitions, h]
  dsimp only
  rw [bare]

theorem localDefinitions_of_reference {r : Reference} (h : d.lineAt position.line = .ok line)
    (covered : referenceAt line position.character = some r) :
    localDefinitions t root d position = (Index.scan t root).map fun p =>
      ((p.1.lookup t r.kind r.query r.symbol).1.toList,
        p.2 ++ (p.1.lookup t r.kind r.query r.symbol).2) := by
  rw [localDefinitions, h]
  dsimp only
  rw [covered]
  rcases Index.scan t root with f | ⟨i, records⟩ <;> rfl

/-- The local search comes to what is found locally, unless the token it is bound to is
cancelled. -/
theorem runOn_localFallback_fst (t : FileTree) (root : PathName) (d : Document)
    (position : Position) (bound : Bool) (x : Exchange) :
    ((localFallback t root d position bound).runOn x).1 =
      if bound && x.token.cancelled then .ok (.many [])
      else (localDefinitions t root d position).map fun found => .many found.1 := by
  have unbound : ((localFallback t root d position false).runOn x).1 =
      (localDefinitions t root d position).map fun found => .many found.1 := by
    rw [(Invocation.localFallback_agrees t root d position x x rfl).1]
    cases localDefinitions t root d position <;> rfl
  cases bound with
  | false => exact unbound
  | true =>
      rw [Invocation.runOn_localFallback_bound, Bool.true_and]
      split
      · rfl
      · exact unbound

/-- The local search gives at most one location, and none once it is cancelled or outside the
document.  A reference under the cursor is looked up in what a scan finds now, which fails if a
path of the workspace is too long.  Without a reference the answer is the first line that has the
first word under the cursor as its label. -/
theorem localFallback_sound (t : FileTree) (sound : t.Sound) (root : PathName) (d : Document)
    (position : Position) (bound : Bool) (x : Exchange) :
    let outcome := ((localFallback t root d position bound).runOn x).1
    (∀ a, outcome = .ok a → ∃ found, a = .many found ∧ found.length ≤ 1) ∧
    (bound = true → x.token.cancelled = true → outcome = .ok (.many [])) ∧
    (position.line < 0 ∨ (d.lines.length : Int) ≤ position.line → outcome = .ok (.many [])) ∧
    ((bound && x.token.cancelled) = false → 0 ≤ position.line →
      ∀ line, d.lines[position.line.toNat]? = some line →
        (∀ r, referenceAt line position.character = some r →
          (t.Followed root → ∃ i records, Index.scan t root = .ok (i, records) ∧
            i.root = root ∧ i.Covers t ∧
            outcome = .ok (.many (i.lookup t r.kind r.query r.symbol).1.toList)) ∧
          (¬ t.Followed root → ∃ message, outcome = .error (.file .nameTooLong message))) ∧
        (referenceAt line position.character = none → ∃ found, outcome = .ok (.many found) ∧
          ∀ l, l ∈ found ↔ ∃ word i, WordUnder line.toList position.character word.toList ∧
            FirstLabelled d.lines word i ∧ l = { uri := d.uri, line := i })) := by
  intro outcome
  have comes : outcome = if bound && x.token.cancelled then .ok (.many [])
      else (localDefinitions t root d position).map fun found => .many found.1 :=
    runOn_localFallback_fst t root d position bound x
  refine ⟨fun a given => ?_, fun bound_eq cancelled => ?_, fun outside => ?_,
    fun active started line here => ⟨fun r covered => ?_, fun bare => ?_⟩⟩
  · rw [comes] at given
    split at given
    · exact ⟨[], (Except.ok.inj given).symm, Nat.zero_le 1⟩
    · cases found : localDefinitions t root d position with
      | error f =>
          rw [found] at given
          cases given
      | ok p =>
          rw [found] at given
          exact ⟨p.1, (Except.ok.inj given).symm, Invocation.length_localDefinitions found⟩
  · rw [comes, bound_eq, cancelled]
    rfl
  · obtain ⟨fault, missing⟩ := Document.lineAt_of_outside outside
    rw [comes, localDefinitions_of_outside missing]
    split <;> rfl
  · rw [comes, active, localDefinitions_of_reference (Document.lineAt_of_inside started here)
      covered]
    rcases Index.scan_cases sound root with
      ⟨followed, i, records, scanned, placed⟩ | ⟨refused, message, failed⟩
    · rw [scanned]
      exact ⟨fun _ => ⟨i, records, rfl, placed.1, placed.2, rfl⟩, absurd followed⟩
    · rw [failed]
      exact ⟨fun followed => absurd followed refused, fun _ => ⟨message, rfl⟩⟩
  · rw [comes, active, localDefinitions_of_word (Document.lineAt_of_inside started here) bare]
    exact ⟨_, rfl, fun l => mem_labelInDocument_iff⟩

/-- One line holds a word that is the label of the line above, and a reference to a routine; and
a cancelled caller gets nothing for either. -/
theorem localFallback_sound_both_ways :
    let t : FileTree := { entries := [(["ws"], .directory), (["ws", "A.mac"], .file [])] }
    let root : PathName := ⟨"/", ["ws"]⟩
    let d : Document := { uri := "/ws/B.mac", lines := ["run quit", " do run,^A"] }
    let x : Exchange := { server := Server.ofReplies [] [] }
    let done : Exchange := { x with token := { cancelled := true } }
    let label : Location := { uri := "/ws/B.mac", line := 0 }
    t.Sound ∧ t.Followed root ∧
      (∃ found, ((localFallback t root d ⟨1, 7⟩ true).runOn x).1 = .ok (.many found) ∧
        label ∈ found) ∧
      (∃ i records, Index.scan t root = .ok (i, records) ∧
        ((localFallback t root d ⟨1, 8⟩ false).runOn done).1 =
          .ok (.many (i.lookup t .routine "^A" "A").1.toList)) ∧
      ((localFallback t root d ⟨1, 8⟩ true).runOn done).1 = .ok (.many []) ∧
      ((localFallback t root d ⟨2, 0⟩ true).runOn x).1 = .ok (.many []) := by
  intro t root d x done label
  have sound : t.Sound := by constructor <;> decide
  have found : t.find root.toString = .ok (["ws"], .directory) := by decide +kernel
  have files : t.filesBelow ["ws"] = [["A.mac"]] := List.mergeSort_of_pairwise (by decide)
  have followed : t.Followed root := by
    rw [Index.followed_iff (i := { root }) sound found, files]
    decide +kernel
  have covered : referenceAt " do run,^A" 8 =
      some { kind := .routine, raw := "^A", query := "^A", symbol := "A", span := ⟨8, 10⟩ } := by
    decide +kernel
  have bare : referenceAt " do run,^A" 7 = none := by decide +kernel
  have word : wordAt " do run,^A" 7 = some "run" := by decide +kernel
  have first : (labels d.lines).lookup "run" = some 0 := by decide +kernel
  obtain ⟨-, -, -, inside⟩ := localFallback_sound t sound root d ⟨1, 7⟩ true x
  obtain ⟨-, -, -, reference⟩ := localFallback_sound t sound root d ⟨1, 8⟩ false done
  obtain ⟨locations, given, among⟩ := (inside rfl (by decide) _ rfl).2 bare
  obtain ⟨i, records, scanned, -, -, looked⟩ :=
    ((reference rfl (by decide) _ rfl).1 _ covered).1 followed
  refine ⟨sound, followed, ⟨locations, given, (among label).mpr ⟨"run", 0, ?_⟩⟩,
    ⟨i, records, scanned, looked⟩, ?_, ?_⟩
  · exact ⟨wordAt_eq_some_iff.mp word, mem_labels_iff.mp (mem_labels_iff_lookup.mpr first), rfl⟩
  · exact (localFallback_sound t sound root d ⟨1, 8⟩ true done).2.1 rfl rfl
  · exact (localFallback_sound t sound root d ⟨2, 0⟩ true x).2.2.1 (.inr (by decide))

/-- A reference under the cursor asks for a scan, and that fails for a root with a name that is
too long. -/
theorem localFallback_fails_far :
    let t : FileTree := { entries := [] }
    let root : PathName := .ofPlace FileTree.overlong
    let d : Document := { uri := "/A.mac", lines := ["^A"] }
    let x : Exchange := { server := Server.ofReplies [] [] }
    t.Sound ∧ (referenceAt "^A" 0).isSome = true ∧
      ∃ f, ((localFallback t root d ⟨0, 0⟩ false).runOn x).1 = .error f := by
  intro t root d x
  have sound : t.Sound := by constructor <;> decide
  have long := FileTree.find_of_not_askable sound
    (fun _ => FileTree.placeName_of_mem_overlong) (FileTree.not_askable_overlong t)
  have covered : (referenceAt "^A" 0).isSome = true := by decide +kernel
  have shown : d.lineAt 0 = .ok "^A" := rfl
  have comes := runOn_localFallback_fst t root d ⟨0, 0⟩ false x
  obtain ⟨r, here⟩ := Option.isSome_iff_exists.mp covered
  rcases Index.scan_cases sound root with ⟨followed, -⟩ | ⟨-, message, failed⟩
  · exact absurd long (followed.1 _)
  · rw [localDefinitions_of_reference shown here, failed] at comes
    exact ⟨sound, covered, _, comes⟩

end RefNav
