import RefNav.Proofs.Jump

/-! # Line breaks

Lines that are joined by any one of the three line breaks are read back as they
were, with a break behind the last line or, if there is something in that line,
without.  A text therefore keeps its lines when its breaks are written in another
way, and the last line of a document is always there.
-/

namespace RefNav.Text

/-- The ways to write a line break. -/
def breaks : List String :=
  ["\n", "\r\n", "\r"]

/-- A text without a character of a line break. -/
def Unbroken (line : List Char) : Prop :=
  '\r' ∉ line ∧ '\n' ∉ line

/-- Write every line feed of a text as another line break. -/
def withBreaks (e text : String) : String :=
  String.ofList (text.toList.flatMap fun c => if c = '\n' then e.toList else [c])

/-! ## Pieces without breaks -/

theorem unbroken_nil : Unbroken [] :=
  ⟨List.not_mem_nil, List.not_mem_nil⟩

theorem Unbroken.of_cons {c : Char} {line : List Char} (h : Unbroken (c :: line)) :
    c ≠ '\r' ∧ c ≠ '\n' ∧ Unbroken line := by
  obtain ⟨noReturn, noFeed⟩ := h
  rw [List.mem_cons, not_or] at noReturn noFeed
  exact ⟨Ne.symm noReturn.1, Ne.symm noFeed.1, noReturn.2, noFeed.2⟩

theorem Unbroken.cons {c : Char} {line : List Char} (noReturn : c ≠ '\r') (noFeed : c ≠ '\n')
    (h : Unbroken line) : Unbroken (c :: line) := by
  constructor
  · simp [noReturn.symm, h.1]
  · simp [noFeed.symm, h.2]

theorem unbroken_of_mem_splitBreaks {text piece : List Char} (h : piece ∈ splitBreaks text) :
    Unbroken piece := by
  fun_induction splitBreaks text generalizing piece with
  | case1 =>
      rw [List.mem_singleton.mp h]
      exact unbroken_nil
  | case2 rest ih | case3 rest _ ih | case4 rest ih =>
      rcases List.mem_cons.mp h with rfl | later
      · exact unbroken_nil
      · exact ih later
  | case5 c rest pair noReturn noFeed split ih =>
      rw [List.mem_singleton.mp h]
      exact unbroken_nil.cons noReturn noFeed
  | case6 c rest pair noReturn noFeed first others split ih =>
      rw [split] at ih
      rcases List.mem_cons.mp h with rfl | later
      · exact (ih List.mem_cons_self).cons noReturn noFeed
      · exact ih (List.mem_cons_of_mem _ later)

/-- A text without breaks only adds to the first piece of what follows it. -/
theorem splitBreaks_append {line rest first : List Char} {others : List (List Char)}
    (h : Unbroken line) (split : splitBreaks rest = first :: others) :
    splitBreaks (line ++ rest) = (line ++ first) :: others := by
  induction line with
  | nil => exact split
  | cons c line ih =>
      obtain ⟨noReturn, noFeed, later⟩ := h.of_cons
      rw [List.cons_append, splitBreaks_cons noReturn noFeed, ih later]
      rfl

theorem splitBreaks_of_unbroken {line : List Char} (h : Unbroken line) :
    splitBreaks line = [line] := by
  have whole : splitBreaks (line ++ []) = [line ++ []] := splitBreaks_append h rfl
  rwa [List.append_nil] at whole

/-- A break ends an empty piece, unless it is a carriage return that a line feed follows. -/
theorem splitBreaks_break {e : String} (he : e ∈ breaks) {rest : List Char}
    (parted : e = "\r" → rest.head? ≠ some '\n') :
    splitBreaks (e.toList ++ rest) = [] :: splitBreaks rest := by
  simp only [breaks, List.mem_cons, List.not_mem_nil, or_false] at he
  rcases he with rfl | rfl | rfl
  · rfl
  · rfl
  · cases rest with
    | nil => rfl
    | cons c rest =>
        have noFeed : c ≠ '\n' := by simpa using parted rfl
        simp [splitBreaks, noFeed]

/-! ## Joined lines -/

theorem head?_intercalate_ne {e : String} (alone : e = "\r") {lines : List (List Char)}
    (unbroken : ∀ line ∈ lines, Unbroken line) :
    (e.toList.intercalate lines).head? ≠ some '\n' := by
  subst alone
  cases lines with
  | nil => simp
  | cons line lines =>
      cases line with
      | nil => cases lines <;> simp
      | cons c line =>
          obtain ⟨_, noFeed, _⟩ := (unbroken _ List.mem_cons_self).of_cons
          cases lines <;> simpa using noFeed

/-- The pieces between the breaks of joined lines are the lines. -/
theorem splitBreaks_intercalate {e : String} (he : e ∈ breaks) {lines : List (List Char)}
    (nonempty : lines ≠ []) (unbroken : ∀ line ∈ lines, Unbroken line) :
    splitBreaks (e.toList.intercalate lines) = lines := by
  induction lines with
  | nil => exact absurd rfl nonempty
  | cons line lines ih =>
      have here := unbroken line List.mem_cons_self
      have later : ∀ l ∈ lines, Unbroken l := fun l hl => unbroken l (List.mem_cons_of_mem _ hl)
      by_cases last : lines = []
      · rw [last, List.intercalate_singleton]
        exact splitBreaks_of_unbroken here
      · have parted := splitBreaks_break he fun alone => head?_intercalate_ne alone later
        rw [List.intercalate_cons_of_ne_nil last, List.append_assoc,
          splitBreaks_append here parted, List.append_nil, ih last later]

theorem dropFinalEmpty_concat_nil {pieces : List (List Char)} (h : pieces ≠ []) :
    dropFinalEmpty (pieces ++ [[]]) = pieces := by
  induction pieces with
  | nil => exact absurd rfl h
  | cons piece pieces ih =>
      cases pieces with
      | nil => rfl
      | cons next pieces => simpa [dropFinalEmpty] using ih (by simp)

theorem dropFinalEmpty_of_getLast? {pieces : List (List Char)}
    (h : pieces.getLast? ≠ some [] ∨ pieces.length = 1) : dropFinalEmpty pieces = pieces := by
  fun_induction dropFinalEmpty pieces with
  | case1 => rfl
  | case2 => rfl
  | case3 line last rest final =>
      obtain ⟨rfl, rfl⟩ := final
      simp at h
  | case4 line last rest final ih =>
      rw [ih]
      rw [List.getLast?_cons_cons] at h
      exact .inl (h.resolve_right (by simp))

theorem dropFinalEmpty_sublist (pieces : List (List Char)) :
    (dropFinalEmpty pieces).Sublist pieces := by
  fun_induction dropFinalEmpty pieces with
  | case1 => exact .slnil
  | case2 line => exact .refl _
  | case3 line last rest final => simp
  | case4 line last rest final ih => exact ih.cons_cons line

/-! ## Lines of strings -/

theorem unbroken_of_mem_splitLines {text line : String} (h : line ∈ splitLines text) :
    Unbroken line.toList := by
  obtain ⟨piece, hpiece, rfl⟩ := List.mem_map.mp h
  rw [String.toList_ofList]
  exact unbroken_of_mem_splitBreaks ((dropFinalEmpty_sublist _).subset hpiece)

theorem splitLines_eq {text : String} {lines : List String}
    (h : Text.lines text.toList = lines.map String.toList) : splitLines text = lines := by
  rw [splitLines, h]
  simp [Function.comp_def]

section

variable {e : String} {lines : List String}

theorem lines_intercalate (he : e ∈ breaks) (nonempty : lines ≠ [])
    (unbroken : ∀ line ∈ lines, Unbroken line.toList) :
    Text.lines (e.intercalate lines).toList = dropFinalEmpty (lines.map String.toList) := by
  have all : ∀ piece ∈ lines.map String.toList, Unbroken piece := by
    intro piece hpiece
    obtain ⟨line, hline, rfl⟩ := List.mem_map.mp hpiece
    exact unbroken line hline
  rw [Text.lines, String.toList_intercalate,
    splitBreaks_intercalate he (by simpa using nonempty) all]

/-- Lines that are ended by breaks are read back. -/
theorem splitLines_join_break (he : e ∈ breaks) (nonempty : lines ≠ [])
    (unbroken : ∀ line ∈ lines, Unbroken line.toList) :
    splitLines (e.intercalate lines ++ e) = lines := by
  -- the break at the end joins an empty line to the others
  have joined : e.intercalate lines ++ e = e.intercalate (lines ++ [""]) := by
    rw [String.intercalate_append_of_ne_nil nonempty (by simp)]
    simp
  have all : ∀ line ∈ lines ++ [""], Unbroken line.toList := by
    intro line hline
    rcases List.mem_append.mp hline with inside | last
    · exact unbroken line inside
    · rw [List.mem_singleton.mp last]
      exact unbroken_nil
  apply splitLines_eq
  rw [joined, lines_intercalate he (by simp) all, List.map_append]
  exact dropFinalEmpty_concat_nil (by simpa using nonempty)

/-- Lines that are parted by breaks are read back, but for an empty last one. -/
theorem splitLines_join (he : e ∈ breaks) (nonempty : lines ≠ [])
    (unbroken : ∀ line ∈ lines, Unbroken line.toList)
    (ends : lines.getLast? ≠ some "" ∨ lines.length = 1) :
    splitLines (e.intercalate lines) = lines := by
  apply splitLines_eq
  rw [lines_intercalate he nonempty unbroken]
  apply dropFinalEmpty_of_getLast?
  simpa [List.getLast?_map] using ends

/-- A text keeps the pieces between its line feeds when these are written in another way. -/
theorem splitBreaks_flatMap (he : e ∈ breaks) {text : List Char} (noReturn : '\r' ∉ text) :
    splitBreaks (text.flatMap fun c => if c = '\n' then e.toList else [c]) = splitBreaks text := by
  induction text with
  | nil => rfl
  | cons c text ih =>
      rw [List.mem_cons, not_or] at noReturn
      have later := ih noReturn.2
      rw [List.flatMap_cons]
      by_cases feed : c = '\n'
      · have parted (alone : e = "\r") :
            (text.flatMap fun c => if c = '\n' then e.toList else [c]).head? ≠ some '\n' := by
          intro first
          obtain ⟨d, _, hd⟩ := List.mem_flatMap.mp (List.mem_of_head? first)
          rw [alone] at hd
          split at hd
          · exact absurd hd (by decide)
          next other => exact other (List.mem_singleton.mp hd).symm
        rw [if_pos feed, splitBreaks_break he parted, later, feed]
        rfl
      · rw [if_neg feed, List.singleton_append, splitBreaks_cons (Ne.symm noReturn.1) feed, later,
          splitBreaks_cons (Ne.symm noReturn.1) feed]

theorem splitLines_withBreaks (he : e ∈ breaks) {text : String} (noReturn : '\r' ∉ text.toList) :
    splitLines (withBreaks e text) = splitLines text := by
  simp only [splitLines, Text.lines, withBreaks, String.toList_ofList,
    splitBreaks_flatMap he noReturn]

end

end RefNav.Text

namespace RefNav.Document

open RefNav.Text

theorem lineAt_ofText_congr {text text' : String} (same : splitLines text = splitLines text')
    (uri : String) (line : Int) :
    (ofText uri text).lineAt line = (ofText uri text').lineAt line := by
  simp only [lineAt, lastLine, ofText, same]

theorem lineAt_lastLine {d : Document} (h : d.lines ≠ []) :
    d.lineAt d.lastLine = .ok (d.lines.getLast h) := by
  apply lineAt_of_getElem?
  rw [lastLine, ← List.getLast?_eq_getElem?, List.getLast?_eq_some_getLast h]

/-- A text has lines, and none of them has a break in it.  Joining lines with a break is undone,
if a break follows the last one and also if none does, unless the last of several is empty.  Other
breaks in place of the line feeds change neither the lines nor what stands under a number, and
the number of the last line is that of a line. -/
theorem splitLines_inverts_join :
    (∀ text : String, splitLines text ≠ [] ∧
      ∀ line ∈ splitLines text, '\r' ∉ line.toList ∧ '\n' ∉ line.toList) ∧
    (∀ lines : List String, lines ≠ [] →
      (∀ line ∈ lines, '\r' ∉ line.toList ∧ '\n' ∉ line.toList) →
      ∀ e ∈ ["\n", "\r\n", "\r"],
        splitLines (e.intercalate lines ++ e) = lines ∧
        (lines.getLast? ≠ some "" ∨ lines.length = 1 →
          splitLines (e.intercalate lines) = lines)) ∧
    (∀ text : String, '\r' ∉ text.toList → ∀ e ∈ ["\r\n", "\r"],
      splitLines (withBreaks e text) = splitLines text ∧
      ∀ (uri : String) (line : Int),
        (ofText uri (withBreaks e text)).lineAt line = (ofText uri text).lineAt line) ∧
    ∀ d : Document, d.Made → ∃ line, d.lines.getLast? = some line ∧
      d.lineAt d.lastLine = .ok line := by
  refine ⟨fun text => ⟨splitLines_ne_nil text, fun line => unbroken_of_mem_splitLines⟩,
    fun lines nonempty unbroken e he => ⟨splitLines_join_break he nonempty unbroken,
      splitLines_join he nonempty unbroken⟩, fun text noReturn e he => ?_, fun d made => ?_⟩
  · have same := splitLines_withBreaks (List.mem_cons_of_mem "\n" he) noReturn
    exact ⟨same, lineAt_ofText_congr same⟩
  · have nonempty := made.lines_ne_nil
    exact ⟨d.lines.getLast nonempty, List.getLast?_eq_some_getLast nonempty,
      lineAt_lastLine nonempty⟩

theorem splitLines_inverts_join_empty_lines :
    splitLines "\r\ra\r\r" = ["", "", "a", ""] ∧ splitLines "\r\n\r\na" = ["", "", "a"] ∧
      splitLines (withBreaks "\r" "a\n\nb\n") = splitLines "a\n\nb\n" ∧
      ∃ line, (ofText "/ws/A.mac" "a\n").lineAt (ofText "/ws/A.mac" "a\n").lastLine = .ok line := by
  obtain ⟨_, joined, converted, last⟩ := splitLines_inverts_join
  have ended := (joined ["", "", "a", ""] (by decide) (by decide) "\r" (by decide)).1
  have parted := (joined ["", "", "a"] (by decide) (by decide) "\r\n" (by decide)).2 (by decide)
  obtain ⟨line, _, hline⟩ := last _ (.inl ⟨"/ws/A.mac", "a\n", rfl⟩)
  exact ⟨ended, parted, (converted "a\n\nb\n" (by decide) "\r" (by decide)).1, line, hline⟩

end RefNav.Document
