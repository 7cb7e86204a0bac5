import Mathlib.Algebra.BigOperators.Intervals
import Mathlib.Data.List.Forall2
import Mathlib.Order.Bounds.Defs
import RefNav.Report.Table

/-! # Columns of a table

A column begins behind the widths of the columns before it and the gaps between
them, in every line of a table.  Each cell stands at the beginning of its column
with nothing but blanks up to the next one, and trimming a line at its end takes
nothing from a cell that does not end in a blank itself.
-/

namespace RefNav.Text

theorem trimEnd_append (cs : List Char) :
    ∃ blanks, cs = trimEnd cs ++ blanks ∧ ∀ c ∈ blanks, isBlank c = true := by
  refine ⟨(cs.reverse.takeWhile isBlank).reverse, ?_, fun c hc => ?_⟩
  · rw [trimEnd, ← List.reverse_append, List.takeWhile_append_dropWhile, List.reverse_reverse]
  · exact List.all_eq_true.mp List.all_takeWhile c (List.mem_reverse.mp hc)

theorem not_isBlank_getLast?_trimEnd {cs : List Char} {c : Char}
    (h : (trimEnd cs).getLast? = some c) : isBlank c = false := by
  rw [trimEnd, List.getLast?_reverse] at h
  have first := List.head?_dropWhile_not isBlank cs.reverse
  rwa [h] at first

/-- Trimming keeps everything up to a character that is no blank. -/
theorem lt_length_trimEnd {cs : List Char} {c : Char} {p : Nat} (h : cs[p]? = some c)
    (solid : isBlank c = false) : p < (trimEnd cs).length := by
  obtain ⟨blanks, hcs, all⟩ := trimEnd_append cs
  apply Nat.lt_of_not_le
  intro behind
  rw [hcs, List.getElem?_append_right behind] at h
  rw [all c (List.mem_of_getElem? h)] at solid
  cases solid

end RefNav.Text

namespace RefNav.Table

open RefNav.Text

/-! ## Widths -/

/-- The lengths of what stands in a column: of its header, and of the cells of the rows that
have one there. -/
def lengthsIn (headers : List String) (rows : List (List String)) (i : Nat) : Set Nat :=
  {n | (∃ h, headers[i]? = some h ∧ h.length = n) ∨
    ∃ row ∈ rows, ∃ c, row[i]? = some c ∧ c.length = n}

/-- The characters of texts. -/
def chars (texts : List String) : List (List Char) :=
  texts.map String.toList

/-- The widths that the columns of a table are given. -/
def columnWidths (headers : List String) (rows : List (List String)) : List Nat :=
  widths (chars headers) (rows.map fun row => (chars row).take headers.length)

/-- The width of one column. -/
def widthOf (headers : List String) (rows : List (List String)) (i : Nat) : Nat :=
  (columnWidths headers rows).getD i 0

theorem getElem?_widths {headers : List String} (rows : List (List (List Char))) {i : Nat}
    {h : String} (found : headers[i]? = some h) :
    (widths (chars headers) rows)[i]? = some ((rows.map (cellLength i)).foldl max h.length) := by
  simp [widths, chars, columnWidth, found, String.length_toList]

theorem cellLength_take {row : List String} {i n : Nat} (inside : i < n) :
    cellLength i ((chars row).take n) = (row[i]?.getD "").length := by
  rw [cellLength, List.getElem?_take_of_lt inside, chars, List.getElem?_map]
  cases row[i]? <;> simp [String.length_toList]

theorem isGreatest_widthOf {headers : List String} (rows : List (List String)) {i : Nat}
    (inside : i < headers.length) :
    IsGreatest (lengthsIn headers rows i) (widthOf headers rows i) := by
  have found : headers[i]? = some headers[i] := List.getElem?_eq_getElem inside
  have width : widthOf headers rows i =
      (rows.map fun row => (row[i]?.getD "").length).foldl max headers[i].length := by
    rw [widthOf, columnWidths, List.getD_eq_getElem?_getD, getElem?_widths _ found, List.map_map]
    simp [Function.comp_def, cellLength_take inside]
  have greatest : (headers[i].length :: rows.map fun row => (row[i]?.getD "").length).max? =
      some (widthOf headers rows i) := by rw [List.max?_cons', width]
  obtain ⟨attained, bound⟩ := List.max?_eq_some_iff.mp greatest
  have header := bound _ List.mem_cons_self
  constructor
  · rcases List.mem_cons.mp attained with widest | widest
    · exact .inl ⟨_, found, widest.symm⟩
    · obtain ⟨row, hrow, widest⟩ := List.mem_map.mp widest
      cases hc : row[i]? with
      | none =>
          -- a row that ends before the column counts as nothing, and so does the header then
          rw [hc] at widest
          have empty : widthOf headers rows i = 0 := widest.symm
          exact .inl ⟨_, found, by omega⟩
      | some c =>
          rw [hc] at widest
          exact .inr ⟨row, hrow, c, hc, widest⟩
  · rintro n (⟨h, hh, rfl⟩ | ⟨row, hrow, c, hc, rfl⟩)
    · rw [found] at hh
      cases hh
      exact header
    · apply bound
      apply List.mem_cons_of_mem
      exact List.mem_map.mpr ⟨row, hrow, by rw [hc]; rfl⟩

/-! ## Offsets -/

/-- Where a column begins. -/
def offset (w : Nat → Nat) (i : Nat) : Nat :=
  ∑ j ∈ Finset.range i, (w j + 2)

theorem offset_succ (w : Nat → Nat) (i : Nat) : offset w (i + 1) = offset w i + (w i + 2) :=
  Finset.sum_range_succ _ i

/-- What does not end in a blank. -/
def Solid (cell : List Char) : Prop :=
  ∀ c ∈ cell.getLast?, isBlank c = false

instance (cell : List Char) : Decidable (Solid cell) :=
  decidable_of_iff (cell.getLast?.all (!isBlank ·) = true) (by simp [Solid, Option.all_eq_true])

/-- Every cell stands at the beginning of its column, with nothing but blanks behind it up to
the next column, and nothing stands behind the last. -/
structure Aligned (w : Nat → Nat) (cells : List (List Char)) (cs : List Char) : Prop where
  cell : ∀ i c, cells[i]? = some c → Solid c →
    cs.extract (offset w i) (offset w i + c.length) = c
  blank : ∀ i c, cells[i]? = some c → ∀ p, offset w i + c.length ≤ p → p < offset w (i + 1) →
    ∀ d ∈ cs[p]?, d = ' '
  ends : cs.length ≤ offset w cells.length

/-- Joined parts, cut before and behind one of them. -/
theorem intercalate_append_cons (sep : List Char) (front : List (List Char)) (part : List Char)
    (rest : List (List Char)) :
    sep.intercalate (front ++ part :: rest) =
      front.flatMap (· ++ sep) ++ (part ++ rest.flatMap (sep ++ ·)) := by
  induction front with
  | nil =>
      induction rest generalizing part with
      | nil => simp
      | cons next rest ih => simpa using ih next
  | cons first front ih =>
      rw [List.cons_append, List.intercalate_cons_of_ne_nil (by simp), ih]
      simp

theorem length_intercalate_le (sep : List Char) (parts : List (List Char)) :
    (sep.intercalate parts).length ≤ (parts.flatMap (· ++ sep)).length := by
  induction parts with
  | nil => simp
  | cons part parts ih =>
      cases parts with
      | nil => simp
      | cons next parts =>
          rw [List.intercalate_cons_cons, List.flatMap_cons]
          simp only [List.length_append]
          omega

variable {w : Nat → Nat} {cells : List (List Char)} {cs : List Char} {i : Nat} {c : List Char}

/-- Cells filled up to the widths of their columns. -/
def padded (w : Nat → Nat) (cells : List (List Char)) : List (List Char) :=
  cells.mapIdx fun i c => pad (w i) c

theorem length_pad {width : Nat} (fits : c.length ≤ width) : (pad width c).length = width := by
  rw [pad, List.length_append, List.length_replicate]
  omega

/-- Every cell is as wide as its column at most. -/
def Fits (w : Nat → Nat) (cells : List (List Char)) : Prop :=
  ∀ i c, cells[i]? = some c → c.length ≤ w i

theorem Fits.length_flatMap_take (fits : Fits w cells) {n : Nat} (inside : n ≤ cells.length) :
    (((padded w cells).take n).flatMap (· ++ gap)).length = offset w n := by
  induction n with
  | zero => simp [offset]
  | succ n ih =>
      have found : cells[n]? = some cells[n] := List.getElem?_eq_getElem inside
      have width := length_pad (fits n _ found)
      rw [List.take_add_one, List.flatMap_append, List.length_append, ih (by omega), offset_succ,
        padded, List.getElem?_mapIdx, found]
      simp [width, gap]

/-- A cell of a line with all that stands before and behind it. -/
theorem Fits.intercalate_eq (fits : Fits w cells) (found : cells[i]? = some c) :
    ∃ before after, gap.intercalate (padded w cells) = before ++ (pad (w i) c ++ after) ∧
      before.length = offset w i ∧ ∀ p < 2, ∀ d ∈ after[p]?, d = ' ' := by
  have place : (padded w cells)[i]? = some (pad (w i) c) := by
    rw [padded, List.getElem?_mapIdx, found]
    rfl
  obtain ⟨inside, same⟩ := List.getElem?_eq_some_iff.mp place
  have within : i ≤ cells.length := by
    rw [padded, List.length_mapIdx] at inside
    omega
  have split : padded w cells =
      (padded w cells).take i ++ pad (w i) c :: (padded w cells).drop (i + 1) := by
    rw [← same, ← List.drop_eq_getElem_cons, List.take_append_drop]
  refine ⟨((padded w cells).take i).flatMap (· ++ gap),
    ((padded w cells).drop (i + 1)).flatMap (gap ++ ·), ?_, fits.length_flatMap_take within, ?_⟩
  · exact (congrArg gap.intercalate split).trans (intercalate_append_cons gap _ _ _)
  · intro p hp d hd
    cases rest : (padded w cells).drop (i + 1) with
    | nil => simp [rest] at hd
    | cons next others =>
        rw [rest] at hd
        match p with
        | 0 => exact (Option.some.inj hd).symm
        | 1 => exact (Option.some.inj hd).symm

/-- Joining the filled cells aligns them. -/
theorem Fits.aligned (fits : Fits w cells) :
    Aligned w cells (gap.intercalate (padded w cells)) := by
  constructor
  · intro i c found _
    obtain ⟨before, after, split, start, _⟩ := fits.intercalate_eq found
    rw [split, ← start, List.extract_eq_take_drop, List.drop_left, Nat.add_sub_cancel_left, pad,
      List.append_assoc, List.take_left]
  · intro i c found p behind inside d hd
    obtain ⟨before, after, split, start, blanks⟩ := fits.intercalate_eq found
    have narrow := fits i c found
    obtain ⟨q, rfl⟩ := Nat.exists_eq_add_of_le behind
    rw [offset_succ] at inside
    -- what follows the cell are its own blanks and then those of the gap
    have rest : (gap.intercalate (padded w cells))[offset w i + c.length + q]? =
        (List.replicate (w i - c.length) ' ' ++ after)[q]? := by
      rw [split, ← start, Nat.add_assoc, List.getElem?_append_right (by omega),
        Nat.add_sub_cancel_left, pad, List.append_assoc, List.getElem?_append_right (by omega),
        Nat.add_sub_cancel_left]
    rw [rest] at hd
    by_cases own : q < w i - c.length
    · rw [List.getElem?_append_left (by simpa using own)] at hd
      exact List.eq_of_mem_replicate (List.mem_of_getElem? hd)
    · rw [List.getElem?_append_right (by simpa using own), List.length_replicate] at hd
      exact blanks _ (by omega) d hd
  · have whole := fits.length_flatMap_take (Nat.le_refl _)
    have shorter := length_intercalate_le gap (padded w cells)
    rw [List.take_of_length_le (by simp [padded])] at whole
    omega

/-- Blanks at the end of a line belong to no cell that is kept as it is. -/
theorem Aligned.trimEnd (h : Aligned w cells cs) : Aligned w cells (trimEnd cs) := by
  obtain ⟨blanks, split, _⟩ := trimEnd_append cs
  constructor
  · intro i c found solid
    have whole := h.cell i c found solid
    cases last : c.getLast? with
    | none => simp [List.getLast?_eq_none_iff.mp last, List.extract_eq_take_drop]
    | some d =>
        have nonempty : 0 < c.length := by
          apply List.length_pos_iff.mpr
          rintro rfl
          cases last
        have stands : cs[offset w i + (c.length - 1)]? = some d := by
          rw [List.extract_eq_take_drop, Nat.add_sub_cancel_left] at whole
          rw [List.getLast?_eq_getElem?, ← whole, List.getElem?_take_of_lt, List.getElem?_drop,
            whole] at last
          · exact last
          · rw [whole]
            omega
        have kept := lt_length_trimEnd stands (solid d last)
        rw [split, List.extract_eq_take_drop, List.drop_append_of_le_length (by omega),
          List.take_append_of_le_length (by rw [List.length_drop]; omega)] at whole
        rwa [List.extract_eq_take_drop]
  · intro i c found p behind inside d hd
    apply h.blank i c found p behind inside
    rw [split, List.getElem?_append_left (List.getElem?_eq_some_iff.mp hd).1]
    exact hd
  · have shorter := congrArg List.length split
    have ends := h.ends
    rw [List.length_append] at shorter
    omega

/-! ## Lines of a table -/

theorem mem_intercalate {sep : List Char} {parts : List (List Char)} {d : Char}
    (h : d ∈ sep.intercalate parts) : (∃ part ∈ parts, d ∈ part) ∨ d ∈ sep := by
  induction parts with
  | nil => simp at h
  | cons part parts ih =>
      by_cases last : parts = []
      · rw [last, List.intercalate_singleton] at h
        exact .inl ⟨part, List.mem_cons_self, h⟩
      · rw [List.intercalate_cons_of_ne_nil last, List.append_assoc] at h
        rcases List.mem_append.mp h with here | later
        · exact .inl ⟨part, List.mem_cons_self, here⟩
        · rcases List.mem_append.mp later with inSep | later
          · exact .inr inSep
          · rcases ih later with ⟨other, hother, hd⟩ | inSep
            · exact .inl ⟨other, List.mem_cons_of_mem part hother, hd⟩
            · exact .inr inSep

theorem zipWith_pad {ws : List Nat} (enough : cells.length ≤ ws.length) :
    List.zipWith pad ws cells = padded (fun i => ws.getD i 0) cells := by
  apply List.ext_getElem?
  intro i
  rw [List.getElem?_zipWith, padded, List.getElem?_mapIdx]
  cases found : cells[i]? with
  | none => cases ws[i]? <;> rfl
  | some c =>
      have inside : i < ws.length := by
        have within := (List.getElem?_eq_some_iff.mp found).1
        omega
      simp [List.getElem?_eq_getElem inside]

theorem mem_line {ws : List Nat} {d : Char} (enough : cells.length ≤ ws.length)
    (h : d ∈ Table.line ws cells) : (∃ c ∈ cells, d ∈ c) ∨ d = ' ' := by
  obtain ⟨blanks, split, _⟩ := trimEnd_append (gap.intercalate (List.zipWith pad ws cells))
  have whole : d ∈ gap.intercalate (padded (fun i => ws.getD i 0) cells) := by
    rw [← zipWith_pad enough, split]
    exact List.mem_append_left _ h
  rcases mem_intercalate whole with ⟨part, hpart, hd⟩ | inGap
  · obtain ⟨i, inside, rfl⟩ := List.mem_mapIdx.mp hpart
    rcases List.mem_append.mp hd with inCell | filled
    · exact .inl ⟨_, List.getElem_mem inside, inCell⟩
    · exact .inr (List.eq_of_mem_replicate filled)
  · exact .inr (by simpa [gap] using inGap)

theorem mem_rule {ws : List Nat} {d : Char} (h : d ∈ rule ws) : d = '-' ∨ d = ' ' := by
  rcases mem_intercalate h with ⟨part, hpart, hd⟩ | inGap
  · obtain ⟨n, _, rfl⟩ := List.mem_map.mp hpart
    exact .inl (List.eq_of_mem_replicate hd)
  · exact .inr (by simpa [gap] using inGap)

section

variable (headers : List String) (rows : List (List String))

theorem length_columnWidths : (columnWidths headers rows).length = headers.length := by
  simp [columnWidths, widths, chars]

theorem lines_eq :
    Table.lines (chars headers) (rows.map chars) =
      Table.line (columnWidths headers rows) (chars headers) ::
        rule (columnWidths headers rows) ::
        rows.map fun row =>
          Table.line (columnWidths headers rows) (chars (row.take headers.length)) := by
  simp [Table.lines, columnWidths, chars, Function.comp_def, List.map_take]

/-- A line of cells that fit their columns, and are no more than these. -/
theorem aligned_line {cells : List String} (enough : cells.length ≤ headers.length)
    (fits : Fits (widthOf headers rows) (chars cells)) :
    Aligned (widthOf headers rows) (chars cells)
      (Table.line (columnWidths headers rows) (chars cells)) := by
  have few : (chars cells).length ≤ (columnWidths headers rows).length := by
    rw [length_columnWidths, chars, List.length_map]
    exact enough
  rw [Table.line, zipWith_pad few]
  exact fits.aligned.trimEnd

theorem fits_headers : Fits (widthOf headers rows) (chars headers) := by
  intro i c found
  rw [chars, List.getElem?_map, Option.map_eq_some_iff] at found
  obtain ⟨h, hh, rfl⟩ := found
  have inside := (List.getElem?_eq_some_iff.mp hh).1
  rw [String.length_toList]
  exact (isGreatest_widthOf rows inside).2 (.inl ⟨h, hh, rfl⟩)

theorem fits_row {row : List String} (hrow : row ∈ rows) :
    Fits (widthOf headers rows) (chars (row.take headers.length)) := by
  intro i c found
  rw [chars, List.getElem?_map, Option.map_eq_some_iff] at found
  obtain ⟨cell, hcell, rfl⟩ := found
  have inside : i < headers.length := by
    have short := (List.getElem?_eq_some_iff.mp hcell).1
    rw [List.length_take] at short
    omega
  rw [List.getElem?_take_of_lt inside] at hcell
  rw [String.length_toList]
  exact (isGreatest_widthOf rows inside).2 (.inr ⟨row, hrow, cell, hcell, rfl⟩)

/-- The dashes under the headers, one for each character of a column's width. -/
def dashes (w : Nat → Nat) (n : Nat) : List (List Char) :=
  (List.range n).map fun i => List.replicate (w i) '-'

theorem aligned_rule :
    Aligned (widthOf headers rows) (dashes (widthOf headers rows) headers.length)
      (rule (columnWidths headers rows)) := by
  have found {i : Nat} {c : List Char}
      (h : (dashes (widthOf headers rows) headers.length)[i]? = some c) :
      c = List.replicate (widthOf headers rows i) '-' := by
    rw [dashes, List.getElem?_map, Option.map_eq_some_iff] at h
    obtain ⟨j, hj, rfl⟩ := h
    rw [(List.getElem?_eq_some_iff.mp hj).2.symm, List.getElem_range]
  have fits : Fits (widthOf headers rows) (dashes (widthOf headers rows) headers.length) := by
    intro i c h
    rw [found h, List.length_replicate]
  have same : (columnWidths headers rows).map (fun n => List.replicate n '-') =
      padded (widthOf headers rows) (dashes (widthOf headers rows) headers.length) := by
    apply List.ext_getElem?
    intro i
    rw [padded, List.getElem?_mapIdx, dashes, List.getElem?_map, List.getElem?_map,
      ← length_columnWidths headers rows]
    by_cases inside : i < (columnWidths headers rows).length
    · simp [inside, pad, widthOf]
    · simp [inside]
  rw [rule, same]
  exact fits.aligned

theorem toList_render (someRow : rows ≠ []) :
    (render headers rows).toList =
      ['\n'].intercalate (Table.lines (chars headers) (rows.map chars)) := by
  rw [render, if_neg (by simpa using someRow), String.toList_intercalate, List.map_map]
  simp only [Function.comp_def, String.toList_ofList, List.map_id']
  rfl

theorem newline_not_mem_lines (plainHeaders : ∀ h ∈ headers, '\n' ∉ h.toList)
    (plainCells : ∀ row ∈ rows, ∀ c ∈ row, '\n' ∉ c.toList) :
    ∀ l ∈ Table.lines (chars headers) (rows.map chars), '\n' ∉ l := by
  have plain {cells : List String} (enough : cells.length ≤ headers.length)
      (h : ∀ c ∈ cells, '\n' ∉ c.toList) :
      '\n' ∉ Table.line (columnWidths headers rows) (chars cells) := by
    intro broken
    rcases mem_line (by simpa [length_columnWidths, chars] using enough) broken with
      ⟨cell, hcell, hd⟩ | blank
    · obtain ⟨c, hc, rfl⟩ := List.mem_map.mp hcell
      exact h c hc hd
    · exact absurd blank (by decide)
  intro l hl
  rw [lines_eq] at hl
  rcases List.mem_cons.mp hl with rfl | hl
  · exact plain (Nat.le_refl _) plainHeaders
  · rcases List.mem_cons.mp hl with rfl | hl
    · intro broken
      rcases mem_rule broken with dash | blank
      · exact absurd dash (by decide)
      · exact absurd blank (by decide)
    · obtain ⟨row, hrow, rfl⟩ := List.mem_map.mp hl
      exact plain (List.length_take_le _ _)
        fun c hc => plainCells row hrow c (List.mem_of_mem_take hc)

theorem render_congr_take {others : List (List String)}
    (same : others.map (·.take headers.length) = rows.map (·.take headers.length)) :
    render headers others = render headers rows := by
  have lengths := congrArg List.length same
  rw [List.length_map, List.length_map] at lengths
  have empty : others.isEmpty = rows.isEmpty := by
    rw [Bool.eq_iff_iff, List.isEmpty_iff_length_eq_zero, List.isEmpty_iff_length_eq_zero, lengths]
  have kept (table : List (List String)) :
      ((table.map (·.map String.toList)).map (·.take (headers.map String.toList).length)) =
        (table.map (·.take headers.length)).map (·.map String.toList) := by
    simp [Function.comp_def, List.map_take]
  simp only [render, empty, Table.lines, kept, same]

end

/-- A table has a line for its headers, one for the rule and one for each row.  A column is as
wide as the longest of its header and cells.  In each line every cell that does not end in a
blank stands in its place, the rule has dashes all along each column, no other line ends in a
blank, and rows that differ only behind the headers give the same table. -/
theorem render_aligned (headers : List String) (rows : List (List String)) (someRow : rows ≠ [])
    (plainHeaders : ∀ h ∈ headers, '\n' ∉ h.toList)
    (plainCells : ∀ row ∈ rows, ∀ c ∈ row, '\n' ∉ c.toList) :
    ∃ (w : Nat → Nat) (top underline : List Char) (body : List (List Char)),
      (∀ i < headers.length, IsGreatest (lengthsIn headers rows i) (w i)) ∧
      (render headers rows).toList.splitOn '\n' = top :: underline :: body ∧
      (Aligned w (chars headers) top ∧ Solid top) ∧
      Aligned w (dashes w headers.length) underline ∧
      List.Forall₂ (fun row cs =>
        Aligned w (chars (row.take headers.length)) cs ∧ Solid cs) rows body ∧
      ∀ others, others.map (·.take headers.length) = rows.map (·.take headers.length) →
        render headers others = render headers rows := by
  have solid (cells : List (List Char)) : Solid (Table.line (columnWidths headers rows) cells) :=
    fun c => not_isBlank_getLast?_trimEnd
  have split := List.splitOn_intercalate '\n'
    (newline_not_mem_lines headers rows plainHeaders plainCells) (by simp [lines_eq])
  rw [← toList_render headers rows someRow, lines_eq] at split
  refine ⟨widthOf headers rows, _, _, _, fun i => isGreatest_widthOf rows, split,
    ⟨aligned_line headers rows (Nat.le_refl _) (fits_headers headers rows), solid _⟩,
    aligned_rule headers rows, ?_, fun others => render_congr_take headers rows⟩
  rw [List.forall₂_map_right_iff, List.forall₂_same]
  intro row hrow
  exact ⟨aligned_line headers rows (List.length_take_le _ _) (fits_row headers rows hrow), solid _⟩

/-- A row that is too long and one that is too short. -/
theorem render_aligned_ragged :
    let headers := ["pos", "query"]
    let rows := [["2:8", "^A", "beyond"], ["10:12"]]
    rows ≠ [] ∧ ∃ (w : Nat → Nat) (top underline first second : List Char),
      (render headers rows).toList.splitOn '\n' = [top, underline, first, second] ∧
      IsGreatest (lengthsIn headers rows 0) (w 0) ∧
      first.extract (offset w 1) (offset w 1 + 2) = "^A".toList ∧ Solid second := by
  intro headers rows
  have someRow : rows ≠ [] := by simp [rows]
  obtain ⟨w, top, underline, body, widest, split, _, _, both, _⟩ :=
    render_aligned headers rows someRow (by decide) (by decide)
  obtain ⟨first, others, ⟨inPlace, _⟩, later, rfl⟩ := List.forall₂_cons_left_iff.mp both
  obtain ⟨second, rest, ⟨_, solid⟩, none, rfl⟩ := List.forall₂_cons_left_iff.mp later
  cases none
  exact ⟨someRow, w, top, underline, first, second, split, widest 0 (by decide),
    inPlace.cell 1 "^A".toList (by decide) (by decide), solid⟩

end RefNav.Table
