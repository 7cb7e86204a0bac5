import RefNav.Document
import RefNav.Text.Lines

/-! # Lines of a text

Every text has a line.  Which line breaks a text uses makes no difference to its
lines, so a reader that writes all of them as line feeds numbers the lines as one
that does not.
-/

namespace RefNav.Text

theorem splitBreaks_ne_nil (text : List Char) : splitBreaks text ≠ [] := by
  fun_cases splitBreaks text <;> simp

theorem dropFinalEmpty_ne_nil {pieces : List (List Char)} (h : pieces ≠ []) :
    dropFinalEmpty pieces ≠ [] := by
  fun_cases dropFinalEmpty pieces <;> simp_all

theorem splitLines_ne_nil (text : String) : splitLines text ≠ [] := by
  simpa [splitLines, lines] using dropFinalEmpty_ne_nil (splitBreaks_ne_nil text.toList)

theorem splitBreaks_cons {c : Char} (noReturn : c ≠ '\r') (noFeed : c ≠ '\n') (rest : List Char) :
    splitBreaks (c :: rest) =
      match splitBreaks rest with
      | [] => [[c]]
      | line :: lines => (c :: line) :: lines := by
  cases split : splitBreaks rest <;> simp [splitBreaks, noReturn, split]

/-- Writing each line break as a line feed keeps the pieces between them. -/
theorem splitBreaks_unifyBreaks (text : List Char) :
    splitBreaks (unifyBreaks text) = splitBreaks text := by
  fun_induction unifyBreaks text with
  | case1 => rfl
  | case2 rest ih => simp [splitBreaks, ih]
  | case3 rest alone ih => simp [splitBreaks, ih]
  | case4 c rest pair single ih =>
      by_cases feed : c = '\n'
      · simp [feed, splitBreaks, ih]
      · rw [splitBreaks_cons single feed, splitBreaks_cons single feed, ih]

theorem splitLines_unifyBreaks (text : List Char) :
    splitLines (String.ofList (unifyBreaks text)) = splitLines (String.ofList text) := by
  simp [splitLines, lines, splitBreaks_unifyBreaks]

end RefNav.Text

namespace RefNav.Document

theorem lines_ofText_ne_nil (uri text : String) : (ofText uri text).lines ≠ [] :=
  Text.splitLines_ne_nil text

theorem lineAt_of_getElem? {d : Document} {line : Nat} {text : String}
    (h : d.lines[line]? = some text) : d.lineAt line = .ok text := by
  have inside : ¬ (line : Int) < 0 := by omega
  simp only [lineAt, inside, if_false, Int.toNat_natCast, h]

end RefNav.Document
