/-! # Terminal control sequences

A control sequence is an escape character and an opening bracket, parameter
characters, intermediate characters and one final character.  Text that is not
written to a terminal is written without them; an escape character that starts
no complete sequence stays.
-/

namespace RefNav.Text

/-- Characters of the parameters of a control sequence. -/
def isParameter (c : Char) : Bool :=
  0x30 ≤ c.toNat && c.toNat ≤ 0x3F

/-- Characters between the parameters and the end of a control sequence. -/
def isIntermediate (c : Char) : Bool :=
  0x20 ≤ c.toNat && c.toNat ≤ 0x2F

/-- Characters that end a control sequence. -/
def isFinal (c : Char) : Bool :=
  0x40 ≤ c.toNat && c.toNat ≤ 0x7E

/-- The rest of a text behind the control sequence with which it starts. -/
def afterControl? : List Char → Option (List Char)
  | '\x1b' :: '[' :: body =>
      match (body.dropWhile isParameter).dropWhile isIntermediate with
      | c :: rest => if isFinal c then some rest else none
      | [] => none
  | _ => none

/-- A control sequence takes up characters. -/
theorem length_afterControl? {cs rest : List Char} (h : afterControl? cs = some rest) :
    rest.length < cs.length := by
  unfold afterControl? at h
  split at h
  · rename_i body
    have parameters := (List.dropWhile_sublist isParameter (l := body)).length_le
    have intermediates :=
      (List.dropWhile_sublist isIntermediate (l := body.dropWhile isParameter)).length_le
    split at h
    · rename_i c tail heq
      split at h
      · cases h
        rw [heq] at intermediates
        simp only [List.length_cons] at intermediates ⊢
        omega
      · contradiction
    · contradiction
  · contradiction

/-- A text without its control sequences, which are looked for once from left to
right. -/
def dropControls (cs : List Char) : List Char :=
  match h : afterControl? cs with
  | some rest =>
      have : rest.length < cs.length := length_afterControl? h
      dropControls rest
  | none =>
      match cs with
      | [] => []
      | c :: rest => c :: dropControls rest
termination_by cs.length

/-- A text without its control sequences. -/
def withoutControls (s : String) : String :=
  String.ofList (dropControls s.toList)

end RefNav.Text
