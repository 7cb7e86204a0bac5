/-! # Lines

A line ends at a carriage return, a line feed, or the two in that order.  A
final line break ends the last line and does not open another one, so every
text has at least one line.
-/

namespace RefNav.Text

/-- The pieces between line breaks; a final break leaves an empty last piece. -/
def splitBreaks : List Char → List (List Char)
  | [] => [[]]
  | '\r' :: '\n' :: rest => [] :: splitBreaks rest
  | '\r' :: rest => [] :: splitBreaks rest
  | '\n' :: rest => [] :: splitBreaks rest
  | c :: rest =>
      match splitBreaks rest with
      | [] => [[c]]
      | line :: lines => (c :: line) :: lines

/-- Drop an empty last piece unless it is the only one. -/
def dropFinalEmpty : List (List Char) → List (List Char)
  | [] => []
  | [line] => [line]
  | line :: last :: rest =>
      if rest = [] ∧ last = [] then [line] else line :: dropFinalEmpty (last :: rest)

/-- The lines of a text. -/
def lines (text : List Char) : List (List Char) :=
  dropFinalEmpty (splitBreaks text)

/-- The lines of a string. -/
def splitLines (text : String) : List String :=
  (lines text.toList).map String.ofList

/-- Write every line break as a single line feed. -/
def unifyBreaks : List Char → List Char
  | [] => []
  | '\r' :: '\n' :: rest => '\n' :: unifyBreaks rest
  | '\r' :: rest => '\n' :: unifyBreaks rest
  | c :: rest => c :: unifyBreaks rest

/-- The pieces between single occurrences of a separator. -/
def splitAtChar (sep : Char) : List Char → List (List Char)
  | [] => [[]]
  | c :: rest =>
      if c = sep then [] :: splitAtChar sep rest
      else
        match splitAtChar sep rest with
        | [] => [[c]]
        | piece :: pieces => (c :: piece) :: pieces

/-- Does a carriage return and line feed pair occur in the text? -/
def hasPair : List Char → Bool
  | [] => false
  | '\r' :: '\n' :: _ => true
  | _ :: rest => hasPair rest

end RefNav.Text
