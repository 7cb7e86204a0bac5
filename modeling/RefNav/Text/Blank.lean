import RefNav.Text.Ranges

/-! # Blank characters and trimming

Blank characters are the white space of the Unicode standard together with the
four information separators.  Trimming removes them from either end of a text.
-/

namespace RefNav.Text

/-- Code points of the blank characters. -/
def blankRanges : List (Nat × Nat) :=
  [(9, 13), (28, 32), (133, 133), (160, 160), (5760, 5760), (8192, 8202), (8232, 8233),
   (8239, 8239), (8287, 8287), (12288, 12288)]

/-- Is this character white space? -/
def isBlank (c : Char) : Bool :=
  inRanges blankRanges c.toNat

/-- Drop the blank characters at the start. -/
def trimStart (cs : List Char) : List Char :=
  cs.dropWhile isBlank

/-- Drop the blank characters at the end. -/
def trimEnd (cs : List Char) : List Char :=
  (cs.reverse.dropWhile isBlank).reverse

/-- Drop the blank characters at both ends. -/
def trim (cs : List Char) : List Char :=
  trimEnd (trimStart cs)

/-- Trim a string. -/
def trimmed (s : String) : String :=
  String.ofList (trim s.toList)

end RefNav.Text
