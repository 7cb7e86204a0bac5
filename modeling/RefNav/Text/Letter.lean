/-! # ASCII letters and case folding

Names start with an ASCII letter.  Keywords are compared with case ignored; a
character folds to the lower-case ASCII letter it is a variant of, and four
characters outside ASCII are such variants: the long s, the Kelvin sign, and
the dotted capital and the dotless small i.
-/

namespace RefNav.Text

/-- An ASCII letter. -/
def isLetter (c : Char) : Bool :=
  ('a' ≤ c && c ≤ 'z') || ('A' ≤ c && c ≤ 'Z')

/-- An ASCII digit. -/
def isDigit (c : Char) : Bool :=
  '0' ≤ c && c ≤ '9'

/-- An ASCII letter or digit. -/
def isLetterOrDigit (c : Char) : Bool :=
  isLetter c || isDigit c

/-- Lower case of an ASCII capital; every other character is unchanged. -/
def lower (c : Char) : Char :=
  if 'A' ≤ c && c ≤ 'Z' then Char.ofNat (c.toNat + 32) else c

/-- The lower-case letter a character stands for when case is ignored. -/
def fold (c : Char) : Char :=
  if c = '\u017f' then 's'
  else if c = '\u212a' then 'k'
  else if c = '\u0130' || c = '\u0131' then 'i'
  else lower c

/-- A character that is an ASCII letter when case is ignored. -/
def isFoldedLetter (c : Char) : Bool :=
  isLetter (fold c)

/-- The rest of a text after a keyword given in lower case, case ignored. -/
def dropKeyword? : List Char → List Char → Option (List Char)
  | [], text => some text
  | _ :: _, [] => none
  | k :: keyword, c :: text => if fold c = k then dropKeyword? keyword text else none

/-- Lower-case the ASCII capitals of a string. -/
def lowered (s : String) : String :=
  String.ofList (s.toList.map lower)

end RefNav.Text
