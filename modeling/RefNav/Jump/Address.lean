import RefNav.Fault
import RefNav.Text.Blank
import RefNav.Text.Digit
import RefNav.Text.Letter
import RefNav.Text.Word

/-! # Jump addresses

An address names a routine, a label in it and a number of lines after the
label, in the form `Label+Offset^Routine`; the offset may be left out.  A line
feed may stand before the caret, and white space around the address is ignored.
-/

namespace RefNav

open RefNav.Text

/-- Where to jump: lines after a label in a routine. -/
structure Address where
  routine : String
  label : String
  offset : Int := 0
deriving Repr, DecidableEq

namespace Address

/-- The query for the label of an address. -/
def query (a : Address) : String :=
  a.label ++ "^" ++ a.routine

/-- A label or routine name, a percent sign optionally in front of a letter and
word characters, and the text after it. -/
def name? : List Char → Option (List Char × List Char)
  | [] => none
  | [c] => if isLetter c then some ([c], []) else none
  | c :: d :: rest =>
      if isLetter c then
        some (c :: (d :: rest).takeWhile isWord, (d :: rest).dropWhile isWord)
      else if c = '%' && isLetter d then
        some (c :: d :: rest.takeWhile isWord, rest.dropWhile isWord)
      else none

/-- Is this the end of a segment?  One line feed may stand there. -/
def isSegmentEnd (cs : List Char) : Bool :=
  cs = [] || cs = ['\n']

/-- The digits of an offset after its plus sign; empty without one. -/
def offsetDigits? : List Char → Option (List Char)
  | '+' :: rest =>
      let digits := rest.takeWhile isDecimal
      if !digits.isEmpty && isSegmentEnd (rest.dropWhile isDecimal) then some digits else none
  | rest => if isSegmentEnd rest then some [] else none

/-- The label of an address and the digits of its offset. -/
def labelSegment? (cs : List Char) : Option (List Char × List Char) := do
  let (label, rest) ← name? cs
  let digits ← offsetDigits? rest
  return (label, digits)

/-- The routine of an address.  A final line feed is part of neither segment. -/
def routineSegment? (cs : List Char) : Option (List Char) := do
  let (routine, rest) ← name? cs
  if isSegmentEnd rest then some routine else none

/-- The value of the digits of an offset. -/
def offsetValue (digits : List Char) : Except Fault Int :=
  if digits.isEmpty then .ok 0
  else
    match readMagnitude digits with
    | .ok n => .ok n
    | .error _ => .error (.failure .badValue "the offset has too many digits")

/-- Read an address. -/
def parse (raw : String) : Except Fault Address :=
  let text := trim raw.toList
  let before := text.takeWhile (· ≠ '^')
  match text.dropWhile (· ≠ '^') with
  | [] => .error .invalidAddress
  | _ :: after =>
      match labelSegment? before, routineSegment? after with
      | some (label, digits), some routine =>
          match offsetValue digits with
          | .ok n =>
              .ok { routine := String.ofList routine, label := String.ofList label, offset := n }
          | .error f => .error f
      | _, _ => .error .invalidAddress

end Address

end RefNav
