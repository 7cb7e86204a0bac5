import RefNav.Reference.Extract

/-! # Labels, macro definitions and members

A label is a name at the start of a line: an optional percent sign, a letter,
and letters or digits.  A macro is defined by a line with a define directive,
and a method by a line with a method declaration; the keywords are recognised
whatever their case.
-/

namespace RefNav

open RefNav.Text

/-- A plain name at the start of a text, an optional percent sign in front of a
letter and letters or digits, and the text after it. -/
def plainName? (letter digitOrLetter : Char → Bool) : List Char → Option (List Char × List Char)
  | [] => none
  | [c] => if letter c then some ([c], []) else none
  | c :: d :: rest =>
      if letter c then
        some (c :: (d :: rest).takeWhile digitOrLetter, (d :: rest).dropWhile digitOrLetter)
      else if c = '%' && letter d then
        some (c :: d :: rest.takeWhile digitOrLetter, rest.dropWhile digitOrLetter)
      else none

/-- Lines that are passed over in the search for labels: empty ones, and those
that start with a blank or with a comment or directive mark. -/
def isSkipped : List Char → Bool
  | [] => true
  | c :: _ => isBlank c || c = ';' || c = '/' || c = '#'

/-- The label that a line starts with. -/
def label? (line : List Char) : Option (List Char) :=
  if isSkipped line then none
  else (plainName? isLetter isLetterOrDigit line).map (·.1)

/-- Add a name unless it is present. -/
def addFirst {α : Type} (table : List (String × α)) (name : String) (value : α) :
    List (String × α) :=
  if (table.lookup name).isSome then table else table ++ [(name, value)]

/-- The labels of a text and the lines of their first appearance, in order. -/
def labels (lines : List String) : List (String × Nat) :=
  lines.zipIdx.foldl
    (fun table p =>
      match label? p.1.toList with
      | some name => addFirst table (String.ofList name) p.2
      | none => table) []

/-- A letter or digit where case is ignored. -/
def isFoldedLetterOrDigit (c : Char) : Bool :=
  isFoldedLetter c || isDigit c

/-- A character of a macro name where case is ignored. -/
def isFoldedMacroChar (c : Char) : Bool :=
  c = '%' || c = '_' || isFoldedLetterOrDigit c

/-- Drop blanks, of which there has to be at least one. -/
def dropBlanks? : List Char → Option (List Char)
  | [] => none
  | c :: rest => if isBlank c then some (trimStart rest) else none

/-- The name of the macro that a line defines. -/
def definedMacro? (line : List Char) : Option (List Char) := do
  let afterDef ← dropKeyword? "#def".toList (trimStart line)
  let afterDirective ←
    (dropKeyword? "ine".toList afterDef).or (dropKeyword? "1arg".toList afterDef)
  match ← dropBlanks? afterDirective with
  | [] => none
  | c :: rest =>
      if Shape.isFoldedHead c then some (c :: rest.takeWhile isFoldedMacroChar) else none

/-- The name of the method that a line declares. -/
def declaredMember? (line : List Char) : Option (List Char) := do
  let start := trimStart line
  let afterKeyword ←
    (dropKeyword? "classmethod".toList start).or (dropKeyword? "method".toList start)
  let afterBlanks ← dropBlanks? afterKeyword
  let (name, rest) ← plainName? isFoldedLetter isFoldedLetterOrDigit afterBlanks
  if (trimStart rest).head? = some '(' then some name else none

/-- The word under a cursor: the first plain name that covers it. -/
def wordAt (line : String) (offset : Int) : Option String :=
  let recognise (cs : List Char) : Option Hit :=
    (plainName? isLetter isLetterOrDigit cs).map fun p => ⟨p.1, p.1, p.1⟩
  let found := (scan recognise 0 0 line.toList).find? fun p =>
    Span.covers ⟨p.1, p.1 + p.2.raw.length⟩ offset
  found.map fun p => String.ofList p.2.raw

end RefNav
