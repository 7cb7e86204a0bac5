import RefNav.Reference.Basic
import RefNav.Text.Blank
import RefNav.Text.Letter
import RefNav.Text.Word

/-! # Shapes of references

Each shape is recognised at the start of a text and takes as many characters as
it can.  A name is a percent sign or a letter followed by word characters; a
dotted name is a sequence of names with dots between them.
-/

namespace RefNav

open RefNav.Text

/-- What a shape takes from the start of a text. -/
structure Hit where
  raw : List Char
  query : List Char
  symbol : List Char
deriving Repr, DecidableEq

namespace Shape

/-- The first character of a name. -/
def isHead (c : Char) : Bool :=
  c = '%' || isLetter c

/-- The first character of a name where case is ignored. -/
def isFoldedHead (c : Char) : Bool :=
  c = '%' || isFoldedLetter c

/-- A character of a macro name after the first. -/
def isMacroChar (c : Char) : Bool :=
  c = '%' || c = '_' || isLetterOrDigit c

/-- A name and the text after it. -/
def name? (head : Char → Bool) : List Char → Option (List Char × List Char)
  | [] => none
  | c :: rest => if head c then some (c :: rest.takeWhile isWord, rest.dropWhile isWord) else none

/-- What follows the first character of a dotted name: word characters, and dots
that stand before the first character of another name. -/
def dottedTail (head : Char → Bool) : List Char → List Char × List Char
  | [] => ([], [])
  | [c] => if isWord c then ([c], []) else ([], [c])
  | c :: d :: rest =>
      if isWord c then
        let tail := dottedTail head (d :: rest)
        (c :: tail.1, tail.2)
      else if c = '.' && head d then
        let tail := dottedTail head rest
        (c :: d :: tail.1, tail.2)
      else ([], c :: d :: rest)

/-- A dotted name and the text after it. -/
def dotted? (head : Char → Bool) : List Char → Option (List Char × List Char)
  | [] => none
  | c :: rest =>
      if head c then some (c :: (dottedTail head rest).1, (dottedTail head rest).2) else none

/-- The text after a given first character. -/
def dropChar? (c : Char) : List Char → Option (List Char)
  | [] => none
  | d :: rest => if d = c then some rest else none

/-- Two dollar signs, a name, a caret and a dotted name. -/
def labelCall? (cs : List Char) : Option Hit := do
  let afterFirst ← dropChar? '$' cs
  let afterDollars ← dropChar? '$' afterFirst
  let (label, afterLabel) ← name? isHead afterDollars
  let afterCaret ← dropChar? '^' afterLabel
  let (routine, _) ← dotted? isHead afterCaret
  return { raw := '$' :: '$' :: label ++ '^' :: routine
           query := label ++ '^' :: routine
           symbol := routine }

/-- The name of a routine: an optional percent sign and a letter start a dotted
name. -/
def routineName? : List Char → Option (List Char)
  | [] => none
  | [c] => if isLetter c then some [c] else none
  | c :: d :: rest =>
      if isLetter c then some (c :: (dottedTail isHead (d :: rest)).1)
      else if c = '%' && isLetter d then some (c :: d :: (dottedTail isHead rest).1)
      else none

/-- A caret and the name of a routine. -/
def routine? (cs : List Char) : Option Hit := do
  let afterCaret ← dropChar? '^' cs
  let name ← routineName? afterCaret
  return { raw := '^' :: name, query := '^' :: name, symbol := name }

/-- The name of a macro. -/
def macroName? : List Char → Option (List Char)
  | [] => none
  | c :: rest => if isHead c then some (c :: rest.takeWhile isMacroChar) else none

/-- Three dollar signs and the name of a macro. -/
def macroCall? (cs : List Char) : Option Hit := do
  let afterFirst ← dropChar? '$' cs
  let afterSecond ← dropChar? '$' afterFirst
  let afterDollars ← dropChar? '$' afterSecond
  let name ← macroName? afterDollars
  return { raw := '$' :: '$' :: '$' :: name, query := '$' :: '$' :: '$' :: name, symbol := name }

/-- A dot and a member name, with blanks allowed before each. -/
def member? (cs : List Char) : Option (List Char × List Char) := do
  let afterDot ← dropChar? '.' (trimStart cs)
  name? isFoldedHead (trimStart afterDot)

/-- The keyword, a dotted name in parentheses and an optional member, with blanks
allowed between them. -/
def classRef? (cs : List Char) : Option Hit := do
  let afterKeyword ← dropKeyword? "##class".toList cs
  let afterOpen ← dropChar? '(' (trimStart afterKeyword)
  let (name, afterName) ← dotted? isFoldedHead (trimStart afterOpen)
  let afterClose ← dropChar? ')' (trimStart afterName)
  let query := "##class(".toList ++ name ++ [')']
  match member? afterClose with
  | none => return { raw := cs.take (cs.length - afterClose.length), query, symbol := name }
  | some (member, rest) =>
      return { raw := cs.take (cs.length - rest.length)
               query := query ++ '.' :: member
               symbol := name }

end Shape

/-- What a shape takes from the start of a text. -/
def Kind.recognise? : Kind → List Char → Option Hit
  | .labelCall => Shape.labelCall?
  | .routine => Shape.routine?
  | .macroCall => Shape.macroCall?
  | .classRef => Shape.classRef?

end RefNav
