import RefNav.Fault
import RefNav.Text.Lines

/-! # Documents

A document is a snapshot of a source text split into lines, together with the
line break that its text uses.
-/

namespace RefNav

/-- A source text split into lines. -/
structure Document where
  uri : String
  lines : List String
  eol : String := "\n"
deriving Repr, DecidableEq

/-- A place of a cursor: line and character, both from zero. -/
structure Position where
  line : Int
  character : Int
deriving Repr, DecidableEq

namespace Document

/-- The document of a text.  Its line break is the pair of carriage return and line
feed if that pair occurs at all. -/
def ofText (uri text : String) : Document :=
  { uri := uri
    lines := Text.splitLines text
    eol := if Text.hasPair text.toList then "\r\n" else "\n" }

/-- The number of lines. -/
def lineCount (d : Document) : Nat :=
  d.lines.length

/-- The number of the last line, counted from zero. -/
def lastLine (d : Document) : Nat :=
  d.lines.length - 1

/-- The text of a line. -/
def lineAt (d : Document) (line : Int) : Except Fault String :=
  let outside : Except Fault String := .error (.lineOutOfRange line d.lastLine)
  if line < 0 then outside
  else
    match d.lines[line.toNat]? with
    | some text => .ok text
    | none => outside

end Document

end RefNav
