/-! # References

A reference is an occurrence, in one line of source text, of the name of
something defined elsewhere.  It has one of four shapes; where occurrences of
different shapes compete, the earlier shape in the list below wins.
-/

namespace RefNav

/-- The shape of a reference. -/
inductive Kind where
  /-- A function call by label and routine, `$$Label^Routine`. -/
  | labelCall
  /-- A routine on its own, `^Routine`. -/
  | routine
  /-- A macro, `$$$NAME`. -/
  | macroCall
  /-- A class, optionally with one of its members, `##class(Name).Member`. -/
  | classRef
deriving Repr, DecidableEq

/-- The shapes in order of priority, highest first. -/
def Kind.all : List Kind :=
  [.labelCall, .routine, .macroCall, .classRef]

/-- The name of a shape in output. -/
def Kind.name : Kind → String
  | .labelCall => "labelRoutine"
  | .routine => "routine"
  | .macroCall => "macro"
  | .classRef => "class"

/-- The shape with a given name. -/
def Kind.ofName? (name : String) : Option Kind :=
  Kind.all.find? fun k => k.name = name

/-- The short name of a shape in listings. -/
def Kind.abbreviation : Kind → String
  | .labelCall => "lbl"
  | .routine => "rtn"
  | .macroCall => "mac"
  | .classRef => "cls"

/-- A name abbreviated if it is that of a shape. -/
def Kind.abbreviate (name : String) : String :=
  match Kind.ofName? name with
  | some kind => kind.abbreviation
  | none => name

/-- The characters of a line from offset `start` up to but without offset `stop`. -/
structure Span where
  start : Nat
  stop : Nat
deriving Repr, DecidableEq

/-- A cursor is on a span from its first character to right behind its last. -/
def Span.covers (s : Span) (offset : Int) : Bool :=
  (s.start : Int) ≤ offset && offset ≤ (s.stop : Int)

/-- Two spans share a character. -/
def Span.overlaps (a b : Span) : Bool :=
  a.start < b.stop && b.start < a.stop

/-- An occurrence of a name in a line. -/
structure Reference where
  /-- The characters of the line that make up the reference. -/
  raw : String
  /-- The reference without optional blanks and marks, as a server is asked for it. -/
  query : String
  kind : Kind
  /-- The name of the routine, macro or class referred to. -/
  symbol : String
  span : Span
deriving Repr, DecidableEq

end RefNav
