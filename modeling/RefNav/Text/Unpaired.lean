import RefNav.Text.Quoted

/-! # Texts with half of a surrogate pair

JSON writes a character beyond the sixteen-bit range as a pair of code units, and
can also write one half of such a pair on its own.  The text then has a code point
that is no character: it can be kept, shown and written back, but not encoded.
-/

namespace RefNav.Text

/-- Half of a surrogate pair, counted from U+D800. -/
structure Surrogate where
  index : Fin 0x800
deriving Repr, DecidableEq

/-- The code unit of half of a pair. -/
def Surrogate.code (s : Surrogate) : Nat :=
  0xD800 + s.index

/-- A character, or half of a surrogate pair on its own. -/
inductive CodePoint where
  | char (c : Char)
  | half (s : Surrogate)
deriving Repr, DecidableEq

namespace CodePoint

/-- Is it half of a pair? -/
def isHalf : CodePoint → Bool
  | .char _ => false
  | .half _ => true

/-- The number of a code point. -/
def code : CodePoint → Nat
  | .char c => c.toNat
  | .half s => s.code

/-- The character that stands for a code point where there can be nothing else:
U+FFFD for half of a pair. -/
def shown : CodePoint → Char
  | .char c => c
  | .half _ => '\ufffd'

end CodePoint

/-- A text with half of a surrogate pair on its own: the characters before the
first half, that half, and the rest. -/
structure Unpaired where
  before : List Char
  first : Surrogate
  rest : List CodePoint
deriving Repr, DecidableEq

namespace Unpaired

/-- The code points of the text. -/
def points (u : Unpaired) : List CodePoint :=
  u.before.map .char ++ .half u.first :: u.rest

/-- The text with U+FFFD in the place of every half. -/
def shown (u : Unpaired) : String :=
  String.ofList (u.points.map CodePoint.shown)

/-- The number of halves in a row, the first half included. -/
def run (u : Unpaired) : Nat :=
  (u.rest.takeWhile CodePoint.isHalf).length + 1

/-- The wording of the refusal to encode the text. -/
def message (u : Unpaired) : String :=
  let start := u.before.length
  let stop := start + u.run - 1
  let refused :=
    if start = stop then
      "character '\\u" ++ String.ofList (hexPadded 4 u.first.code) ++ s!"' in position {start}"
    else s!"characters in position {start}-{stop}"
  "'utf-8' codec can't encode " ++ refused ++ ": surrogates not allowed"

end Unpaired

/-- The characters of some code points; half of a pair is refused. -/
def characters : List CodePoint → Except Unpaired (List Char)
  | [] => .ok []
  | .half s :: rest => .error ⟨[], s, rest⟩
  | .char c :: rest =>
      match characters rest with
      | .ok cs => .ok (c :: cs)
      | .error u => .error { u with before := c :: u.before }

@[simp]
theorem characters_map_char (cs : List Char) : characters (cs.map .char) = .ok cs := by
  induction cs with
  | nil => rfl
  | cons c cs ih => simp [characters, ih]

/-- A text is refused together with what stands before its first half. -/
theorem characters_append_points (cs : List Char) (u : Unpaired) :
    characters (cs.map .char ++ u.points) = .error { u with before := cs ++ u.before } := by
  have direct (before : List Char) :
      characters (before.map .char ++ .half u.first :: u.rest) = .error { u with before } := by
    induction before with
    | nil => rfl
    | cons c before ih => simp [characters, ih]
  have joined := direct (cs ++ u.before)
  rwa [List.map_append, List.append_assoc] at joined

/-- Write every line feed as the given break, together with a carriage return in front of it;
other carriage returns stay. -/
def withEol (eol : List CodePoint) : List CodePoint → List CodePoint
  | [] => []
  | .char '\r' :: .char '\n' :: rest => eol ++ withEol eol rest
  | .char '\n' :: rest => eol ++ withEol eol rest
  | p :: rest => p :: withEol eol rest

/-- A code point inside a text quoted with `quote`. -/
def quotedPoint (quote : Char) : CodePoint → List Char
  | .char c => quotedChar quote c
  | .half s => '\\' :: 'u' :: hexPadded 4 s.code

/-- A text with half of a pair between quotes. -/
def Unpaired.quoted (u : Unpaired) : String :=
  let quote := quoteFor (u.points.map CodePoint.shown)
  String.ofList (quote :: u.points.flatMap (quotedPoint quote) ++ [quote])

end RefNav.Text
