import RefNav.Json.Value
import RefNav.Text.Quoted

/-! # Values in messages

Messages show a value in a literal form: `None`, `True` and `False`, texts in
quotes, and lists and mappings in brackets.  A text on its own is shown without
quotes where a message asks for the plain form.
-/

namespace RefNav.Json

open RefNav.Number RefNav.Text

/-- A truth value in a message. -/
def boolWord (b : Bool) : String :=
  if b then "True" else "False"

mutual

/-- The literal form of a value. -/
def literal : Json → String
  | .null => "None"
  | .bool b => boolWord b
  | .int n => showInt n
  | .float x => Decimal.text x
  | .str s => quoted s
  | .unpaired u => u.quoted
  | .arr items => "[" ++ ", ".intercalate (literalItems items) ++ "]"
  | .obj members => "\x7b" ++ ", ".intercalate (literalMembers members) ++ "\x7d"

/-- The literal forms of the items of a list. -/
def literalItems : List Json → List String
  | [] => []
  | v :: items => literal v :: literalItems items

/-- The literal forms of the members of a mapping. -/
def literalMembers : List (String × Json) → List String
  | [] => []
  | (k, v) :: members => (quoted k ++ ": " ++ literal v) :: literalMembers members

end

/-- The plain form: a text as it is, but for halves of surrogate pairs, and every
other value in its literal form. -/
def plain : Json → String
  | .str s => s
  | .unpaired u => u.shown
  | v => literal v

end RefNav.Json
