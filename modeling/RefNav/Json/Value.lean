import RefNav.Number.Decimal
import RefNav.Text.Digit
import RefNav.Text.Unpaired

/-! # JSON values

A value keeps integers exact at any size and apart from doubles, and an object
keeps the order in which its keys first appeared.  A string that holds half of a
surrogate pair is kept apart from the strings that can be encoded.
-/

namespace RefNav

open RefNav.Number RefNav.Text

/-- A JSON value. -/
inductive Json where
  | null
  | bool (b : Bool)
  | int (n : Int)
  | float (x : Binary64)
  | str (s : String)
  /-- A string with half of a surrogate pair on its own. -/
  | unpaired (u : Unpaired)
  | arr (items : List Json)
  | obj (members : List (String × Json))
deriving Repr, Inhabited

/-- The members of an object, in the order of their keys' first appearance. -/
abbrev Members := List (String × Json)

namespace Members

/-- The value of a key. -/
def get? (key : String) : Members → Option Json
  | [] => none
  | (k, v) :: rest => if k = key then some v else get? key rest

/-- Give a key a value: in place if the key is present, at the end if not. -/
def set (key : String) (value : Json) : Members → Members
  | [] => [(key, value)]
  | (k, v) :: rest => if k = key then (k, value) :: rest else (k, v) :: set key value rest

@[simp]
theorem get?_set_self (key : String) (value : Json) (members : Members) :
    get? key (set key value members) = some value := by
  induction members with
  | nil => simp [set, get?]
  | cons p rest ih =>
      by_cases h : p.1 = key
      · simp [set, get?, h]
      · simp [set, get?, h, ih]

/-- Giving one key a value leaves the others alone. -/
theorem get?_set_of_ne {key other : String} (h : other ≠ key) (value : Json)
    (members : Members) : get? other (set key value members) = get? other members := by
  induction members with
  | nil => simp [set, get?, Ne.symm h]
  | cons p rest ih =>
      by_cases hk : p.1 = key
      · simp [set, get?, hk, Ne.symm h]
      · simp [set, get?, hk, ih]

/-- The members that result from giving keys their values one after another. -/
def ofPairs (pairs : List (String × Json)) : Members :=
  pairs.foldl (fun members p => Members.set p.1 p.2 members) []

/-- Give every key of `updates` its new value. -/
def merge (members updates : Members) : Members :=
  updates.foldl (fun acc p => Members.set p.1 p.2 acc) members

end Members

namespace Json

/-- How deeply arrays and objects may be nested in what is read or written. -/
def maxDepth : Nat := 970

/-- The value of a key of an object; `null` if there is none or the value is not
an object. -/
def field (key : String) : Json → Json
  | .obj members => (Members.get? key members).getD .null
  | _ => .null

/-- Does the value count as true in a condition?  Null, false, zero and
everything empty do not. -/
def truthy : Json → Bool
  | .null => false
  | .bool b => b
  | .int n => n ≠ 0
  | .float x => x.isNonzero
  | .str s => s ≠ ""
  | .unpaired _ => true
  | .arr items => !items.isEmpty
  | .obj members => !members.isEmpty

/-- The value itself if it counts as true, else the other one. -/
def orElse (v other : Json) : Json :=
  if v.truthy then v else other

/-- The name of the value's kind in messages. -/
def kindName : Json → String
  | .null => "NoneType"
  | .bool _ => "bool"
  | .int _ => "int"
  | .float _ => "float"
  | .str _ => "str"
  | .unpaired _ => "str"
  | .arr _ => "list"
  | .obj _ => "dict"

/-- The text of a string, with U+FFFD in the place of half of a surrogate pair;
`none` for a value of another kind. -/
def text? : Json → Option String
  | .str s => some s
  | .unpaired u => some u.shown
  | _ => none

/-- The string of some code points. -/
def ofPoints (points : List CodePoint) : Json :=
  match characters points with
  | .ok cs => .str (String.ofList cs)
  | .error u => .unpaired u

/-- The code points of a string; `none` for a value of another kind. -/
def points? : Json → Option (List CodePoint)
  | .str s => some (s.toList.map .char)
  | .unpaired u => some u.points
  | _ => none

@[simp]
theorem ofPoints_map_char (cs : List Char) : ofPoints (cs.map .char) = .str (String.ofList cs) := by
  simp [ofPoints]

@[simp]
theorem ofPoints_points (u : Unpaired) : ofPoints u.points = .unpaired u := by
  have refused := characters_append_points [] u
  simp only [List.map_nil, List.nil_append] at refused
  rw [ofPoints, refused]

end Json

end RefNav
