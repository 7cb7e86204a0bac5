import RefNav.Json.Value
import RefNav.Text.Quoted

/-! # Writing JSON

Output is pure ASCII: every other character is written as a code-unit escape.
The indented form puts each item and member on a line of its own; the canonical
form is the indented form with the keys of every object in code point order.  A
value is refused if it has an integer with more digits than are converted, or is
nested too deeply.
-/

namespace RefNav.Json

open RefNav.Number RefNav.Text

/-- A code-unit escape. -/
def unitEscape (n : Nat) : List Char :=
  '\\' :: 'u' :: hexPadded 4 n

/-- A character inside a JSON string. -/
def escapeChar (c : Char) : List Char :=
  if c = '"' then ['\\', '"']
  else if c = '\\' then ['\\', '\\']
  else if c = '\n' then ['\\', 'n']
  else if c = '\r' then ['\\', 'r']
  else if c = '\t' then ['\\', 't']
  else if c = '\x0c' then ['\\', 'f']
  else if c = '\x08' then ['\\', 'b']
  else if 0x20 ≤ c.toNat ∧ c.toNat ≤ 0x7e then [c]
  else if c.toNat < 0x10000 then unitEscape c.toNat
  else
    let n := c.toNat - 0x10000
    unitEscape (0xD800 + n / 1024) ++ unitEscape (0xDC00 + n % 1024)

/-- A code point inside a JSON string. -/
def escapePoint : CodePoint → List Char
  | .char c => escapeChar c
  | .half s => unitEscape s.code

/-- A JSON string. -/
def stringText (s : String) : List Char :=
  '"' :: s.toList.flatMap escapeChar ++ ['"']

/-- A JSON string with half of a surrogate pair. -/
def unpairedText (u : Unpaired) : List Char :=
  '"' :: u.points.flatMap escapePoint ++ ['"']

/-- A double as a JSON number. -/
def floatText : Binary64 → List Char
  | .nan => "NaN".toList
  | .infinite true => "-Infinity".toList
  | .infinite false => "Infinity".toList
  | x => (Decimal.text x).toList

/-- An integer as a JSON number. -/
def intText (n : Int) : List Char :=
  (showInt n).toList

/-- A line break and the indentation of a nesting depth, two blanks a level. -/
def newline (depth : Nat) : List Char :=
  '\n' :: List.replicate (2 * depth) ' '

mutual

/-- The indented form of a value at a nesting depth. -/
def indented (depth : Nat) : Json → List Char
  | .null => "null".toList
  | .bool true => "true".toList
  | .bool false => "false".toList
  | .int n => intText n
  | .float x => floatText x
  | .str s => stringText s
  | .unpaired u => unpairedText u
  | .arr [] => ['[', ']']
  | .arr (v :: items) =>
      '[' :: newline (depth + 1) ++ indented (depth + 1) v ++ indentedItems (depth + 1) items
        ++ newline depth ++ [']']
  | .obj [] => ['\x7b', '\x7d']
  | .obj ((k, v) :: members) =>
      '\x7b' :: newline (depth + 1) ++ stringText k ++ ':' :: ' ' :: indented (depth + 1) v
        ++ indentedMembers (depth + 1) members ++ newline depth ++ ['\x7d']

/-- The items of an array after its first. -/
def indentedItems (depth : Nat) : List Json → List Char
  | [] => []
  | v :: items => ',' :: newline depth ++ indented depth v ++ indentedItems depth items

/-- The members of an object after its first. -/
def indentedMembers (depth : Nat) : List (String × Json) → List Char
  | [] => []
  | (k, v) :: members =>
      ',' :: newline depth ++ stringText k ++ ':' :: ' ' :: indented depth v
        ++ indentedMembers depth members

end

/-- Members in the code point order of their keys. -/
def sortMembers (members : List (String × Json)) : List (String × Json) :=
  members.mergeSort fun a b => !(b.1 < a.1)

mutual

/-- The value with the keys of every object in code point order. -/
def sorted : Json → Json
  | .arr items => .arr (sortedItems items)
  | .obj members => .obj (sortMembers (sortedMembers members))
  | v => v

/-- The items with the keys of every object in order. -/
def sortedItems : List Json → List Json
  | [] => []
  | v :: items => sorted v :: sortedItems items

/-- The members with the keys of every object in their values in order. -/
def sortedMembers : List (String × Json) → List (String × Json)
  | [] => []
  | (k, v) :: members => (k, sorted v) :: sortedMembers members

end

/-- The indented form with keys as they stand. -/
def pretty (v : Json) : String :=
  String.ofList (indented 0 v)

/-- The indented form with sorted keys. -/
def canonical (v : Json) : String :=
  v.sorted.pretty

/-- Why a value cannot be written. -/
inductive WriteFault where
  /-- An integer has more digits than are converted. -/
  | tooManyDigits
  /-- Arrays or objects are nested too deeply. -/
  | tooDeep
deriving Repr, DecidableEq

/-- The wording of the refusal to write a value. -/
def WriteFault.message : WriteFault → String
  | .tooManyDigits =>
      s!"Exceeds the limit ({maxDigits} digits) for integer string conversion; "
        ++ "use sys.set_int_max_str_digits() to increase the limit"
  | .tooDeep => "maximum recursion depth exceeded"

mutual

/-- What first stands in the way of writing a value with `depth` containers open
around it. -/
def obstacle? (depth : Nat) : Json → Option WriteFault
  | .int n => if maxDigits < (natDigits n.natAbs).length then some .tooManyDigits else none
  | .arr items => if maxDepth ≤ depth then some .tooDeep else itemObstacle? (depth + 1) items
  | .obj members => if maxDepth ≤ depth then some .tooDeep else memberObstacle? (depth + 1) members
  | _ => none

/-- What first stands in the way of writing the items of an array. -/
def itemObstacle? (depth : Nat) : List Json → Option WriteFault
  | [] => none
  | v :: items => (obstacle? depth v).or (itemObstacle? depth items)

/-- What first stands in the way of writing the members of an object. -/
def memberObstacle? (depth : Nat) : List (String × Json) → Option WriteFault
  | [] => none
  | (_, v) :: members => (obstacle? depth v).or (memberObstacle? depth members)

end

/-- The indented form, unless something stands in the way of writing it. -/
def serialise (v : Json) : Except WriteFault String :=
  match obstacle? 0 v with
  | some f => .error f
  | none => .ok v.pretty

end RefNav.Json
