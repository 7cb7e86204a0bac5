import RefNav.BinaryInsertion
import RefNav.Fault
import RefNav.Json.Literal
import RefNav.Json.Writer

/-! # Connection blocks

The connection settings of a configuration file are a mapping.  A file may also
give them as a list of pairs, and then a key need not be a text; such keys are
kept, and written as texts only where JSON demands it.
-/

namespace RefNav

open RefNav.Number RefNav.Text

/-- Connection settings: scalar keys with their values, in order of first
appearance. -/
abbrev Block := List (Json × Json)

namespace Block

/-- A scalar number as a quotient. -/
def ratio? : Json → Option (Int × Nat)
  | .bool b => some (if b then 1 else 0, 1)
  | .int n => some (n, 1)
  | .float (.finite s m e) =>
      let r := Binary64.ratio m e
      some (if s then -(r.1 : Int) else r.1, r.2)
  | _ => none

/-- Do two scalars denote the same key?  Numbers are compared by value, and what is
not a number is one key. -/
def sameKey : Json → Json → Bool
  | .str a, .str b => a = b
  | .unpaired a, .unpaired b => a = b
  | .null, .null => true
  | .float .nan, .float .nan => true
  | .float (.infinite s), .float (.infinite t) => s = t
  | a, b =>
      match ratio? a, ratio? b with
      | some (n, d), some (m, e) => n * e = m * d
      | _, _ => false

/-- The value of a key that is a text. -/
def get? (key : String) : Block → Option Json
  | [] => none
  | (k, v) :: rest => if sameKey k (.str key) then some v else get? key rest

/-- Give a key a value: in place if the key is present, at the end if not. -/
def set (key value : Json) : Block → Block
  | [] => [(key, value)]
  | (k, v) :: rest => if sameKey k key then (k, value) :: rest else (k, v) :: set key value rest

/-- The block of an object. -/
def ofMembers (members : Members) : Block :=
  members.map fun p => (.str p.1, p.2)

/-- Give every key of an object its value. -/
def merge (block : Block) (updates : Members) : Block :=
  updates.foldl (fun acc p => Block.set (.str p.1) p.2 acc) block

/-- Can the value be a key? -/
def isScalar : Json → Bool
  | .arr _ => false
  | .obj _ => false
  | _ => true

/-- The pair that an item of a list makes: a list, a text or an object of exactly
two items, characters or keys. -/
def pair? : Json → Except Fault (Json × Json)
  | .arr [k, v] =>
      if isScalar k then .ok (k, v)
      else .error (.failure .badType "a key is a scalar")
  | .arr _ => .error (.failure .badValue "a pair has two items")
  | .obj [(k, _), (v, _)] => .ok (.str k, .str v)
  | .obj _ => .error (.failure .badValue "a pair has two items")
  | .str s =>
      match s.toList with
      | [k, v] => .ok (.str (String.singleton k), .str (String.singleton v))
      | _ => .error (.failure .badValue "a pair has two items")
  | .unpaired u =>
      match u.points with
      | [k, v] => .ok (.ofPoints [k], .ofPoints [v])
      | _ => .error (.failure .badValue "a pair has two items")
  | _ => .error (.failure .badType "a pair is a sequence")

/-- Enter the pairs of a list one after another. -/
def addPairs : Block → List Json → Except Fault Block
  | block, [] => .ok block
  | block, item :: rest =>
      match pair? item with
      | .ok (k, v) => addPairs (Block.set k v block) rest
      | .error f => .error f

/-- The block that a value gives.  Whatever counts as false gives the empty one. -/
def ofJson (v : Json) : Except Fault Block :=
  if !v.truthy then .ok []
  else
    match v with
    | .obj members => .ok (ofMembers members)
    | .arr items => addPairs [] items
    | .str _ | .unpaired _ => .error (.failure .badValue "a pair has two items")
    | _ => .error (.failure .badType "connection settings are an object or a list of pairs")

/-- A key as JSON writes it. -/
def keyText : Json → String
  | .str s => s
  | .unpaired u => u.shown
  | .null => "null"
  | .bool b => if b then "true" else "false"
  | .float x => String.ofList (Json.floatText x)
  | v => v.literal

/-- The block as an object. -/
def toJson (block : Block) : Json :=
  .obj (block.map fun p => (keyText p.1, p.2))

/-- Can the keys be put into an order?  Texts and numbers cannot be compared with
each other, and null with nothing. -/
def isSortable (block : Block) : Bool :=
  block.length ≤ 1 || block.all (fun p => p.1.points?.isSome)
    || block.all (fun p => p.1.points?.isNone && match p.1 with | .null => false | _ => true)

/-- Does the first of two keys come before the second?  Texts go by their code
points, numbers by their values; what is not a number is before nothing and
behind nothing. -/
def isBefore (a b : Json) : Bool :=
  match a.points?, b.points?, a, b with
  | some p, some q, _, _ => p.map CodePoint.code < q.map CodePoint.code
  | _, _, .float (.infinite s), .float (.infinite t) => s && !t
  | _, _, .float (.infinite s), b => s && (ratio? b).isSome
  | _, _, a, .float (.infinite t) => !t && (ratio? a).isSome
  | _, _, a, b =>
      match ratio? a, ratio? b with
      | some (n, d), some (m, e) => n * e < m * d
      | _, _ => false

/-- The block as an object in which all keys are in order. -/
def toSortedJson (block : Block) : Json :=
  let ordered := BinaryInsertion.sort (fun p q => isBefore p.1 q.1) block
  .obj (ordered.map fun p => (keyText p.1, p.2.sorted))

/-- The block as it is shown in text. -/
def literal (block : Block) : String :=
  "\x7b" ++ ", ".intercalate (block.map fun p => p.1.literal ++ ": " ++ p.2.literal) ++ "\x7d"

/-- The block with a password that is present hidden. -/
def masked (block : Block) : Block :=
  match Block.get? "password" block with
  | some v => if v.truthy then Block.set (.str "password") (.str "***") block else block
  | none => block

end Block

end RefNav
