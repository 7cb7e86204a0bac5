import RefNav.Fault
import RefNav.Json.Value

/-! # Locations

A definition is found at a line of a document, counted from zero.  Servers
number lines from one and may use backslashes in paths.
-/

namespace RefNav

open RefNav.Number

/-- A place in a document. -/
structure Location where
  uri : String
  line : Int
  column : Int := 0
deriving Repr, DecidableEq

namespace Location

/-- Write the separators of a path as slashes. -/
def slashed (uri : String) : String :=
  String.ofList (uri.toList.map fun c => if c = '\\' then '/' else c)

/-- The zero-based line of a server's line number; `none` for a number that is not
finite.  An integer too large for a double is a fault. -/
def lineOfNumber? : Json → Except Fault (Option Int)
  | .int n => if (Binary64.ofInt? n).isSome then .ok (some n) else .error .tooLargeForDouble
  | .float x => .ok x.floor?
  | _ => .ok none

/-- The location that a server's answer names: an object with a non-empty text
`uri` and a finite number `line`. -/
def ofAnswer (answer : Json) : Except Fault (Option Location) :=
  match answer with
  | .obj _ =>
      match (answer.field "uri").text? with
      | some uri =>
          if uri = "" then .ok none
          else
            match lineOfNumber? (answer.field "line") with
            | .ok (some n) => .ok (some { uri := slashed uri, line := max 0 (n - 1) })
            | .ok none => .ok none
            | .error f => .error f
      | none => .ok none
  | _ => .ok none

/-- The location as an object. -/
def toJson (l : Location) : Json :=
  .obj [("uri", .str l.uri), ("line", .int l.line), ("column", .int l.column)]

/-- A path with a line, if there is one. -/
def pathText (path : String) : Option Int → String
  | some line => path ++ ":" ++ Text.showInt line
  | none => path

/-- Path and one-based line, as editors number lines. -/
def display (l : Location) : String :=
  pathText l.uri (some (l.line + 1))

end Location

end RefNav
