import RefNav.Chain
import RefNav.Jump.Address
import RefNav.Provider
import RefNav.Workspace.Index

/-! # Local lookup

References are resolved by searching the workspace.  The query of a reference is
taken apart again: label and routine, or class and member.  Where no reference
stands, a plain word under the cursor may name a label of the same document.
-/

namespace RefNav

open RefNav.Text

/-- The rest of a line up to a line feed, which may only stand at its very end. -/
def wholeLine? (cs : List Char) : Option (List Char) :=
  let line := cs.takeWhile (· ≠ '\n')
  if !line.isEmpty && Address.isSegmentEnd (cs.dropWhile (· ≠ '\n')) then some line else none

/-- Label and routine of a query `Label^Routine`. -/
def labelQuery? (query : List Char) : Option (List Char × List Char) := do
  let (label, afterLabel) ← Address.name? query
  let afterCaret ← Shape.dropChar? '^' afterLabel
  let routine ← wholeLine? afterCaret
  return (label, routine)

/-- Class and member of a query `##class(Name).Member`. -/
def classQuery? (query : List Char) : Option (List Char × Option (List Char)) := do
  let inside ← dropKeyword? "##class(".toList query
  let name := inside.takeWhile (· ≠ ')')
  let afterClose ← Shape.dropChar? ')' (inside.dropWhile (· ≠ ')'))
  if name.isEmpty then none
  else if Address.isSegmentEnd afterClose then return (name, none)
  else
    let afterDot ← Shape.dropChar? '.' afterClose
    let member ← wholeLine? afterDot
    return (name, some member)

/-- The place of the definition of a reference in a workspace. -/
def Index.lookup (i : Index) (t : FileTree) (kind : Kind) (query symbol : String) :
    Option Location × List LogRecord :=
  match kind with
  | .labelCall =>
      match labelQuery? query.toList with
      | some (label, routine) => i.findLabel t (String.ofList label) (String.ofList routine)
      | none => (none, [])
  | .routine => ((i.findRoutine symbol).map fun path => Index.locate t path 0, [])
  | .macroCall => i.findMacro t symbol
  | .classRef =>
      match classQuery? query.toList with
      | some (name, member) => i.findMember t (String.ofList name) (member.map String.ofList)
      | none => (none, [])

/-- The label of the same document that the word under the cursor names. -/
def labelInDocument (d : Document) (line : String) (position : Position) : List Location :=
  match wordAt line position.character with
  | none => []
  | some word =>
      match (labels d.lines).lookup word with
      | some line => [{ uri := d.uri, line := line }]
      | none => []

/-- The definitions that a fresh scan of a workspace finds for a place. -/
def localDefinitions (t : FileTree) (root : PathName) (d : Document) (position : Position) :
    Except Fault (List Location × List LogRecord) :=
  match d.lineAt position.line with
  | .error _ => .ok ([], [])
  | .ok line =>
      match referenceAt line position.character with
      | none => .ok (labelInDocument d line position, [])
      | some r => do
          let (i, scanned) ← Index.scan t root
          let (found, log) := i.lookup t r.kind r.query r.symbol
          return (found.toList, scanned ++ log)

/-- The local search as a fallback; a cancelled caller that it is bound to gets an empty
answer. -/
def localFallback (t : FileTree) (root : PathName) (d : Document) (position : Position)
    (bound : Bool) : Act Answer := do
  if bound && (← get).token.cancelled then return .many []
  let (found, log) ← Act.ofExcept (localDefinitions t root d position)
  Act.writeAll log
  return .many found

end RefNav
