import RefNav.Command.Invocation

/-! # Finding a definition

The server is asked for the reference at a place, then the workspace; the answer
says which of the two it came from.
-/

namespace RefNav.Invocation

/-- Where the locations came from.  They are the server's if a reference was looked
up and the server did not miss it. -/
def origin (reference : Option Reference) (missed : Bool) : String :=
  if reference.isSome && !missed then "remote" else "fallback"

/-- Did the server miss a reference? -/
def hasMiss (notices : List Notice) : Bool :=
  notices.any fun n =>
    match n with
    | .missed _ => true
    | _ => false

/-- The answer to a search for a definition as JSON. -/
def answerDefinition (i : Invocation) (reference : Option Reference) (source : String)
    (locations : List Location) : Act Ending :=
  let orNull (f : Reference → String) : Json :=
    match reference with
    | some r => .str (f r)
    | none => .null
  i.answer "define"
    [("verdict", .str (if locations.isEmpty then "not found" else "found")),
     ("source", if locations.isEmpty then .null else .str source),
     ("count", .int locations.length)]
    [("query", orNull Reference.query), ("kind", orNull fun r => r.kind.name),
     ("locations", locationsJson locations)]

/-- Print the locations found. -/
def printLocations (source : String) (locations : List Location) : Act Unit := do
  if 1 < locations.length then
    Act.print (Text.showInt locations.length ++ " candidates (" ++ source ++ "):")
  for l in locations do Act.print l.display

/-- Find the definition at a line and column, both counted from one. -/
def define (i : Invocation) (path : String) (line column : Int) (workspace : Option String)
    (useFallback : Bool) : Act Ending := do
  let d ← i.load path
  if (d.lineCount : Int) < line then return lineTooLarge path d
  let settings ← i.settingsFor path
  let provider := { ← i.provider settings workspace useFallback with
    onNoResult := some fun r => Act.tell (.missed r.query) }
  let reference := referenceAt (← lineAt d (line - 1)) (column - 1)
  let answer ← provider.define d ⟨line - 1, column - 1⟩ false
  let locations := answer.locations
  let source := origin reference (hasMiss (← get).notices)
  if i.json then i.answerDefinition reference source locations
  else if locations.isEmpty then
    let what :=
      match reference with
      | some r => r.query
      | none => placeText path line column
    return .refused (.notFound ("No definition found for " ++ what))
  else
    printLocations source locations
    return .done

end RefNav.Invocation
