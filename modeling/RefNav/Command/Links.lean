import RefNav.Command.Invocation
import RefNav.Report.Table

/-! # Listing and following links

Every reference of a file is listed as a link; following a link resolves it.
-/

namespace RefNav

/-- A link as JSON. -/
def Link.toJson (l : Link) : Json :=
  let place (character : Nat) : Json :=
    .obj [("line", .int l.line), ("character", .int character)]
  .obj [("start", place l.start), ("end", place l.stop),
    ("args", .arr [.str l.uri, .int l.line, .int l.start]), ("tooltip", .str l.tooltip),
    ("query", .str l.query)]

/-- The row of a link in a listing: its place, its text and its query. -/
def Placed.row (p : Placed) : List String :=
  let r := p.reference
  [Text.showInt (p.line + 1) ++ ":" ++ Text.showInt (r.span.start + 1), r.raw, r.query]

namespace Invocation

/-- List the links of a file. -/
def links (i : Invocation) (path : String) : Act Ending := do
  let d ← i.load path
  let found := d.links
  let count := Text.showInt found.length
  if i.json then
    i.answer "links" [("verdict", .str (count ++ " links")), ("count", .int found.length)]
      [("command_id", .str Link.commandName), ("links", .arr (found.map Link.toJson))]
  else
    Act.print (count ++ " links in " ++ path)
    if !found.isEmpty then
      Act.print (Table.render ["pos", "text", "query"] (d.references.map Placed.row))
    return .done

/-- Follow the link at a line and character, both counted from zero. -/
def follow (i : Invocation) (path : String) (line character : Int) (workspace : Option String) :
    Act Ending := do
  let d ← i.load path
  let settings ← i.settingsFor path
  let provider ← i.provider settings workspace true
  let answer ← provider.follow i.openDocument d.uri ⟨line, character⟩ false
  let locations := answer.locations
  if i.json then
    i.answer "follow"
      [("verdict", .str (if locations.isEmpty then "not found" else "found")),
       ("count", .int locations.length)]
      [("locations", locationsJson locations)]
  else if locations.isEmpty then return .refused (.notFound Refusal.notFoundText)
  else
    for l in locations do Act.print l.display
    return .done

end Invocation

end RefNav
