import RefNav.Command.Invocation

/-! # Showing a reference

The reference under a place of a file is shown without being resolved.
-/

namespace RefNav.Invocation

/-- A reference as JSON. -/
def referenceJson (r : Reference) : Json :=
  .obj [("raw_text", .str r.raw), ("normalized_query", .str r.query), ("kind", .str r.kind.name),
    ("symbol_name", .str r.symbol), ("start", .int r.span.start), ("end", .int r.span.stop)]

/-- Show a reference. -/
def showReference (i : Invocation) (r : Reference) : Act Ending := do
  if i.json then
    i.answer "extract" [("verdict", .str "match"), ("kind", .str r.kind.name)]
      [("match", referenceJson r)]
  else
    Act.print (r.kind.abbreviation ++ "  " ++ r.query)
    Act.print ("  symbol: " ++ r.symbol)
    Act.print ("  text:   " ++ r.raw ++ "  (cols " ++ Text.showInt (r.span.start + 1) ++ "-"
      ++ Text.showInt r.span.stop ++ ")")
    return .done

/-- Show the reference at a line and column, both counted from one. -/
def extract (i : Invocation) (path : String) (line column : Int) : Act Ending := do
  let d ← i.load path
  if (d.lineCount : Int) < line then return lineTooLarge path d
  match referenceAt (← lineAt d (line - 1)) (column - 1) with
  | some r => i.showReference r
  | none =>
      if i.json then
        i.answer "extract" [("verdict", .str "no reference")] [("match", .null)]
      else return .refused (.notFound ("No reference at " ++ placeText path line column))

end RefNav.Invocation
