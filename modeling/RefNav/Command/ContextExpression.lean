import RefNav.Command.Invocation
import RefNav.Remote.ContextExpression

/-! # Expanding a context expression from the command line

The expression is given or is the text of a line; its expansion is printed with
the line breaks of the document, unless it cannot be encoded.
-/

namespace RefNav.Invocation

/-- The answer to an expansion as JSON. -/
def answerExpansion (i : Invocation) (d : Document) (routine expression : String)
    (e : Expansion) : Act Ending :=
  i.answer "context-expr" [("verdict", .str (if e.ok then "success" else "failed"))]
    [("routine", .str routine), ("expression", .str expression),
     ("text_expression", if e.ok then .ofPoints (e.formatted d.eol) else .null),
     ("message", (Json.str e.message).orElse .null)]

/-- Expand the expression on a line, counted from one, or a given one. -/
def expandContext (i : Invocation) (path : String) (line : Int) (given : Option String) :
    Act Ending := do
  let d ← i.load path
  if (d.lineCount : Int) < line then return lineTooLarge path d
  let text ←
    match given with
    | some expression => pure expression
    | none => lineAt d (line - 1)
  let expression := Text.trimmed text
  let connection ← i.connectionFor d
  if !connection.host.truthy || !connection.port.truthy then
    return .refused (.noConnection Refusal.noConnectionText)
  let settings ← i.settingsFor path
  let expander : Expander := { connect := Endpoint.ofConnection settings.strictSsl }
  let routine := (PathName.ofString d.uri).name
  let e ← expander.expand routine expression connection false
  if i.json then i.answerExpansion d routine expression e
  else if e.ok then
    match Text.characters (e.formatted d.eol) with
    | .ok text =>
        Act.print (String.ofList text)
        return .done
    | .error unpaired => throw (.unencodable unpaired)
  else return .refused (.general e.message)

end RefNav.Invocation
