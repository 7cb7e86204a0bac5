import RefNav.Chain
import RefNav.Link
import RefNav.Remote.Lookup

/-! # Providing definitions

The definition at a place of a document is looked up on the server first, if a
reference stands there, and then by the fallback, if there is one.
-/

namespace RefNav

/-- How definitions are provided. -/
structure Provider where
  resolver : Resolver
  /-- The connection for a document. -/
  connectionFor : Document → Act Connection
  /-- The caller's own search at a place, and whether it is bound to the caller's token. -/
  fallback : Option (Document → Position → Bool → Act Answer) := none
  /-- Told of the reference for which the server had nothing. -/
  onNoResult : Option (Reference → Act Unit) := none
  /-- Are the steps of each lookup logged? -/
  traced : Bool := false

namespace Provider

/-- Log a step if steps are logged. -/
def note (p : Provider) (message : String) : Act Unit :=
  if p.traced then Act.debug .provider message else return ()

/-- The strategy that asks the server for a reference. -/
def remoteStrategy (resolver : Resolver) (connection : Act Connection)
    (reference : Option Reference) (bound : Bool) : Strategy :=
  { name := "remote"
    ask := do
      match reference with
      | none => return .nothing
      | some r => return .ofOption (← resolver.lookup r.query (← connection) bound none) }

/-- The reference at a place; there is none outside the document. -/
def referenceAt (d : Document) (position : Position) : Option Reference :=
  match d.lineAt position.line with
  | .ok text => RefNav.referenceAt text position.character
  | .error _ => RefNav.referenceAt "" position.character

/-- What happens when the server has nothing for a reference. -/
def reportMiss (p : Provider) (reference : Reference) : Act Unit := do
  match p.onNoResult with
  | some told => told reference
  | none => pure ()
  p.note (if p.fallback.isNone then "Remote lookup returned no result; no fallback available"
    else "Remote lookup returned no result; invoking fallback")

/-- The strategies for a place. -/
def strategies (p : Provider) (d : Document) (position : Position) (reference : Option Reference)
    (bound : Bool) : List Strategy :=
  let remote := if reference.isSome then
      [remoteStrategy p.resolver (p.connectionFor d) reference bound] else []
  let fallback := match p.fallback with
    | some f => [{ name := "fallback", ask := f d position bound }]
    | none => []
  remote ++ fallback

/-- The definition at a place of a document. -/
def define (p : Provider) (d : Document) (position : Position) (bound : Bool) : Act Answer := do
  let reference := referenceAt d position
  if reference.isNone then
    p.note ("No reference at " ++ d.uri ++ ":" ++ Text.showInt position.line ++ ":"
      ++ Text.showInt position.character ++ "; skipping remote lookup")
  let onMiss (s : Strategy) : Act Unit :=
    match reference with
    | some r => if s.name = "remote" then p.reportMiss r else return ()
    | none => return ()
  let answer ← Chain.run onMiss (p.strategies d position reference bound)
  match answer with
  | .one l => p.note ("Resolved definition: " ++ l.uri ++ ":" ++ Text.showInt l.line)
  | _ => pure ()
  return answer

/-- Follow a link: open its document and provide the definition at its place. -/
def follow (p : Provider) (openDocument : String → Act Document) (uri : String)
    (position : Position) (bound : Bool) : Act Answer := do
  let d ← openDocument uri
  p.define d position bound

end Provider

end RefNav
