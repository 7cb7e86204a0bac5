import RefNav.Document
import RefNav.Reference.Extract

/-! # Links

Every reference of a document is a link.  A link carries only its place; it is
resolved when it is followed.
-/

namespace RefNav

/-- A reference together with the line it stands in. -/
structure Placed where
  line : Nat
  reference : Reference
deriving Repr, DecidableEq

/-- All references of a document, by line and place. -/
def Document.references (d : Document) : List Placed :=
  (d.lines.zipIdx).flatMap fun (text, line) => (referencesIn text).map (Placed.mk line ·)

/-- A clickable reference. -/
structure Link where
  /-- The document, line and character at which the link is followed. -/
  uri : String
  line : Nat
  start : Nat
  stop : Nat
  tooltip : String := "Go to Definition"
  query : String
deriving Repr, DecidableEq

/-- The links of a document. -/
def Document.links (d : Document) : List Link :=
  d.references.map fun p =>
    { uri := d.uri
      line := p.line
      start := p.reference.span.start
      stop := p.reference.span.stop
      query := p.reference.query }

/-- The command that follows a link. -/
def Link.commandName : String :=
  "ccsnav.followDefinitionLink"

end RefNav
