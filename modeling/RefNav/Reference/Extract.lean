import RefNav.Reference.Shape

/-! # References of a line

The occurrences of one shape are found by trying every offset from left to
right and going on behind each occurrence.  The reference under a cursor is the
first occurrence, by shape and then by place, that covers it.  The references
of a line are the occurrences that do not share a character with one of a shape
of higher priority.
-/

namespace RefNav

/-- The occurrences found by trying each offset; `skip` counts the characters that
the occurrence before still covers. -/
def scan (recognise : List Char → Option Hit) : Nat → Nat → List Char → List (Nat × Hit)
  | _, _, [] => []
  | skip + 1, offset, _ :: rest => scan recognise skip (offset + 1) rest
  | 0, offset, c :: rest =>
      match recognise (c :: rest) with
      | some hit => (offset, hit) :: scan recognise (hit.raw.length - 1) (offset + 1) rest
      | none => scan recognise 0 (offset + 1) rest

/-- The reference that an occurrence makes. -/
def Reference.ofHit (kind : Kind) (found : Nat × Hit) : Reference :=
  { raw := String.ofList found.2.raw
    query := String.ofList found.2.query
    kind := kind
    symbol := String.ofList found.2.symbol
    span := ⟨found.1, found.1 + found.2.raw.length⟩ }

/-- The occurrences of one shape in a line, from left to right. -/
def Kind.occurrences (kind : Kind) (line : List Char) : List Reference :=
  (scan kind.recognise? 0 0 line).map (Reference.ofHit kind)

/-- The occurrences of all shapes in a line, by shape and then by place. -/
def occurrences (line : List Char) : List Reference :=
  Kind.all.flatMap fun kind => kind.occurrences line

/-- The reference under a cursor. -/
def referenceAt (line : String) (offset : Int) : Option Reference :=
  (occurrences line.toList).find? fun r => r.span.covers offset

/-- Keep a reference unless it shares a character with one that is kept already. -/
def keepDisjoint (kept : List Reference) (r : Reference) : List Reference :=
  if kept.any fun k => r.span.overlaps k.span then kept else kept ++ [r]

/-- The references of a line, by place. -/
def referencesIn (line : String) : List Reference :=
  ((occurrences line.toList).foldl keepDisjoint []).mergeSort
    fun a b => a.span.start ≤ b.span.start

end RefNav
