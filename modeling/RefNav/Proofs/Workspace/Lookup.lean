import RefNav.Proofs.Reference.Parts
import RefNav.Proofs.Workspace.LabelCall

/-! # Searching by names

A lookup takes the query of a reference apart again, with patterns that are not those of the
shapes.  It comes to what a search with the names of the reference comes to: where a class
query is read, its names are the ones it was put together from, and where a label is not
accepted, no line has it either.
-/

namespace RefNav

open RefNav.Text RefNav.Shape
open scoped Computability

/-! ## Queries taken apart -/

/-- The query of a class reference is taken apart into the names it was put together from. -/
theorem classQuery?_classText {name : List Char} {member : Option (List Char)}
    (hname : name ∈ Grammar.dotted isFoldedHead)
    (hmember : ∀ m ∈ member, m ∈ Grammar.name isFoldedHead) :
    classQuery? (Grammar.classText name member) = some (name, member) := by
  let back := (member.map ('.' :: ·)).getD []
  have keyword : "##class(".toList.map fold = "##class(".toList := by decide
  have opened : dropKeyword? "##class(".toList (Grammar.classText name member) =
      some (name ++ ')' :: back) := by
    have dropped := Grammar.dropKeyword?_append "##class(".toList (name ++ ')' :: back)
    rw [keyword] at dropped
    have text : Grammar.classText name member = "##class(".toList ++ (name ++ ')' :: back) := by
      unfold Grammar.classText
      generalize "##class(".toList = opening
      simp [back]
    rwa [text]
  have inside : ∀ c ∈ name, decide (c ≠ ')') = true := by
    have unclosed : ')' ∉ name :=
      Grammar.not_mem_dotted (by decide) (by decide) (by decide) hname
    intro c hc
    simpa using ne_of_mem_of_not_mem hc unclosed
  have nonempty : name ≠ [] := by
    obtain ⟨c, tail, _, _, rfl⟩ := Grammar.mem_dotted.mp hname
    exact List.cons_ne_nil c tail
  rw [classQuery?, opened]
  simp only [Option.bind_eq_bind, Option.bind_some, List.takeWhile_append_of_pos inside,
    List.dropWhile_append_of_pos inside]
  cases member with
  | none => simp [back, dropChar?, nonempty, Address.isSegmentEnd]
  | some m =>
      have named := hmember m rfl
      have whole : wholeLine? m = some m := by
        have noFeed : '\n' ∉ m := Grammar.not_mem_name (by decide) (by decide) named
        obtain ⟨c, u, _, _, rfl⟩ := Grammar.mem_name.mp named
        exact wholeLine?_eq_self (List.cons_ne_nil c u) noFeed
      simp [back, dropChar?, nonempty, Address.isSegmentEnd, whole]

/-- A label, if the reference has one, has a letter where a name begins. -/
def Parts.Lettered {kind : Kind} : Parts kind → Prop
  | labelCall label _ _ _ => RefNav.Lettered label
  | _ => True

namespace Index

variable {kind : Kind} {i : Index} {t : FileTree}

/-- The search with the names of a reference. -/
def searchFor (i : Index) (t : FileTree) : Parts kind → Option Location × List LogRecord
  | .labelCall label routine _ _ => i.findLabel t (String.ofList label) (String.ofList routine)
  | .routine name _ =>
      ((i.findRoutine (String.ofList name)).map fun path => locate t path 0, [])
  | .macroCall name _ => i.findMacro t (String.ofList name)
  | .classRef name member _ _ =>
      i.findMember t (String.ofList name) (member.map String.ofList)

/-! ## Lookup and search -/

/-- A lookup is the search with the names that query and symbol are put together from, the log
included, if its label is accepted. -/
theorem lookup_query_of_lettered {parts : Parts kind} (lettered : parts.Lettered) :
    i.lookup t kind (String.ofList parts.query) (String.ofList parts.symbol) =
      i.searchFor t parts := by
  cases parts with
  | labelCall label routine hlabel hroutine => exact lookup_of_lettered lettered hlabel hroutine
  | routine name hname => rfl
  | macroCall name hname => rfl
  | classRef name member hname hmember =>
      rw [lookup, String.toList_ofList, Parts.query, classQuery?_classText hname hmember]
      rfl

/-- A label that is not accepted is found neither way. -/
theorem lookup_query_of_not_lettered {parts : Parts kind} (unlettered : ¬ parts.Lettered) :
    i.lookup t kind (String.ofList parts.query) (String.ofList parts.symbol) = (none, []) ∧
      (i.searchFor t parts).1 = none := by
  cases parts with
  | labelCall label routine hlabel hroutine =>
      exact ⟨lookup_of_not_lettered unlettered hlabel routine,
        findLabel_of_not_lettered unlettered (String.ofList routine)⟩
  | routine name hname => exact absurd trivial unlettered
  | macroCall name hname => exact absurd trivial unlettered
  | classRef name member hname hmember => exact absurd trivial unlettered

/-- A reference under a cursor is made of names in one way, and looking it up comes to what the
search with these names comes to.  Both write the same log, unless its label has no letter
where a name begins; then both find nothing, and the lookup reads no file. -/
theorem lookup_eq_searchFor (i : Index) (t : FileTree) (line : String) (offset : Int)
    (r : Reference) (found : referenceAt line offset = some r) :
    (∃! parts : Parts r.kind, r.raw.toList ∈ parts.texts) ∧
    ∀ parts : Parts r.kind, r.raw.toList ∈ parts.texts →
      r.symbol.toList = parts.symbol ∧
      (i.lookup t r.kind r.query r.symbol).1 = (i.searchFor t parts).1 ∧
      (parts.Lettered → i.lookup t r.kind r.query r.symbol = i.searchFor t parts) ∧
      (¬ parts.Lettered →
        i.lookup t r.kind r.query r.symbol = (none, []) ∧ (i.searchFor t parts).1 = none) := by
  have occurs := mem_kind_occurrences (mem_occurrences_of_referenceAt found)
  obtain ⟨_, parts, mem, query, symbol⟩ := Parts.exists_of_mem_occurrences occurs
  refine ⟨⟨parts, mem, fun other h => Parts.eq_of_mem_texts h mem⟩, fun other h => ?_⟩
  obtain rfl := Parts.eq_of_mem_texts h mem
  rw [query, symbol, String.toList_ofList]
  refine ⟨rfl, ?_, lookup_query_of_lettered, lookup_query_of_not_lettered⟩
  by_cases lettered : other.Lettered
  · rw [lookup_query_of_lettered lettered]
  · obtain ⟨looked, searched⟩ := lookup_query_of_not_lettered lettered
    rw [looked, searched]

/-- A class with blanks between its names, and a label that is not accepted although a line
begins with it. -/
theorem lookup_eq_searchFor_spread :
    let t : FileTree :=
      { entries := [(["ws"], .directory),
          (["ws", "C.cls"], .file "Class P.C\nClassMethod M()\n".toUTF8.toList),
          (["ws", "R.mac"], .file "%1 quit\n".toUTF8.toList)] }
    let i : Index :=
      { root := ⟨"/", ["ws"]⟩
        routines := [("R", ⟨"/", ["ws", "R.mac"]⟩)]
        classes := [("P.C", ⟨"/", ["ws", "C.cls"]⟩)] }
    let r : Reference := ⟨"##Class( P.C ) .M", "##class(P.C).M", .classRef, "P.C", ⟨0, 17⟩⟩
    let s : Reference := ⟨"$$%1^R", "%1^R", .labelCall, "R", ⟨0, 6⟩⟩
    referenceAt "##Class( P.C ) .M" 3 = some r ∧
      i.lookup t .classRef r.query r.symbol = i.findMember t "P.C" (some "M") ∧
      (i.findMember t "P.C" (some "M")).1 = some ⟨"/ws/C.cls", 1, 0⟩ ∧
    referenceAt "$$%1^R" 2 = some s ∧
      i.lookup t .labelCall s.query s.symbol = (none, []) ∧ (i.findLabel t "%1" "R").1 = none := by
  intro t i r s
  have foundR : referenceAt "##Class( P.C ) .M" 3 = some r := by decide +kernel
  have foundS : referenceAt "$$%1^R" 2 = some s := by decide +kernel
  let classParts : Parts r.kind := .classRef ['P', '.', 'C'] (some ['M'])
    (Grammar.mem_dotted.mpr ⟨'P', ['.', 'C'], by decide, .dot (by decide) .nil, rfl⟩)
    fun m hm => Grammar.mem_name.mpr ⟨'M', [], by decide, nofun, (Option.some.inj hm).symm⟩
  let callParts : Parts s.kind := .labelCall ['%', '1'] ['R']
    (Grammar.mem_name.mpr ⟨'%', ['1'], by decide, List.all_eq_true.mp (by decide), rfl⟩)
    (Grammar.mem_dotted.mpr ⟨'R', [], by decide, .nil, rfl⟩)
  have classMem : r.raw.toList ∈ classParts.texts := by
    have blank : [' '] ∈ Grammar.blanks :=
      Grammar.mem_star_oneOf.mpr (List.all_eq_true.mp (by decide))
    have none : [] ∈ Grammar.blanks := Grammar.mem_star_oneOf.mpr nofun
    exact Parts.mem_texts_classRef.mpr
      ⟨"Class".toList, Grammar.mem_ignoringCase.mpr (by decide), [], none, [' '], blank, [' '],
        blank, [' ', '.', 'M'],
        Grammar.mem_memberNamed.mpr ⟨[' '], blank, [], none, ['M'], rfl, rfl⟩, by decide⟩
  have callMem : s.raw.toList ∈ callParts.texts := Parts.mem_texts_labelCall.mpr (by decide)
  have unlettered : ¬ callParts.Lettered := by
    rintro ⟨sign, c, after, rfl | rfl, letter, same⟩
    · obtain ⟨rfl, -⟩ := List.cons.inj same
      exact absurd letter (by decide)
    · obtain ⟨rfl, -⟩ := List.cons.inj (List.cons.inj same).2
      exact absurd letter (by decide)
  obtain ⟨-, -, looked, -⟩ := (lookup_eq_searchFor i t _ 3 r foundR).2 classParts classMem
  obtain ⟨-, -, -, missed⟩ := (lookup_eq_searchFor i t _ 2 s foundS).2 callParts callMem
  exact ⟨foundR, looked trivial, by decide +kernel, foundS, missed unlettered⟩

end Index

end RefNav
