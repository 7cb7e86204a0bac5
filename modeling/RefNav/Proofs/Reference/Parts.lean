import RefNav.Proofs.Reference.Recognition

/-! # Parts of references

A reference is made of names: a label and a routine, a routine, a macro, or a class with an
optional member.  What a shape takes from a text determines these names, and its query and
symbol are put together from them again.  Conversely every text that is made of such names is
taken as a whole when it stands alone.
-/

namespace RefNav

open RefNav.Text RefNav.Shape
open scoped Computability

/-- A query as it stands in a line: a label call begins with two dollar signs that its query
leaves out. -/
def Kind.inFull : Kind → List Char → List Char
  | .labelCall, query => '$' :: '$' :: query
  | _, query => query

/-- The names that a reference of a shape is made of. -/
inductive Parts : Kind → Type where
  | labelCall (label routine : List Char) (hlabel : label ∈ Grammar.name isHead)
      (hroutine : routine ∈ Grammar.dotted isHead) : Parts .labelCall
  | routine (name : List Char) (hname : '^' :: name ∈ Grammar.routine) : Parts .routine
  | macroCall (name : List Char) (hname : '$' :: '$' :: '$' :: name ∈ Grammar.macroCall) :
      Parts .macroCall
  | classRef (name : List Char) (member : Option (List Char))
      (hname : name ∈ Grammar.dotted isFoldedHead)
      (hmember : ∀ m ∈ member, m ∈ Grammar.name isFoldedHead) : Parts .classRef

/-- The texts of an optional member with a given name. -/
def Grammar.memberTexts (member : Option (List Char)) : Language Char :=
  member.elim 1 fun m => blanks * exactly "." * blanks * {m}

namespace Parts

open Grammar (exactly ignoringCase blanks memberTexts classText)

variable {kind : Kind} {w : List Char}

/-- What a server is asked for. -/
def query : Parts kind → List Char
  | labelCall label name _ _ => label ++ '^' :: name
  | routine name _ => '^' :: name
  | macroCall name _ => '$' :: '$' :: '$' :: name
  | classRef name member _ _ => classText name member

/-- The name of the routine, macro or class. -/
def symbol : Parts kind → List Char
  | labelCall _ name _ _ => name
  | routine name _ => name
  | macroCall name _ => name
  | classRef name _ _ _ => name

/-- The texts that are made of these names. -/
def texts : Parts kind → Language Char
  | labelCall label name _ _ => exactly "$$" * {label} * exactly "^" * {name}
  | routine name _ => exactly "^" * {name}
  | macroCall name _ => exactly "$$$" * {name}
  | classRef name member _ _ =>
      exactly "##" * ignoringCase "class" * blanks * exactly "(" * blanks * {name} * blanks *
        exactly ")" * memberTexts member

theorem mem_texts_labelCall {label name : List Char} {hlabel : label ∈ Grammar.name isHead}
    {hname : name ∈ Grammar.dotted isHead} :
    w ∈ (labelCall label name hlabel hname).texts ↔
      w = '$' :: '$' :: (label ++ '^' :: name) := by
  simp only [texts, mul_assoc]
  constructor
  · rintro ⟨_, rfl, _, ⟨_, rfl, _, ⟨_, rfl, _, rfl, rfl⟩, rfl⟩, rfl⟩
    rfl
  · rintro rfl
    exact ⟨_, rfl, _, ⟨_, rfl, _, ⟨_, rfl, _, rfl, rfl⟩, rfl⟩, rfl⟩

theorem mem_texts_routine {name : List Char} {hname : '^' :: name ∈ Grammar.routine} :
    w ∈ (routine name hname).texts ↔ w = '^' :: name := by
  constructor
  · rintro ⟨_, rfl, _, rfl, rfl⟩
    rfl
  · rintro rfl
    exact ⟨_, rfl, _, rfl, rfl⟩

theorem mem_texts_macroCall {name : List Char}
    {hname : '$' :: '$' :: '$' :: name ∈ Grammar.macroCall} :
    w ∈ (macroCall name hname).texts ↔ w = '$' :: '$' :: '$' :: name := by
  constructor
  · rintro ⟨_, rfl, _, rfl, rfl⟩
    rfl
  · rintro rfl
    exact ⟨_, rfl, _, rfl, rfl⟩

theorem mem_texts_classRef {name : List Char} {member : Option (List Char)}
    {hname : name ∈ Grammar.dotted isFoldedHead}
    {hmember : ∀ m ∈ member, m ∈ Grammar.name isFoldedHead} :
    w ∈ (classRef name member hname hmember).texts ↔
      ∃ k ∈ ignoringCase "class", ∃ b₁ ∈ blanks, ∃ b₂ ∈ blanks, ∃ b₃ ∈ blanks,
        ∃ back ∈ memberTexts member,
          w = '#' :: '#' :: (k ++ (b₁ ++ '(' :: (b₂ ++ (name ++ (b₃ ++ [')']))))) ++ back := by
  rw [texts, Language.mem_mul]
  constructor
  · rintro ⟨front, hfront, back, hback, rfl⟩
    obtain ⟨k, hk, b₁, h₁, b₂, h₂, _, rfl, b₃, h₃, rfl⟩ := Grammar.mem_classNamed.mp hfront
    exact ⟨k, hk, b₁, h₁, b₂, h₂, b₃, h₃, back, hback, rfl⟩
  · rintro ⟨k, hk, b₁, h₁, b₂, h₂, b₃, h₃, back, hback, rfl⟩
    exact ⟨_, Grammar.mem_classNamed.mpr ⟨k, hk, b₁, h₁, b₂, h₂, name, rfl, b₃, h₃, rfl⟩, back,
      hback, rfl⟩

/-! ## Reading parts back -/

/-- A member that stands alone is read with its name and nothing else. -/
theorem member?_of_mem {member : Option (List Char)}
    (hmember : ∀ m ∈ member, m ∈ Grammar.name isFoldedHead) (h : w ∈ memberTexts member) :
    (member? w).map Prod.fst = member ∧ Grammar.memberPart w = w := by
  cases member with
  | none =>
      obtain rfl : w = [] := h
      exact ⟨rfl, rfl⟩
  | some m =>
      obtain ⟨b₁, h₁, b₂, h₂, _, rfl, hw⟩ := Grammar.mem_memberNamed.mp h
      have read := Grammar.member?_append h₁ h₂ (hmember _ rfl) []
      simp only [← hw, List.append_nil, List.takeWhile_nil, List.dropWhile_nil] at read
      simp [Grammar.memberPart, read]

/-- A text that is made of names is taken as a whole when it stands alone. -/
theorem recognise?_of_mem_texts {parts : Parts kind} (h : w ∈ parts.texts) :
    kind.recognise? w = some { raw := w, query := parts.query, symbol := parts.symbol } := by
  cases parts with
  | labelCall label routine hlabel hroutine =>
      obtain rfl := mem_texts_labelCall.mp h
      have read := Grammar.labelCall?_append hlabel hroutine []
      simpa [Kind.recognise?, query, symbol, dottedTail] using read
  | routine name hname =>
      obtain rfl := mem_texts_routine.mp h
      obtain ⟨sign, c, t, hsign, hc, ht, same⟩ := Grammar.mem_routine.mp hname
      obtain rfl := List.cons.inj same |>.2
      have read := Grammar.routine?_append hsign hc ht []
      simpa [Kind.recognise?, query, symbol, dottedTail] using read
  | macroCall name hname =>
      obtain rfl := mem_texts_macroCall.mp h
      obtain ⟨c, u, hc, hu, same⟩ := Grammar.mem_macroCall.mp hname
      obtain rfl : name = c :: u := by simpa using same
      have read := Grammar.macroCall?_append hc hu []
      simpa [Kind.recognise?, query, symbol] using read
  | classRef name member hname hmember =>
      obtain ⟨k, hk, b₁, h₁, b₂, h₂, b₃, h₃, back, hback, rfl⟩ := mem_texts_classRef.mp h
      obtain ⟨found, whole⟩ := member?_of_mem hmember hback
      have read := Grammar.classRef?_front_append hk h₁ h₂ hname h₃ back
      rwa [found, whole] at read

/-- The names are determined by the query and the symbol that are put together from them. -/
theorem eq_of_query {parts other : Parts kind} (hquery : parts.query = other.query)
    (hsymbol : parts.symbol = other.symbol) : parts = other := by
  cases parts with
  | labelCall label name hlabel hname =>
      cases other with
      | labelCall label' name' hlabel' hname' =>
          obtain rfl : name = name' := hsymbol
          obtain rfl : label = label' := List.append_cancel_right hquery
          rfl
  | routine name hname =>
      cases other with
      | routine name' hname' =>
          obtain rfl : name = name' := hsymbol
          rfl
  | macroCall name hname =>
      cases other with
      | macroCall name' hname' =>
          obtain rfl : name = name' := hsymbol
          rfl
  | classRef name member hname hmember =>
      cases other with
      | classRef name' member' hname' hmember' =>
          obtain rfl : name = name' := hsymbol
          have back := List.append_cancel_left hquery
          obtain rfl : member = member' := by
            cases member <;> cases member' <;> simp_all
          rfl

/-- A text is made of the names of one reference only. -/
theorem eq_of_mem_texts {parts other : Parts kind} (h : w ∈ parts.texts) (h' : w ∈ other.texts) :
    parts = other := by
  have same := (recognise?_of_mem_texts h).symm.trans (recognise?_of_mem_texts h')
  obtain ⟨-, hquery, hsymbol⟩ := Hit.mk.inj (Option.some.inj same)
  exact eq_of_query hquery hsymbol

/-- What is read as a member has the name that is read. -/
theorem memberPart_mem_memberTexts (cs : List Char) :
    (∀ m ∈ (member? cs).map Prod.fst, m ∈ Grammar.name isFoldedHead) ∧
      Grammar.memberPart cs ∈ memberTexts ((member? cs).map Prod.fst) := by
  unfold Grammar.memberPart
  cases read : member? cs with
  | none => exact ⟨nofun, rfl⟩
  | some found =>
      obtain ⟨b₁, h₁, b₂, h₂, hm, rfl⟩ := Grammar.member?_eq_some read
      refine ⟨fun m hm' => ?_, ?_⟩
      · obtain rfl : found.1 = m := Option.some.inj hm'
        exact hm
      · dsimp only
        rw [Grammar.take_length_sub]
        exact Grammar.mem_memberNamed.mpr ⟨b₁, h₁, b₂, h₂, found.1, rfl, rfl⟩

/-- What a shape takes is made of names, and so are its query and its symbol. -/
theorem exists_of_recognise? {cs : List Char} {hit : Hit} (h : kind.recognise? cs = some hit) :
    ∃ parts : Parts kind, hit.raw ∈ parts.texts ∧ hit.query = parts.query ∧
      hit.symbol = parts.symbol := by
  cases kind with
  | labelCall =>
      simp only [Kind.recognise?, labelCall?, Option.bind_eq_bind, Option.bind_eq_some_iff,
        Option.pure_def, Option.some.injEq, Prod.exists] at h
      obtain ⟨_, _, _, _, label, _, hlabel, _, _, routine, _, hroutine, rfl⟩ := h
      exact ⟨.labelCall label routine (Grammar.mem_name_of_name? hlabel)
        (Grammar.mem_dotted_of_dotted? hroutine), mem_texts_labelCall.mpr rfl, rfl, rfl⟩
  | routine =>
      have mem := Grammar.mem_routine_of_routine? h
      simp only [Kind.recognise?, routine?, Option.bind_eq_bind, Option.bind_eq_some_iff,
        Option.pure_def, Option.some.injEq] at h
      obtain ⟨_, _, name, _, rfl⟩ := h
      exact ⟨.routine name mem, mem_texts_routine.mpr rfl, rfl, rfl⟩
  | macroCall =>
      have mem := Grammar.mem_macroCall_of_macroCall? h
      simp only [Kind.recognise?, macroCall?, Option.bind_eq_bind, Option.bind_eq_some_iff,
        Option.pure_def, Option.some.injEq] at h
      obtain ⟨_, _, _, _, _, _, name, _, rfl⟩ := h
      exact ⟨.macroCall name mem, mem_texts_macroCall.mpr rfl, rfl, rfl⟩
  | classRef =>
      obtain ⟨k, hk, b₁, h₁, b₂, h₂, n, hn, b₃, h₃, after, rfl⟩ :=
        Grammar.exists_front_of_classRef? h
      have read := Grammar.classRef?_front_append hk h₁ h₂ hn h₃ after
      obtain rfl := Option.some.inj (read.symm.trans h)
      obtain ⟨hmember, hback⟩ := memberPart_mem_memberTexts after
      exact ⟨.classRef n _ hn hmember,
        mem_texts_classRef.mpr ⟨k, hk, b₁, h₁, b₂, h₂, b₃, h₃, _, hback, rfl⟩, rfl, rfl⟩

/-- Every occurrence in a line is made of names. -/
theorem exists_of_mem_occurrences {line : List Char} {r : Reference}
    (h : r ∈ kind.occurrences line) :
    r.kind = kind ∧ ∃ parts : Parts kind, r.raw.toList ∈ parts.texts ∧
      r.query = String.ofList parts.query ∧ r.symbol = String.ofList parts.symbol := by
  obtain ⟨hit, taken, hr⟩ := Kind.mem_occurrences_iff.mp h
  obtain ⟨parts, hraw, hquery, hsymbol⟩ := exists_of_recognise? taken
  rw [hr]
  refine ⟨rfl, parts, ?_, congrArg String.ofList hquery, congrArg String.ofList hsymbol⟩
  rwa [Reference.ofHit, String.toList_ofList]

/-- The query in full is one of the texts with its names. -/
theorem inFull_mem_texts (parts : Parts kind) : kind.inFull parts.query ∈ parts.texts := by
  cases parts with
  | labelCall label name hlabel hname => exact mem_texts_labelCall.mpr rfl
  | routine name hname => exact mem_texts_routine.mpr rfl
  | macroCall name hname => exact mem_texts_macroCall.mpr rfl
  | classRef name member hname hmember =>
      have none : [] ∈ blanks := Grammar.mem_star_oneOf.mpr nofun
      have back : (member.map ('.' :: ·)).getD [] ∈ memberTexts member := by
        cases member with
        | none => rfl
        | some m => exact Grammar.mem_memberNamed.mpr ⟨[], none, [], none, m, rfl, rfl⟩
      have keyword : "class".toList ∈ ignoringCase "class" :=
        Grammar.mem_ignoringCase.mpr (by decide)
      have spelled : "##class(".toList = '#' :: '#' :: ("class".toList ++ ['(']) := by decide
      refine mem_texts_classRef.mpr ⟨_, keyword, [], none, [], none, [], none, _, back, ?_⟩
      unfold Kind.inFull query classText
      generalize "class".toList = k, "##class(".toList = opening at spelled ⊢
      simp [spelled]

end Parts

end RefNav
