import Mathlib.Data.Prod.Lex
import RefNav.Proofs.Workspace.LabelCall
import RefNav.Proofs.Workspace.Lookup
import RefNav.Proofs.Workspace.Scan

/-! # Definitions of macros and declarations of members

The lines that define a macro or declare a member form a language for every name.  A macro is
looked up at the first such line, by the order of the include files and then of their lines, and
a member at the first such line of the file of its class.
-/

namespace RefNav

open RefNav.Text RefNav.Shape
open scoped Computability

/-! ## Lines that define or declare a name -/

namespace Grammar

/-- At least one blank. -/
def gap : Language Char :=
  oneOf isBlank * blanks

/-- Texts that do not go on with a character of a class. -/
def stopping (p : Char → Bool) : Language Char :=
  {w | Stops p w}

/-- Lines that define a macro: the name is as long as it can be. -/
def definition (name : List Char) : Language Char :=
  blanks * (ignoringCase "#define" + ignoringCase "#def1arg") * gap * {name} *
    stopping isFoldedMacroChar

/-- Lines that declare a method. -/
def declaration (name : List Char) : Language Char :=
  blanks * (ignoringCase "method" + ignoringCase "classmethod") * gap * {name} * blanks *
    exactly "(" * ⊤

variable {name line cs rest : List Char} {c : Char}

theorem mem_gap {g : List Char} : g ∈ gap ↔ ∃ c, isBlank c = true ∧ ∃ b ∈ blanks, g = c :: b := by
  constructor
  · rintro ⟨_, ⟨c, hc, rfl⟩, b, hb, rfl⟩
    exact ⟨c, hc, b, hb, rfl⟩
  · rintro ⟨c, hc, b, hb, rfl⟩
    exact ⟨[c], ⟨c, hc, rfl⟩, b, hb, rfl⟩

theorem mem_definition : line ∈ definition name ↔ ∃ b ∈ blanks,
    ∃ k ∈ ignoringCase "#define" + ignoringCase "#def1arg", ∃ g ∈ gap, ∃ rest,
      Stops isFoldedMacroChar rest ∧ line = b ++ (k ++ (g ++ (name ++ rest))) := by
  simp only [definition, mul_assoc]
  constructor
  · rintro ⟨b, hb, _, ⟨k, hk, _, ⟨g, hg, _, ⟨_, rfl, rest, stops, rfl⟩, rfl⟩, rfl⟩, rfl⟩
    exact ⟨b, hb, k, hk, g, hg, rest, stops, rfl⟩
  · rintro ⟨b, hb, k, hk, g, hg, rest, stops, rfl⟩
    exact ⟨b, hb, _, ⟨k, hk, _, ⟨g, hg, _, ⟨_, rfl, rest, stops, rfl⟩, rfl⟩, rfl⟩, rfl⟩

theorem mem_declaration : line ∈ declaration name ↔ ∃ b ∈ blanks,
    ∃ k ∈ ignoringCase "method" + ignoringCase "classmethod", ∃ g ∈ gap, ∃ b' ∈ blanks, ∃ rest,
      line = b ++ (k ++ (g ++ (name ++ (b' ++ '(' :: rest)))) := by
  simp only [declaration, mul_assoc]
  constructor
  · rintro ⟨b, hb, _, ⟨k, hk, _, ⟨g, hg, _, ⟨_, rfl, _, ⟨b', hb', _, ⟨_, rfl, rest, _, rfl⟩, rfl⟩,
      rfl⟩, rfl⟩, rfl⟩, rfl⟩
    exact ⟨b, hb, k, hk, g, hg, b', hb', rest, rfl⟩
  · rintro ⟨b, hb, k, hk, g, hg, b', hb', rest, rfl⟩
    exact ⟨b, hb, _, ⟨k, hk, _, ⟨g, hg, _, ⟨_, rfl, _, ⟨b', hb', _, ⟨_, rfl, rest, trivial, rfl⟩,
      rfl⟩, rfl⟩, rfl⟩, rfl⟩, rfl⟩

theorem stops_dropWhile (p : Char → Bool) (cs : List Char) : Stops p (cs.dropWhile p) := by
  intro c first
  have stopped := List.head?_dropWhile_not p cs
  rw [Option.mem_def.mp first] at stopped
  simpa using stopped

/-- Of two keywords that begin differently the one that is there is dropped. -/
theorem dropKeyword?_or_eq_some_iff {j k : Char} {keyword other : List Char} (apart : j ≠ k) :
    (dropKeyword? (j :: keyword) cs).or (dropKeyword? (k :: other) cs) = some rest ↔
      ∃ w, (w.map fold = j :: keyword ∨ w.map fold = k :: other) ∧ cs = w ++ rest := by
  constructor
  · intro h
    rcases Option.or_eq_some_iff.mp h with first | ⟨-, second⟩
    · obtain ⟨w, same, split⟩ := dropKeyword?_eq_some first
      exact ⟨w, .inl same, split⟩
    · obtain ⟨w, same, split⟩ := dropKeyword?_eq_some second
      exact ⟨w, .inr same, split⟩
  · rintro ⟨w, first | second, rfl⟩
    · rw [← first, dropKeyword?_append, Option.some_or]
    · have missing : dropKeyword? (j :: keyword) (w ++ rest) = none := by
        obtain ⟨c, u, rfl, same, -⟩ := List.map_eq_cons_iff.mp second
        simp [dropKeyword?, same, apart.symm]
      rw [missing, Option.none_or, ← second, dropKeyword?_append]

theorem dropBlanks?_append {g : List Char} (hg : g ∈ gap) (stops : Stops isBlank rest) :
    dropBlanks? (g ++ rest) = some rest := by
  obtain ⟨c, hc, b, hb, rfl⟩ := mem_gap.mp hg
  simp [dropBlanks?, hc, trimStart_append hb stops]

theorem exists_gap (h : dropBlanks? cs = some rest) : ∃ g ∈ gap, cs = g ++ rest := by
  cases cs with
  | nil => cases h
  | cons c cs =>
      simp only [dropBlanks?, Option.ite_none_right_eq_some, Option.some.injEq] at h
      obtain ⟨hc, rfl⟩ := h
      obtain ⟨b, hb, split⟩ := exists_blanks cs
      exact ⟨c :: b, mem_gap.mpr ⟨c, hc, b, hb, rfl⟩, by rw [List.cons_append, ← split]⟩

/-- A keyword that begins with a letter or a number sign does not begin with a blank. -/
theorem stops_keyword {k : Char} {keyword w : List Char} (h : w.map fold = k :: keyword)
    (solid : k = '#' ∨ isLetter k = true) (rest : List Char) : Stops isBlank (w ++ rest) := by
  obtain ⟨c, u, rfl, same, -⟩ := List.map_eq_cons_iff.mp h
  rintro _ ⟨⟩
  rcases solid with rfl | letter
  · rw [eq_hash_of_fold same]
    decide
  · refine not_blank_of_isFoldedHead ?_
    simp [isFoldedHead, isFoldedLetter, same, letter]

theorem dropDirective_iff :
    ((dropKeyword? "#def".toList cs).bind fun afterDef =>
        (dropKeyword? "ine".toList afterDef).or (dropKeyword? "1arg".toList afterDef)) = some rest ↔
      ∃ k ∈ ignoringCase "#define" + ignoringCase "#def1arg", cs = k ++ rest := by
  have spelled : "#define".toList = "#def".toList ++ "ine".toList ∧
      "#def1arg".toList = "#def".toList ++ "1arg".toList := by decide
  simp only [Language.mem_add, mem_ignoringCase, spelled, List.map_eq_append_iff]
  have either {afterDef : List Char} :
      (dropKeyword? "ine".toList afterDef).or (dropKeyword? "1arg".toList afterDef) = some rest ↔
        ∃ w, (w.map fold = "ine".toList ∨ w.map fold = "1arg".toList) ∧ afterDef = w ++ rest :=
    dropKeyword?_or_eq_some_iff (by decide)
  constructor
  · intro h
    obtain ⟨afterDef, front, back⟩ := Option.bind_eq_some_iff.mp h
    obtain ⟨v, same, rfl⟩ := dropKeyword?_eq_some front
    obtain ⟨w, ends | ends, rfl⟩ := either.mp back
    · exact ⟨v ++ w, .inl ⟨v, w, rfl, same, ends⟩, (List.append_assoc _ _ _).symm⟩
    · exact ⟨v ++ w, .inr ⟨v, w, rfl, same, ends⟩, (List.append_assoc _ _ _).symm⟩
  · rintro ⟨_, ⟨v, w, rfl, same, ends⟩ | ⟨v, w, rfl, same, ends⟩, rfl⟩ <;>
      rw [List.append_assoc, ← same, dropKeyword?_append, Option.bind_some]
    · exact either.mpr ⟨w, .inl ends, rfl⟩
    · exact either.mpr ⟨w, .inr ends, rfl⟩

/-- A line defines a macro if it is one of the lines that do. -/
theorem definedMacro?_eq_some_iff {u : List Char} (head : isFoldedHead c = true)
    (tail : ∀ d ∈ u, isFoldedMacroChar d = true) :
    definedMacro? line = some (c :: u) ↔ line ∈ definition (c :: u) := by
  have directive {cs rest : List Char} := @dropDirective_iff cs rest
  rw [mem_definition]
  unfold definedMacro?
  simp only [Option.bind_eq_bind]
  constructor
  · intro h
    obtain ⟨afterDef, front, more⟩ := Option.bind_eq_some_iff.mp h
    obtain ⟨afterDirective, back, more⟩ := Option.bind_eq_some_iff.mp more
    obtain ⟨afterBlanks, blanked, named⟩ := Option.bind_eq_some_iff.mp more
    obtain ⟨b, hb, start⟩ := exists_blanks line
    obtain ⟨k, hk, keyword⟩ := directive.mp (Option.bind_eq_some_iff.mpr ⟨afterDef, front, back⟩)
    obtain ⟨g, hg, rfl⟩ := exists_gap blanked
    cases afterBlanks with
    | nil => cases named
    | cons d after =>
        simp only [Option.ite_none_right_eq_some, Option.some.injEq, List.cons.injEq] at named
        obtain ⟨-, rfl, rfl⟩ := named
        refine ⟨b, hb, k, hk, g, hg, after.dropWhile isFoldedMacroChar, stops_dropWhile _ _, ?_⟩
        rw [List.cons_append, List.takeWhile_append_dropWhile, ← keyword, ← start]
  · rintro ⟨b, hb, k, hk, g, hg, rest, stops, rfl⟩
    -- Neither the keyword nor the name begins with a blank, so each run of blanks ends there.
    have solid : Stops isBlank (k ++ (g ++ (c :: u ++ rest))) := by
      rcases hk with define | define1
      · exact stops_keyword define (.inl rfl) _
      · exact stops_keyword define1 (.inl rfl) _
    have named : Stops isBlank (c :: u ++ rest) := by
      rintro _ ⟨⟩
      exact not_blank_of_isFoldedHead head
    obtain ⟨afterDef, front, back⟩ := Option.bind_eq_some_iff.mp (directive.mpr ⟨k, hk, rfl⟩)
    rw [trimStart_append hb solid, front, Option.bind_some, back, Option.bind_some,
      dropBlanks?_append hg named, Option.bind_some]
    simp [head, takeWhile_append tail stops]

theorem isFoldedLetter_of_isLetter (h : isLetter c = true) : isFoldedLetter c = true := by
  have ranges : 97 ≤ c.toNat ∧ c.toNat ≤ 122 ∨ 65 ≤ c.toNat ∧ c.toNat ≤ 90 := by
    simpa [isLetter, Char.le_def, UInt32.le_iff_toNat_le] using h
  have all : ∀ n < 128, isLetter (Char.ofNat n) = true → isFoldedLetter (Char.ofNat n) = true := by
    decide +kernel
  have known := all c.toNat (by omega)
  rw [Char.ofNat_toNat] at known
  exact known h

theorem isFoldedLetterOrDigit_of_isLetterOrDigit (h : isLetterOrDigit c = true) :
    isFoldedLetterOrDigit c = true := by
  rcases Bool.or_eq_true_iff.mp h with letter | digit
  · simp [isFoldedLetterOrDigit, isFoldedLetter_of_isLetter letter]
  · simp [isFoldedLetterOrDigit, digit]

theorem isFolded_of_macroCall (h : '$' :: '$' :: '$' :: name ∈ macroCall) :
    ∃ c u, isFoldedHead c = true ∧ (∀ d ∈ u, isFoldedMacroChar d = true) ∧ name = c :: u := by
  obtain ⟨c, u, head, tail, same⟩ := mem_macroCall.mp h
  refine ⟨c, u, ?_, fun d hd => ?_, by simpa using same⟩
  · rcases Bool.or_eq_true_iff.mp head with percent | letter
    · simp [isFoldedHead, percent]
    · simp [isFoldedHead, isFoldedLetter_of_isLetter letter]
  · rcases Bool.or_eq_true_iff.mp (tail d hd) with sign | other
    · simp [isFoldedMacroChar, sign]
    · simp [isFoldedMacroChar, isFoldedLetterOrDigit_of_isLetterOrDigit other]

theorem not_isFoldedLetterOrDigit_of_isBlank (h : isBlank c = true) :
    isFoldedLetterOrDigit c = false := by
  have apart : (blankChars.all fun b => !isFoldedLetterOrDigit b) = true := by decide +kernel
  simpa using List.all_eq_true.mp apart c (mem_blankChars h)

/-- A line declares a member with a plain name if it is one of the lines that do. -/
theorem declaredMember?_eq_some_iff (plain : name ∈ Grammar.plain) :
    declaredMember? line = some name ↔ line ∈ declaration name := by
  have keyword {cs rest : List Char} :
      (dropKeyword? "classmethod".toList cs).or (dropKeyword? "method".toList cs) = some rest ↔
        ∃ w, (w.map fold = "classmethod".toList ∨ w.map fold = "method".toList) ∧ cs = w ++ rest :=
    dropKeyword?_or_eq_some_iff (by decide)
  have percent : isFoldedLetter '%' = false := by decide
  rw [mem_declaration]
  unfold declaredMember?
  simp only [Option.bind_eq_bind]
  constructor
  · intro h
    obtain ⟨afterKeyword, known, more⟩ := Option.bind_eq_some_iff.mp h
    obtain ⟨afterBlanks, blanked, more⟩ := Option.bind_eq_some_iff.mp more
    obtain ⟨⟨found, rest⟩, named, opened⟩ := Option.bind_eq_some_iff.mp more
    simp only [Option.ite_none_right_eq_some, Option.some.injEq] at opened
    obtain ⟨opening, rfl⟩ := opened
    obtain ⟨b, hb, start⟩ := exists_blanks line
    obtain ⟨k, hk, split⟩ := keyword.mp known
    obtain ⟨g, hg, rfl⟩ := exists_gap blanked
    obtain ⟨sign, c, after, hsign, hc, rfl, hname⟩ := plainName?_eq_some named
    rw [plainName?_append_of percent hsign hc] at named
    obtain ⟨b', hb', space⟩ := exists_blanks rest
    obtain ⟨more, paren⟩ := List.head?_eq_some_iff.mp opening
    have behind : after.dropWhile isFoldedLetterOrDigit = rest :=
      (Prod.mk.inj (Option.some.inj named)).2
    refine ⟨b, hb, k, hk.symm, g, hg, b', hb', more, ?_⟩
    rw [← paren, ← space, ← behind, hname, List.append_assoc, List.cons_append,
      List.takeWhile_append_dropWhile, ← split, ← start]
  · rintro ⟨b, hb, k, hk, g, hg, b', hb', rest, rfl⟩
    obtain ⟨sign, c, u, hsign, hc, hu, rfl⟩ := mem_plain.mp plain
    have letter := isFoldedLetter_of_isLetter hc
    have solid : Stops isBlank (k ++ (g ++ (sign ++ c :: u ++ (b' ++ '(' :: rest)))) := by
      rcases hk with method | classMethod
      · exact stops_keyword method (.inr (by decide)) _
      · exact stops_keyword classMethod (.inr (by decide)) _
    have named : Stops isBlank (sign ++ c :: u ++ (b' ++ '(' :: rest)) := by
      rcases hsign with rfl | rfl
      · rintro _ ⟨⟩
        exact not_blank_of_isFoldedHead (by simp [isFoldedHead, letter])
      · rintro _ ⟨⟩
        decide
    have paren : Stops isBlank ('(' :: rest) := by
      rintro _ ⟨⟩
      decide
    have follows : ∀ d ∈ u, isFoldedLetterOrDigit d = true :=
      fun d hd => isFoldedLetterOrDigit_of_isLetterOrDigit (hu d hd)
    -- The name is read as a whole: what follows is a blank or the parenthesis.
    have ends : Stops isFoldedLetterOrDigit (b' ++ '(' :: rest) := by
      cases b' with
      | nil =>
          rintro _ ⟨⟩
          decide
      | cons d b' =>
          rintro _ ⟨⟩
          exact not_isFoldedLetterOrDigit_of_isBlank (mem_star_oneOf.mp hb' d List.mem_cons_self)
    have read : plainName? isFoldedLetter isFoldedLetterOrDigit
        (sign ++ c :: u ++ (b' ++ '(' :: rest)) = some (sign ++ c :: u, b' ++ '(' :: rest) := by
      rw [List.append_assoc, List.cons_append, plainName?_append_of percent hsign letter,
        dropWhile_append follows ends, takeWhile_append follows ends]
    rw [trimStart_append hb solid, keyword.mpr ⟨k, hk.symm, rfl⟩, Option.bind_some,
      dropBlanks?_append hg named, Option.bind_some, read, Option.bind_some,
      trimStart_append hb' paren]
    simp

end Grammar

/-! ## The first of the lines -/

namespace Index

variable {t : FileTree} {i : Index} {root path : PathName} {name : String} {n : Nat}

/-- The first line with a property, by the order of the files and then of their lines. -/
structure FirstLine (property : PathName → Nat → Prop) (path : PathName) (n : Nat) : Prop where
  holds : property path n
  least : ∀ other m, property other m → toLex (path.parts, n) ≤ toLex (other.parts, m)

/-- The text of a line of the file at a path below the root. -/
def IsLine (t : FileTree) (root path : PathName) (n : Nat) (text : String) : Prop :=
  ∃ relative place bytes, path = root.join relative ∧
    t.find root.toString = .ok (place, .directory) ∧
    t.get? (place ++ relative) = some (.file bytes) ∧
    (splitLines (String.ofList (Utf8.decodeLenient bytes)))[n]? = some text

/-- A line of an include file that defines the macro. -/
def DefinesMacro (t : FileTree) (root : PathName) (name : String) (path : PathName) (n : Nat) :
    Prop :=
  IsInclude t root path ∧
    ∃ text, IsLine t root path n text ∧ text.toList ∈ Grammar.definition name.toList

/-- A line of the file that declares the member. -/
def DeclaresMember (t : FileTree) (root path : PathName) (name : String) (n : Nat) : Prop :=
  ∃ text, IsLine t root path n text ∧ text.toList ∈ Grammar.declaration name.toList

section

variable {declared : List Char → Option (List Char)} {lines : List String}

/-- A line declares the name. -/
def DeclaredAt (declared : List Char → Option (List Char)) (name : String) (lines : List String)
    (n : Nat) : Prop :=
  ∃ text, lines[n]? = some text ∧ declared text.toList = some name.toList

theorem least_of_firstLine (h : firstLine declared name lines = some n) :
    DeclaredAt declared name lines n ∧ ∀ m, DeclaredAt declared name lines m → n ≤ m := by
  refine ⟨getElem?_of_firstLine h, fun m ⟨text, read, declares⟩ => ?_⟩
  obtain ⟨_, _, earlier⟩ := List.findIdx?_eq_some_iff_getElem.mp h
  by_contra before
  obtain ⟨inside, rfl⟩ := List.getElem?_eq_some_iff.mp read
  exact earlier m (Nat.not_le.mp before) (by simpa using declares)

theorem exists_firstLine_of_declaredAt (h : DeclaredAt declared name lines n) :
    ∃ m, firstLine declared name lines = some m := by
  obtain ⟨text, read, declares⟩ := h
  exact exists_firstLine (List.mem_of_getElem? read) declares

variable {files : List PathName} {linesOf : PathName → List String}
  {place : PathName → Nat → Location} {l : Location}

theorem findSome?_firstLine_eq_none_iff :
    (files.findSome? fun p => (firstLine declared name (linesOf p)).map (place p)) = none ↔
      ∀ p n, ¬ (p ∈ files ∧ DeclaredAt declared name (linesOf p) n) := by
  simp only [List.findSome?_eq_none_iff, Option.map_eq_none_iff]
  constructor
  · rintro absent p n ⟨known, declares⟩
    obtain ⟨m, found⟩ := exists_firstLine_of_declaredAt declares
    rw [absent p known] at found
    cases found
  · intro absent p known
    refine Option.eq_none_iff_forall_ne_some.mpr fun n found => ?_
    exact absent p n ⟨known, (least_of_firstLine found).1⟩

/-- Going through files in the order of their paths, and through their lines, comes to the first
line that declares the name. -/
theorem findSome?_firstLine_eq_some_iff
    (sorted : files.Pairwise fun a b => a.parts < b.parts) :
    (files.findSome? fun p => (firstLine declared name (linesOf p)).map (place p)) = some l ↔
      ∃ path n, FirstLine (fun p n => p ∈ files ∧ DeclaredAt declared name (linesOf p) n) path n ∧
        l = place path n := by
  rw [findSome?_eq_some_iff_least sorted]
  constructor
  · rintro ⟨path, known, here, least⟩
    obtain ⟨n, found, rfl⟩ := Option.map_eq_some_iff.mp here
    obtain ⟨declares, earliest⟩ := least_of_firstLine found
    refine ⟨path, n, ⟨⟨known, declares⟩, ?_⟩, rfl⟩
    rintro other m ⟨among, otherDeclares⟩
    obtain ⟨k, otherFound⟩ := exists_firstLine_of_declaredAt otherDeclares
    rw [Prod.Lex.toLex_le_toLex]
    rcases lt_or_eq_of_le (least other among (by simp [otherFound])) with before | same
    · exact .inl before
    · -- Files with the same path are the same file.
      have apart : (files.map PathName.parts).Nodup := List.pairwise_map.mpr (sorted.imp ne_of_lt)
      obtain rfl := List.inj_on_of_nodup_map apart known among same
      exact .inr ⟨rfl, earliest m otherDeclares⟩
  · rintro ⟨path, n, first, rfl⟩
    obtain ⟨known, declares⟩ := first.holds
    obtain ⟨m, found⟩ := exists_firstLine_of_declaredAt declares
    obtain ⟨here, earliest⟩ := least_of_firstLine found
    have least := fun other k property =>
      Prod.Lex.toLex_le_toLex.mp (first.least other k property)
    have same : m = n := by
      rcases least path m ⟨known, here⟩ with before | ⟨-, le⟩
      · exact absurd before (lt_irrefl _)
      · exact le_antisymm (earliest n declares) le
    refine ⟨path, known, by rw [found, same]; rfl, fun other among some_line => ?_⟩
    obtain ⟨k, otherFound⟩ := Option.isSome_iff_exists.mp some_line
    obtain ⟨j, line, -⟩ := Option.map_eq_some_iff.mp otherFound
    rcases least other j ⟨among, (least_of_firstLine line).1⟩ with before | ⟨parts, -⟩
    · exact le_of_lt before
    · exact le_of_eq parts

end

theorem findMacroIn_fst (t : FileTree) (name : String) (files : List PathName) :
    (findMacroIn t name files).1 = files.findSome? fun path =>
      (firstLine definedMacro? name (readLines t path).1).map (locate t path) := by
  induction files with
  | nil => rfl
  | cons path rest ih =>
      rw [findMacroIn_cons, List.findSome?_cons]
      cases firstLine definedMacro? name (readLines t path).1 with
      | some line => rfl
      | none => exact ih

theorem isLine_iff (sound : t.Sound) (plain : root.Plain) (followed : t.Followed root)
    {relative : List String} (file : t.HasFile root relative) {text : String} :
    IsLine t root (root.join relative) n text ↔
      (readLines t (root.join relative)).1[n]? = some text := by
  obtain ⟨place, bytes, found, stands⟩ := file
  have read := (FileTree.leads_of_find plain found).read_join sound stands
    (followed.2 place relative _ found stands)
  rw [readLines_of_read read]
  constructor
  · rintro ⟨other, place', bytes', same, found', stands', line⟩
    obtain rfl : relative = other := by simpa [PathName.join] using same
    obtain ⟨rfl, -⟩ := Prod.mk.inj (Except.ok.inj (found.symm.trans found'))
    obtain rfl : bytes = bytes' := by
      rw [stands] at stands'
      simpa using stands'
    exact line
  · intro line
    exact ⟨relative, place, bytes, rfl, found, stands, line⟩

section

variable (sound : t.Sound) (plain : i.root.Plain) (followed : t.Followed i.root)

include sound plain followed

theorem declaredAt_iff {relative : List String} (file : t.HasFile i.root relative)
    {declared : List Char → Option (List Char)} {lines : Language Char}
    (same : ∀ line, declared line = some name.toList ↔ line ∈ lines) :
    DeclaredAt declared name (readLines t (i.root.join relative)).1 n ↔
      ∃ text, IsLine t i.root (i.root.join relative) n text ∧ text.toList ∈ lines := by
  simp only [DeclaredAt, isLine_iff sound plain followed file, same]

theorem definesMacro_iff (covers : i.Covers t)
    (named : '$' :: '$' :: '$' :: name.toList ∈ Grammar.macroCall) :
    (path ∈ i.includes ∧ DeclaredAt definedMacro? name (readLines t path).1 n) ↔
      DefinesMacro t i.root name path n := by
  obtain ⟨c, u, head, tail, chars⟩ := Grammar.isFolded_of_macroCall named
  have same : ∀ line, definedMacro? line = some name.toList ↔
      line ∈ Grammar.definition name.toList := by
    intro line
    rw [chars]
    exact Grammar.definedMacro?_eq_some_iff head tail
  rw [DefinesMacro, covers.includes]
  refine and_congr_right fun isInclude => ?_
  obtain ⟨folders, stem, -, suffix, -, file, rfl⟩ := isInclude
  exact declaredAt_iff sound plain followed file same

/-- The definition of a macro that can be called is the first in the include files. -/
theorem findMacro_first (covers : i.Covers t)
    (named : '$' :: '$' :: '$' :: name.toList ∈ Grammar.macroCall) :
    (∀ l, (i.findMacro t name).1 = some l ↔
      ∃ path n, FirstLine (DefinesMacro t i.root name) path n ∧ l = locate t path n) ∧
    ((i.findMacro t name).1 = none ↔ ∀ path n, ¬ DefinesMacro t i.root name path n) := by
  have alike : (fun p n => p ∈ i.includes ∧ DeclaredAt definedMacro? name (readLines t p).1 n) =
      DefinesMacro t i.root name := by
    funext p n
    exact propext (definesMacro_iff sound plain followed covers named)
  rw [findMacro, findMacroIn_fst]
  constructor
  · intro l
    rw [findSome?_firstLine_eq_some_iff covers.ordered, alike]
  · rw [findSome?_firstLine_eq_none_iff, ← alike]

/-- The declaration of a member with a plain name is the first in the file of its class. -/
theorem findMember_first {relative : List String} (file : t.HasFile i.root relative)
    {member : String} (found : i.findClass name = some (i.root.join relative))
    (named : member.toList ∈ Grammar.plain) :
    ∃ n, (i.findMember t name (some member)).1 = some (locate t (i.root.join relative) n) ∧
      (DeclaresMember t i.root (i.root.join relative) member n ∧
          (∀ m, DeclaresMember t i.root (i.root.join relative) member m → n ≤ m) ∨
        n = 0 ∧ ∀ m, ¬ DeclaresMember t i.root (i.root.join relative) member m) := by
  have declares {n : Nat} :
      DeclaredAt declaredMember? member (readLines t (i.root.join relative)).1 n ↔
        DeclaresMember t i.root (i.root.join relative) member n :=
    declaredAt_iff sound plain followed file fun _ => Grammar.declaredMember?_eq_some_iff named
  have searched : (i.findMember t name (some member)).1 = some (locate t (i.root.join relative)
      ((firstLine declaredMember? member (readLines t (i.root.join relative)).1).getD 0)) := by
    unfold findMember
    rw [found]
    dsimp only
    split
    · contradiction
    next empty =>
      obtain ⟨sign, c, u, -, -, -, chars⟩ := Grammar.mem_plain.mp named
      simp [Option.some.inj empty] at chars
    next other same => rw [Option.some.inj same]
  refine ⟨_, searched, ?_⟩
  cases first : firstLine declaredMember? member (readLines t (i.root.join relative)).1 with
  | some n =>
      obtain ⟨here, least⟩ := least_of_firstLine first
      exact .inl ⟨declares.mp here, fun m there => least m (declares.mpr there)⟩
  | none =>
      refine .inr ⟨rfl, fun m there => ?_⟩
      obtain ⟨n, known⟩ := exists_firstLine_of_declaredAt (declares.mpr there)
      rw [first] at known
      cases known

end

/-- What is looked up for a macro call is the definition of the macro that it names. -/
theorem lookup_macroCall {line : List Char} {r : Reference} (occurs : r ∈ occurrences line)
    (kind : r.kind = .macroCall) :
    r.raw = "$$$" ++ r.symbol ∧ '$' :: '$' :: '$' :: r.symbol.toList ∈ Grammar.macroCall ∧
      i.lookup t r.kind r.query r.symbol = i.findMacro t r.symbol := by
  obtain ⟨-, parts, raw, query, symbol⟩ :=
    Parts.exists_of_mem_occurrences (kind ▸ mem_kind_occurrences occurs)
  cases parts with
  | macroCall name hname =>
      obtain rfl : r.symbol.toList = name := by
        rw [symbol, String.toList_ofList]
        rfl
      refine ⟨String.toList_injective ?_, hname, ?_⟩
      · rw [Parts.mem_texts_macroCall.mp raw, String.toList_append]
        rfl
      · rw [kind]
        rfl

/-- In a scanned index every macro reference comes to the first line that defines the macro, in
the order of the include files and then of their lines, and to nothing if no line does.  A member
with a plain name comes to the first line of the file of its class that declares it, and to the
start of the file if no line does. -/
theorem lookup_first_line {root : String} {log : List LogRecord} (sound : t.Sound)
    (scanned : scan t (.ofString root) = .ok (i, log)) :
    (∀ line r, r ∈ occurrences line → r.kind = .macroCall →
      r.raw = "$$$" ++ r.symbol ∧
      (∀ l, (i.lookup t r.kind r.query r.symbol).1 = some l ↔
        ∃ path n, FirstLine (DefinesMacro t i.root r.symbol) path n ∧ l = locate t path n) ∧
      ((i.lookup t r.kind r.query r.symbol).1 = none ↔
        ∀ path n, ¬ DefinesMacro t i.root r.symbol path n)) ∧
    ∀ name member path, i.findClass name = some path → member.toList ∈ Grammar.plain →
      ∃ n, (i.findMember t name (some member)).1 = some (locate t path n) ∧
        (DeclaresMember t i.root path member n ∧
            (∀ m, DeclaresMember t i.root path member m → n ≤ m) ∨
          n = 0 ∧ ∀ m, ¬ DeclaresMember t i.root path member m) := by
  obtain ⟨rooted, covers⟩ := covers_of_scan sound scanned
  have followed : t.Followed i.root := rooted ▸ followed_of_scan sound scanned
  have plain : i.root.Plain := rooted ▸ PathName.plain_ofString root
  constructor
  · intro line r occurs kind
    obtain ⟨raw, named, looked⟩ := lookup_macroCall occurs kind
    rw [looked]
    exact ⟨raw, findMacro_first sound plain followed covers named⟩
  · intro name member path found named
    obtain ⟨place, directory, relative, below, rfl⟩ := (has_of_findClass found).of_scan scanned
    rw [← rooted] at directory found ⊢
    exact findMember_first sound plain followed
      ((FileTree.hasFile_iff sound directory).mpr below) found named

/-- A longer name in the first include file, two definitions in the second, and a method whose
name has another case before the one that is asked for. -/
theorem lookup_first_line_whole_names :
    let t : FileTree :=
      { entries := [(["ws"], .directory),
          (["ws", "A.inc"], .file "#define ABC 1\n".toUTF8.toList),
          (["ws", "B.inc"], .file "x\n #DEF1ARG\tAB(%x) 2\n#define AB 3\n".toUTF8.toList),
          (["ws", "C.cls"], .file "Method Run()\n ClassMethod run (x)\n".toUTF8.toList)] }
    let i : Index :=
      { root := .ofString "/ws"
        routines := [("A", ⟨"/", ["ws", "A.inc"]⟩), ("B", ⟨"/", ["ws", "B.inc"]⟩)]
        classes := [("C", ⟨"/", ["ws", "C.cls"]⟩)]
        includes := [⟨"/", ["ws", "A.inc"]⟩, ⟨"/", ["ws", "B.inc"]⟩] }
    let r : Reference := ⟨"$$$AB", "$$$AB", .macroCall, "AB", ⟨2, 7⟩⟩
    t.Sound ∧ scan t (.ofString "/ws") = .ok (i, [i.scanRecord]) ∧
      r ∈ occurrences "w $$$AB".toList ∧
      (∃ path n, FirstLine (DefinesMacro t i.root "AB") path n ∧
        locate t path n = ⟨"/ws/B.inc", 1, 0⟩) ∧
      i.findClass "C" = some ⟨"/", ["ws", "C.cls"]⟩ ∧ "run".toList ∈ Grammar.plain ∧
      (i.findMember t "C" (some "run")).1 = some ⟨"/ws/C.cls", 1, 0⟩ ∧
      DeclaresMember t i.root ⟨"/", ["ws", "C.cls"]⟩ "run" 1 ∧
      ¬ DeclaresMember t i.root ⟨"/", ["ws", "C.cls"]⟩ "run" 0 := by
  intro t i r
  have sound : t.Sound := by constructor <;> decide
  have scanned : scan t (.ofString "/ws") = .ok (i, [i.scanRecord]) := by
    have found : t.find (PathName.ofString "/ws").toString = .ok (["ws"], .directory) := by
      decide +kernel
    have followed : (t.directoriesBelow ["ws"]).findSome?
        (tooLong? { root := .ofString "/ws" }) = none := by
      decide +kernel
    have files : t.filesBelow ["ws"] = [["A.inc"], ["B.inc"], ["C.cls"]] :=
      List.mergeSort_of_pairwise (by decide)
    refine scan_of_rescan (rescan_of_files (i := { root := .ofString "/ws" }) found followed ?_)
    rw [files]
    decide +kernel
  obtain ⟨macros, members⟩ := lookup_first_line sound scanned
  have occurs : r ∈ occurrences "w $$$AB".toList := by decide +kernel
  have looked : (i.lookup t r.kind r.query r.symbol).1 = some ⟨"/ws/B.inc", 1, 0⟩ := by
    decide +kernel
  obtain ⟨path, n, first, place⟩ := ((macros _ r occurs rfl).2.1 _).mp looked
  have found : i.findClass "C" = some ⟨"/", ["ws", "C.cls"]⟩ := by decide +kernel
  have named : "run".toList ∈ Grammar.plain :=
    Grammar.mem_plain.mpr
      ⟨[], 'r', ['u', 'n'], .inl rfl, by decide, List.all_eq_true.mp (by decide), by decide⟩
  have declared : (i.findMember t "C" (some "run")).1 = some ⟨"/ws/C.cls", 1, 0⟩ := by
    decide +kernel
  obtain ⟨m, line, which⟩ := members "C" "run" _ found named
  obtain rfl : m = 1 := by
    have same : (m : Int) = 1 :=
      congrArg Location.line (Option.some.inj (line.symm.trans declared))
    omega
  obtain ⟨declares, least⟩ := which.resolve_right (by simp)
  exact ⟨sound, scanned, occurs, ⟨path, n, first, place.symm⟩, found, named, declared, declares,
    fun earlier => absurd (least 0 earlier) (by decide)⟩

end Index

end RefNav
