import RefNav.FileTree.PathName

/-! # Path names, read and written

A plain path name is read back as it was written, and every name that was read is plain.
-/

namespace RefNav

namespace Text

/-! ## Pieces between separators -/

theorem splitAtChar_eq_splitOn (sep : Char) (cs : List Char) :
    splitAtChar sep cs = cs.splitOn sep := by
  induction cs with
  | nil => simp [splitAtChar]
  | cons c rest ih =>
      rw [List.splitOn, List.splitOnP_cons_eq_if_modifyHead, ← List.splitOn, ← ih]
      by_cases separates : c = sep
      · simp [splitAtChar, separates]
      · have some_piece : splitAtChar sep rest ≠ [] := ih ▸ List.splitOn_ne_nil sep rest
        cases pieces : splitAtChar sep rest with
        | nil => exact absurd pieces some_piece
        | cons piece others => simp [splitAtChar, separates, pieces]

theorem not_mem_of_mem_splitAtChar {sep : Char} {cs piece : List Char}
    (h : piece ∈ splitAtChar sep cs) : sep ∉ piece := by
  fun_induction splitAtChar sep cs generalizing piece with
  | case1 => simp_all
  | case2 rest ih =>
      rcases List.mem_cons.mp h with rfl | inRest
      · exact List.not_mem_nil
      · exact ih inRest
  | case3 c rest other none ih =>
      rw [List.mem_singleton.mp h]
      simpa using Ne.symm other
  | case4 c rest other first others split ih =>
      rw [split] at ih
      rcases List.mem_cons.mp h with rfl | inRest
      · have later := ih List.mem_cons_self
        simp [later, Ne.symm other]
      · exact ih (List.mem_cons_of_mem _ inRest)

theorem exists_mem_splitAtChar_iff {sep c : Char} (kept : c ≠ sep) {cs : List Char} :
    (∃ piece ∈ splitAtChar sep cs, c ∈ piece) ↔ c ∈ cs := by
  fun_induction splitAtChar sep cs with
  | case1 => simp
  | case2 rest ih => simp [ih, kept]
  | case3 d rest other none ih =>
      rw [none] at ih
      simp [← ih]
  | case4 d rest other first others split ih =>
      rw [split] at ih
      simp [← ih, or_assoc]

end Text

namespace PathName

open RefNav.Text

/-- Is the piece of a path a part of the name?  The empty piece and a single dot are
not. -/
def isPart (piece : String) : Bool :=
  piece ≠ "" && piece ≠ "."

theorem not_silent_of_isPart {piece : String} (h : isPart piece = true) :
    (piece = "" || piece = ".") = false := by
  simp_all [isPart]

/-- A path name as reading gives it: up to two slashes in front, and parts without
slashes. -/
structure Plain (p : PathName) : Prop where
  root : p.root = "" ∨ p.root = "/" ∨ p.root = "//"
  parts : ∀ part ∈ p.parts, isPart part = true
  noSlash : ∀ part ∈ p.parts, '/' ∉ part.toList

theorem plain_ofString (s : String) : (ofString s).Plain where
  root := by
    simp only [ofString, rootOf]
    split
    · exact .inl rfl
    · split
      · exact .inr (.inr rfl)
      · exact .inr (.inl rfl)
  parts := fun part h => (List.mem_filter.mp h).2
  noSlash := by
    intro part h
    obtain ⟨piece, inPieces, rfl⟩ := List.mem_map.mp (List.mem_filter.mp h).1
    simpa using not_mem_of_mem_splitAtChar inPieces

theorem Plain.join {p : PathName} {parts : List String} (plain : p.Plain)
    (areParts : ∀ part ∈ parts, isPart part = true)
    (noSlash : ∀ part ∈ parts, '/' ∉ part.toList) :
    (p.join parts).Plain where
  root := plain.root
  parts := List.forall_mem_append.mpr ⟨plain.parts, areParts⟩
  noSlash := List.forall_mem_append.mpr ⟨plain.noSlash, noSlash⟩

/-! ## Pieces of a written name -/

theorem pieces_slash_append (s : String) : pieces ("/" ++ s) = "" :: pieces s := by
  simp [pieces, splitAtChar]

theorem pieces_intercalate {parts : List String} (nonempty : parts ≠ [])
    (noSlash : ∀ part ∈ parts, '/' ∉ part.toList) :
    pieces ("/".intercalate parts) = parts := by
  have chars : ("/".intercalate parts).toList = ['/'].intercalate (parts.map String.toList) := by
    rw [String.toList_intercalate]
    rfl
  rw [pieces, chars, splitAtChar_eq_splitOn, List.splitOn_intercalate]
  · simp
  · simpa using noSlash
  · simpa using nonempty

theorem filter_pieces_intercalate {parts : List String}
    (areParts : ∀ part ∈ parts, isPart part = true)
    (noSlash : ∀ part ∈ parts, '/' ∉ part.toList) :
    (pieces ("/".intercalate parts)).filter isPart = parts := by
  by_cases nonempty : parts = []
  · subst nonempty
    decide
  · rw [pieces_intercalate nonempty noSlash, List.filter_eq_self]
    exact areParts

variable {p : PathName}

theorem Plain.filter_pieces_toString (plain : p.Plain) :
    (pieces p.toString).filter isPart = p.parts := by
  have inner := filter_pieces_intercalate plain.parts plain.noSlash
  have empty : isPart "" = false := rfl
  unfold toString
  split
  · rename_i none
    have : p.parts = [] := by simp_all
    rw [this]
    decide
  · rcases plain.root with root | root | root <;> rw [root]
    · simpa using inner
    · rw [pieces_slash_append, List.filter_cons_of_neg (by simp [empty]), inner]
    · rw [show "//" = "/" ++ "/" from rfl, String.append_assoc, pieces_slash_append,
        pieces_slash_append, List.filter_cons_of_neg (by simp [empty]),
        List.filter_cons_of_neg (by simp [empty]), inner]

/-! ## The slashes in front -/

theorem takeWhile_slash_of_head? {cs : List Char} (h : cs.head? ≠ some '/') :
    cs.takeWhile (· = '/') = [] := by
  cases cs with
  | nil => rfl
  | cons c rest =>
      have other : c ≠ '/' := by simpa using h
      simp [other]

theorem rootOf_append {root : String} (slashes : root = "" ∨ root = "/" ∨ root = "//")
    {s : String} (h : s.toList.head? ≠ some '/') : rootOf (root ++ s) = root := by
  have none := takeWhile_slash_of_head? h
  rcases slashes with rfl | rfl | rfl <;> simp [rootOf, none]

theorem head?_intercalate {parts : List String} (areParts : ∀ part ∈ parts, isPart part = true)
    (noSlash : ∀ part ∈ parts, '/' ∉ part.toList) :
    ("/".intercalate parts).toList.head? ≠ some '/' := by
  intro slash
  cases parts with
  | nil => simp at slash
  | cons part rest =>
      -- A slash in front would make the first piece empty, and the first part is not.
      obtain ⟨cs, opened⟩ : ∃ cs, ("/".intercalate (part :: rest)).toList = '/' :: cs :=
        List.head?_eq_some_iff.mp slash
      have split := pieces_intercalate (List.cons_ne_nil part rest) noSlash
      rw [pieces, opened, splitAtChar, if_pos rfl, List.map_cons] at split
      have empty : part = "" := (List.cons.inj split).1.symm
      have := areParts part List.mem_cons_self
      simp [isPart, empty] at this

theorem Plain.rootOf_toString (plain : p.Plain) : rootOf p.toString = p.root := by
  unfold toString
  split
  · rename_i none
    have : p.root = "" := by simp_all
    rw [this]
    decide
  · exact rootOf_append plain.root (head?_intercalate plain.parts plain.noSlash)

/-- A plain name is read back as it was written. -/
theorem Plain.ofString_toString (plain : p.Plain) : ofString p.toString = p := by
  have root : (ofString p.toString).root = p.root := plain.rootOf_toString
  have parts : (ofString p.toString).parts = p.parts := plain.filter_pieces_toString
  cases p
  simp_all [ofString]

theorem rootOf_eq_empty_iff (s : String) : rootOf s = "" ↔ s.toList.head? ≠ some '/' := by
  constructor
  · intro none slash
    obtain ⟨rest, opened⟩ := List.head?_eq_some_iff.mp slash
    simp only [rootOf, opened, List.takeWhile_cons, decide_true, if_true, List.length_cons] at none
    split at none
    · omega
    · split at none <;> simp at none
  · intro other
    simp [rootOf, takeWhile_slash_of_head? other]

theorem Plain.isAbsolute_iff (plain : p.Plain) :
    p.isAbsolute = true ↔ p.toString.toList.head? = some '/' := by
  have := rootOf_eq_empty_iff p.toString
  rw [plain.rootOf_toString] at this
  simp [isAbsolute, this]

end PathName

end RefNav
