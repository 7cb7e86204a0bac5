import RefNav.Proofs.FileTree.Proper

/-! # Paths below a directory

A plain name that leads to a directory can be continued by the names of entries: what it leads to
then is decided below that directory alone.  Putting an entry somewhere changes nothing elsewhere,
and a path that leads somewhere still leads there as long as no directory is replaced by a file.
-/

namespace RefNav.FileTree

open PathName

variable {t t' : FileTree} {p : PathName} {start place other : Place} {e : Entry}
  {parts names : List String} {name : String}

/-! ## Walking in pieces -/

theorem walk_append (t : FileTree) (start : Place) (parts others : List String) :
    t.walk start (parts ++ others) = (t.walk start parts).bind fun here => t.walk here others := by
  fun_induction walk t start parts with
  | case1 here => rfl
  | case2 here part rest noDirectory => simp [walk, noDirectory, Except.bind]
  | case3 here part rest directory silent ih => simp [walk, directory, silent, ih]
  | case4 here rest directory silent ih => simp [walk, directory, ih]
  | case5 here part rest directory loud notParent long =>
      simp [walk, directory, loud, notParent, long, Except.bind]
  | case6 here part rest directory loud notParent short found ih =>
      simp [walk, directory, loud, notParent, short, found, ih]
  | case7 here part rest directory loud notParent short missing =>
      simp [walk, directory, loud, notParent, short, missing, Except.bind]

theorem isDirectory_of_walk {part : String} (h : t.walk start (part :: parts) = .ok place) :
    t.isDirectory start = true := by
  cases directory : t.isDirectory start with
  | true => rfl
  | false => simp [walk, directory] at h

theorem toString_of_parts (nonempty : p.parts ≠ []) :
    p.toString = p.root ++ "/".intercalate p.parts := by
  simp [PathName.toString, nonempty]

/-- The slashes in front of a name, and the dot that stands for the empty one, lead nowhere
else. -/
theorem walk_pieces (plain : p.Plain) (directory : t.isDirectory start = true) :
    t.walk start (pieces p.toString) = t.walk start p.parts := by
  have silent : ∀ rest, t.walk start ("" :: rest) = t.walk start rest := by
    intro rest
    simp [walk, directory]
  by_cases none : p.parts = []
  · rcases plain.root with root | root | root <;> simp only [PathName.toString, root, none]
    · simp [pieces, walk, directory, Text.splitAtChar]
    · simp [pieces, walk, directory, Text.splitAtChar]
    · simp [pieces, walk, directory, Text.splitAtChar]
  · have inner := pieces_intercalate none plain.noSlash
    rw [toString_of_parts none]
    rcases plain.root with root | root | root <;> rw [root]
    · rw [String.empty_append, inner]
    · rw [pieces_slash_append, silent, inner]
    · rw [show "//" = "/" ++ "/" from rfl, String.append_assoc, pieces_slash_append,
        pieces_slash_append, silent, silent, inner]

/-! ## Names that lead somewhere -/

theorem pieces_ne_nil (s : String) : pieces s ≠ [] := by
  rw [pieces, Text.splitAtChar_eq_splitOn]
  simp

theorem toString_ne_empty (plain : p.Plain) : p.toString ≠ "" := by
  intro empty
  have reread := plain.ofString_toString
  rw [empty] at reread
  rw [← reread] at empty
  revert empty
  decide

theorem isPathText_toString (plain : p.Plain) :
    isPathText p.toString = p.parts.all isPathText := by
  by_cases none : p.root = "" ∧ p.parts = []
  · simp [PathName.toString, none, isPathText]
  · have text : p.toString = p.root ++ "/".intercalate p.parts := by
      rw [PathName.toString, if_neg (by simpa using none)]
    have slashes : isPathText p.root = true := by
      rcases plain.root with root | root | root <;> rw [root] <;> rfl
    rw [text, isPathText_append, isPathText_intercalate, slashes, Bool.true_and]

/-- Where a name starts. -/
def origin (t : FileTree) (p : PathName) : Place :=
  if p.isAbsolute then [] else t.current

theorem start_eq_origin (plain : p.Plain) :
    (if p.toString.toList.head? = some '/' then [] else t.current) = t.origin p := by
  simp only [origin, plain.isAbsolute_iff]

/-- What parts lead to from a place. -/
def arrive (t : FileTree) (start : Place) (parts : List String) :
    Except FileFault (Place × Entry) :=
  match t.walk start parts with
  | .error f => .error f
  | .ok place =>
      match t.get? place with
      | some entry => .ok (place, entry)
      | none => .error .noEntry

theorem search_toString (plain : p.Plain) (short : p.toString.utf8ByteSize < pathLimit)
    (directory : t.isDirectory (t.origin p) = true) :
    t.search p.toString = t.arrive (t.origin p) p.parts := by
  unfold search
  dsimp only
  rewrite [if_neg (toString_ne_empty plain), if_neg (Nat.not_le.mpr short), start_eq_origin plain,
    walk_pieces plain directory]
  rfl

/-- What a plain name leads to is decided by its parts, from the directory in which it starts. -/
theorem find_toString_eq (plain : p.Plain) (text : p.parts.all isPathText = true)
    (short : p.toString.utf8ByteSize < pathLimit) (directory : t.isDirectory (t.origin p) = true) :
    t.find p.toString =
      (t.arrive (t.origin p) p.parts).mapError (Fault.atPath · p.toString) := by
  rw [find, isPathText_toString plain, if_pos text, search_toString plain short directory]
  cases t.arrive (t.origin p) p.parts <;> rfl

theorem find_of_tooLong (plain : p.Plain) (text : p.parts.all isPathText = true)
    (long : pathLimit ≤ p.toString.utf8ByteSize) (t : FileTree) :
    t.find p.toString = .error (.atPath .nameTooLong p.toString) := by
  rw [find, isPathText_toString plain, if_pos text, search, if_neg (toString_ne_empty plain),
    if_pos long]

/-- A plain name that leads somewhere. -/
structure Leads (t : FileTree) (p : PathName) (place : Place) (e : Entry) : Prop where
  plain : p.Plain
  text : p.parts.all isPathText = true
  short : p.toString.utf8ByteSize < pathLimit
  directory : t.isDirectory (t.origin p) = true
  walk : t.walk (t.origin p) p.parts = .ok place
  get? : t.get? place = some e

theorem leads_of_find (plain : p.Plain) (h : t.find p.toString = .ok (place, e)) :
    t.Leads p place e := by
  obtain ⟨text, searched⟩ := search_of_find h
  obtain ⟨short, walked, found⟩ := walk_of_search searched
  rw [start_eq_origin plain] at walked
  -- There is always a piece, and only a directory can be left along one.
  obtain ⟨piece, others, split⟩ := List.exists_cons_of_ne_nil (pieces_ne_nil p.toString)
  have directory : t.isDirectory (t.origin p) = true := isDirectory_of_walk (split ▸ walked)
  rw [walk_pieces plain directory] at walked
  exact ⟨plain, isPathText_toString plain ▸ text, short, directory, walked, found⟩

theorem Leads.find_eq (h : t.Leads p place e) : t.find p.toString = .ok (place, e) := by
  rw [find_toString_eq h.plain h.text h.short h.directory, arrive, h.walk]
  dsimp only
  rw [h.get?]
  rfl

theorem Leads.plain_join (h : t.Leads p place e) (all : ∀ name ∈ names, EntryName name) :
    (p.join names).Plain :=
  h.plain.join (fun n known => (all n known).part) fun n known => (all n known).noSlash

theorem Leads.text_join (h : t.Leads p place e) (all : ∀ name ∈ names, EntryName name) :
    (p.join names).parts.all isPathText = true := by
  rw [join, List.all_append, h.text, Bool.true_and, List.all_eq_true]
  exact fun name known => (all name known).isPathText

/-- Below a directory, what a name leads to is decided from there on. -/
theorem Leads.find_join (h : t.Leads p place .directory) (all : ∀ name ∈ names, EntryName name)
    (short : (p.join names).toString.utf8ByteSize < pathLimit) :
    t.find (p.join names).toString =
      (t.arrive place names).mapError (Fault.atPath · (p.join names).toString) := by
  have below : t.arrive (t.origin (p.join names)) (p.join names).parts = t.arrive place names := by
    change t.arrive (t.origin p) (p.parts ++ names) = t.arrive place names
    rw [arrive, walk_append, h.walk]
    rfl
  rw [find_toString_eq (h.plain_join all) (h.text_join all) short h.directory, below]

/-- A name that becomes too long leads nowhere in any tree. -/
theorem Leads.find_join_of_long (h : t.Leads p place e) (all : ∀ name ∈ names, EntryName name)
    (long : pathLimit ≤ (p.join names).toString.utf8ByteSize) (t' : FileTree) :
    t'.find (p.join names).toString = .error (.atPath .nameTooLong (p.join names).toString) :=
  find_of_tooLong (h.plain_join all) (h.text_join all) long t'

/-! ## Entries of a directory -/

/-- What stands at a place in a directory. -/
theorem arrive_name (directory : t.isDirectory place = true) (h : EntryName name)
    (rest : List String) :
    t.arrive place (name :: rest) =
      if (t.get? (place ++ [name])).isSome then t.arrive (place ++ [name]) rest
      else .error .noEntry := by
  have loud := not_silent_of_isPart h.part
  have short : ¬ nameLimit < name.utf8ByteSize := Nat.not_lt.mpr h.short
  unfold arrive
  rw [walk]
  simp only [directory, loud, h.notParent, short, Bool.not_true, Bool.false_eq_true, if_false]
  cases (t.get? (place ++ [name])).isSome <;> rfl

theorem Leads.isDirectory (h : t.Leads p place .directory) : t.isDirectory place = true := by
  simp [FileTree.isDirectory, h.get?]

/-- The name of an entry leads to it. -/
theorem Leads.join (h : t.Leads p place .directory) (entry : EntryName name)
    (found : t.get? (place ++ [name]) = some e)
    (short : (p.join [name]).toString.utf8ByteSize < pathLimit) :
    t.Leads (p.join [name]) (place ++ [name]) e := by
  have names : ∀ other ∈ [name], EntryName other := List.forall_mem_singleton.mpr entry
  refine leads_of_find (h.plain_join names) ?_
  rw [h.find_join names short, arrive_name h.isDirectory entry, found]
  simp only [arrive, FileTree.walk, found]
  rfl

/-- Nothing is found below an entry that is not there. -/
theorem Leads.find_absent (h : t.Leads p place .directory)
    (all : ∀ other ∈ name :: names, EntryName other) (absent : t.get? (place ++ [name]) = none)
    (short : (p.join (name :: names)).toString.utf8ByteSize < pathLimit) :
    t.find (p.join (name :: names)).toString =
      .error (.atPath .noEntry (p.join (name :: names)).toString) := by
  rw [h.find_join all short, arrive_name h.isDirectory (all name List.mem_cons_self), absent]
  rfl

/-- A file below a directory is read by the directory's name and its path from there. -/
theorem Leads.read_join (h : t.Leads p place .directory) (sound : t.Sound)
    {bytes : List UInt8} (file : t.get? (place ++ names) = some (.file bytes))
    (short : (p.join names).toString.utf8ByteSize < pathLimit) :
    t.read (p.join names).toString = .ok bytes := by
  have all : ∀ name ∈ names, EntryName name := fun name known =>
    entryName_of_get? sound file name (List.mem_append_right _ known)
  have found : t.find (p.join names).toString = .ok (place ++ names, .file bytes) := by
    rw [h.find_join all short, arrive, walk_of_get? sound file]
    dsimp only
    rw [file]
    rfl
  simp [read, found]

theorem toString_join (nonempty : p.parts ≠ []) (name : String) :
    (p.join [name]).toString = p.toString ++ "/" ++ name := by
  have longer : (p.join [name]).parts ≠ [] := by simp [PathName.join]
  rw [toString_of_parts nonempty, toString_of_parts longer]
  simp only [PathName.join]
  rw [String.intercalate_append_of_ne_nil nonempty (List.cons_ne_nil name []),
    String.intercalate_singleton]
  simp only [String.append_assoc]

/-! ## Putting entries -/

theorem get?_put_of_ne (h : other ≠ place) (t : FileTree) (e : Entry) :
    (t.put place e).get? other = t.get? other := by
  unfold get? put
  split
  · rfl
  · have same : ∀ entries : List (Place × Entry),
        (entries.filter fun entry => entry.1 ≠ place).lookup other = entries.lookup other := by
      intro entries
      induction entries with
      | nil => rfl
      | cons entry rest ih =>
          by_cases here : entry.1 = place
          · have differs : (other == entry.1) = false := by simp [here, h]
            rw [List.filter_cons_of_neg (by simp [here]), ih, List.lookup_cons, differs]
          · rw [List.filter_cons_of_pos (by simp [here]), List.lookup_cons, List.lookup_cons, ih]
    have alone : List.lookup other [(place, e)] = none := by
      have differs : (other == place) = false := by simpa using h
      rw [List.lookup_cons, differs]
      rfl
    rw [List.lookup_append, same, alone, Option.or_none]

/-- Only the last entry put at a place counts. -/
theorem put_put (t : FileTree) (place : Place) (e e' : Entry) :
    (t.put place e).put place e' = t.put place e' := by
  simp [put, List.filter_append, List.filter_filter]

/-- Whatever leads to a directory in one tree leads to a directory in the other. -/
structure Keeps (t t' : FileTree) : Prop where
  current : t'.current = t.current
  directories : ∀ place, t.isDirectory place = true → t'.isDirectory place = true
  entries : ∀ place, (t.get? place).isSome = true → (t'.get? place).isSome = true

theorem Keeps.walk (keeps : Keeps t t') (h : t.walk start parts = .ok place) :
    t'.walk start parts = .ok place := by
  fun_induction FileTree.walk t start parts with
  | case1 here => exact h
  | case2 => cases h
  | case3 here part rest directory silent ih =>
      have directory' := keeps.directories here (by simpa using directory)
      simpa [FileTree.walk, directory', silent] using ih h
  | case4 here rest directory silent ih =>
      have directory' := keeps.directories here (by simpa using directory)
      simpa [FileTree.walk, directory'] using ih h
  | case5 => cases h
  | case6 here part rest directory loud notParent short found ih =>
      have directory' := keeps.directories here (by simpa using directory)
      have found' := keeps.entries _ found
      simpa [FileTree.walk, directory', loud, notParent, short, found'] using ih h
  | case7 => cases h

theorem Leads.of_keeps (h : t.Leads p place .directory) (keeps : Keeps t t') :
    t'.Leads p place .directory := by
  have origin : t'.origin p = t.origin p := by
    simp only [FileTree.origin, keeps.current]
  have directory := keeps.directories place h.isDirectory
  exact ⟨h.plain, h.text, h.short, origin ▸ keeps.directories _ h.directory,
    origin ▸ keeps.walk h.walk, by simpa [FileTree.isDirectory] using directory⟩

/-- A directory must not be replaced by a file. -/
theorem keeps_put (placed : place ≠ []) (h : t.isDirectory place = true → e = .directory) :
    Keeps t (t.put place e) where
  current := rfl
  directories := by
    intro other directory
    by_cases same : other = place
    · subst same
      simp [isDirectory, get?_put_self placed, h directory]
    · rwa [isDirectory, get?_put_of_ne same]
  entries := by
    intro other found
    by_cases same : other = place
    · subst same
      simp [get?_put_self placed]
    · rwa [get?_put_of_ne same]

/-! ## Names that are almost too long -/

/-- The top of the tree, by a name that goes up from there again and again. -/
def upward (n : Nat) : PathName :=
  ⟨"", List.replicate (n + 1) ".."⟩

theorem plain_upward (n : Nat) : (upward n).Plain where
  root := .inl rfl
  parts := by
    intro part known
    rw [List.eq_of_mem_replicate known]
    rfl
  noSlash := by
    intro part known
    rw [List.eq_of_mem_replicate known]
    decide

theorem isPathText_upward (n : Nat) : (upward n).parts.all isPathText = true := by
  rw [upward, List.all_eq_true]
  intro part known
  rw [List.eq_of_mem_replicate known]
  rfl

theorem utf8ByteSize_upward (n : Nat) : (upward n).toString.utf8ByteSize = 3 * n + 2 := by
  have text : ∀ n, (upward n).toString = "/".intercalate (List.replicate (n + 1) "..") := by
    intro n
    simp [upward, PathName.toString]
  rw [text]
  induction n with
  | zero => decide
  | succ n ih =>
      have dots : ("..").utf8ByteSize = 2 ∧ ("/").utf8ByteSize = 1 := by decide
      rw [List.replicate_succ, List.replicate_succ, String.intercalate_cons_cons,
        ← List.replicate_succ, String.utf8ByteSize_append, String.utf8ByteSize_append, ih]
      omega

theorem find_upward (t : FileTree) (top : t.current = []) {n : Nat}
    (short : 3 * n + 2 < pathLimit) :
    t.find (upward n).toString = .ok ([], .directory) := by
  have origin : t.origin (upward n) = [] := by
    rw [FileTree.origin, top]
    split <;> rfl
  have walked : ∀ count, t.walk [] (List.replicate count "..") = .ok [] := by
    intro count
    induction count with
    | zero => rfl
    | succ count ih =>
        rw [List.replicate_succ, walk]
        exact ih
  rw [find_toString_eq (plain_upward n) (isPathText_upward n) (utf8ByteSize_upward n ▸ short)
    (origin ▸ rfl), origin, arrive, upward, walked]
  rfl

end RefNav.FileTree
