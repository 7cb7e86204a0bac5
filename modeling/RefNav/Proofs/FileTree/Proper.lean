import RefNav.FileTree.Basic
import RefNav.Proofs.FileTree.PathName

/-! # Proper file trees

In a sound tree the entries stand at distinct places, have names that the system allows and
are led to by directories.  A proper tree is one in which they can also be reached by their
absolute names.  There the name of a file and the absolute name of its place lead to the same
bytes.
-/

namespace RefNav.FileTree

open PathName

/-- A name that an entry of a directory can have. -/
structure EntryName (name : String) : Prop where
  part : PathName.isPart name = true
  notParent : name ≠ ".."
  noSlash : '/' ∉ name.toList
  isPathText : isPathText name = true
  short : name.utf8ByteSize ≤ nameLimit

/-- A name that can stand in a place, whether an entry can have it or not. -/
structure PlaceName (name : String) : Prop where
  part : PathName.isPart name = true
  notParent : name ≠ ".."
  noSlash : '/' ∉ name.toList
  isPathText : isPathText name = true

/-- A tree as a system keeps it: no place is taken twice, every entry has a name, is led to
by directories, and can be reached by its absolute name. -/
structure Proper (t : FileTree) : Prop where
  distinct : (t.entries.map Prod.fst).Nodup
  placed : ∀ e ∈ t.entries, e.1 ≠ []
  named : ∀ e ∈ t.entries, ∀ name ∈ e.1, EntryName name
  led : ∀ e ∈ t.entries, ∀ n < e.1.length, t.isDirectory (e.1.take n) = true
  reachable : ∀ e ∈ t.entries, (Place.toString e.1).utf8ByteSize < pathLimit

/-- A tree as a system keeps it, however long the absolute names of its entries are. -/
structure Sound (t : FileTree) : Prop where
  distinct : (t.entries.map Prod.fst).Nodup
  placed : ∀ e ∈ t.entries, e.1 ≠ []
  named : ∀ e ∈ t.entries, ∀ name ∈ e.1, EntryName name
  led : ∀ e ∈ t.entries, ∀ n < e.1.length, t.isDirectory (e.1.take n) = true

theorem Proper.sound {t : FileTree} (proper : t.Proper) : t.Sound :=
  ⟨proper.distinct, proper.placed, proper.named, proper.led⟩

instance (name : String) : Decidable (EntryName name) :=
  decidable_of_iff
    (PathName.isPart name = true ∧ name ≠ ".." ∧ '/' ∉ name.toList ∧ isPathText name = true ∧
      name.utf8ByteSize ≤ nameLimit)
    ⟨fun ⟨part, notParent, noSlash, text, short⟩ => ⟨part, notParent, noSlash, text, short⟩,
      fun h => ⟨h.part, h.notParent, h.noSlash, h.isPathText, h.short⟩⟩

variable {t : FileTree} {p : PathName} {start place : Place} {e : Entry} {name : String}
  {relative : List String} {bytes : List UInt8}

theorem EntryName.placeName (h : EntryName name) : PlaceName name :=
  ⟨h.part, h.notParent, h.noSlash, h.isPathText⟩

theorem PlaceName.entryName (h : PlaceName name) (short : name.utf8ByteSize ≤ nameLimit) :
    EntryName name :=
  ⟨h.part, h.notParent, h.noSlash, h.isPathText, short⟩

/-! ## Entries -/

theorem get?_of_mem (sound : t.Sound) (h : (place, e) ∈ t.entries) : t.get? place = some e := by
  obtain ⟨before, after, entries⟩ := List.append_of_mem h
  have distinct := sound.distinct
  rw [entries, List.map_append, List.nodup_append] at distinct
  have placed : place ≠ [] := sound.placed _ h
  simp only [get?, placed, if_false]
  refine List.lookup_eq_some_iff.mpr ⟨before, after, entries, fun other inBefore => ?_⟩
  have differs := distinct.2.2 other.1 (List.mem_map_of_mem inBefore) place (by simp)
  simpa using differs.symm

theorem mem_of_get? (h : t.get? place = some e) (placed : place ≠ []) :
    (place, e) ∈ t.entries := by
  simp only [get?, placed, if_false] at h
  obtain ⟨before, after, entries, _⟩ := List.lookup_eq_some_iff.mp h
  rw [entries]
  exact List.mem_append_right _ List.mem_cons_self

theorem entryName_of_get? (sound : t.Sound) (h : t.get? place = some e) :
    ∀ name ∈ place, EntryName name := by
  by_cases placed : place = []
  · simp [placed]
  · exact sound.named _ (mem_of_get? h placed)

/-- What leads to an entry is a directory. -/
theorem isDirectory_of_get?_append (sound : t.Sound) {rest : List String} (nonempty : rest ≠ [])
    (h : t.get? (place ++ rest) = some e) : t.isDirectory place = true := by
  have entry := mem_of_get? h (List.append_ne_nil_of_right_ne_nil place nonempty)
  have led := sound.led _ entry place.length (by simpa [List.length_pos_iff] using nonempty)
  simpa using led

theorem mem_filesBelow_iff :
    relative ∈ t.filesBelow place ↔ ∃ bytes, (place ++ relative, Entry.file bytes) ∈ t.entries := by
  simp only [filesBelow, List.mem_mergeSort, List.mem_filterMap]
  constructor
  · rintro ⟨⟨found, entry⟩, inTree, below⟩
    cases entry with
    | directory => cases below
    | file bytes =>
        simp only [Option.ite_none_right_eq_some, Option.some.injEq,
          List.isPrefixOf_iff_prefix] at below
        obtain ⟨⟨rest, rfl⟩, dropped⟩ := below
        rw [List.drop_left] at dropped
        exact ⟨bytes, dropped ▸ inTree⟩
  · rintro ⟨bytes, inTree⟩
    refine ⟨_, inTree, ?_⟩
    simp [List.isPrefixOf_iff_prefix]

/-! ## Walking along a path -/

/-- Where a walk ends, whatever the tree: pieces that are no parts leave it where it is. -/
theorem eq_follow_of_walk {parts : List String} (h : t.walk start parts = .ok place) :
    place = follow start (parts.filter isPart) := by
  fun_induction walk t start parts with
  | case1 here => simp_all [follow]
  | case2 => cases h
  | case3 here part rest directory silent ih =>
      have noPart : ¬ isPart part = true := by
        simpa [isPart, ← Decidable.or_iff_not_imp_left] using silent
      rw [ih h, List.filter_cons_of_neg noPart]
  | case4 here rest directory silent ih => simp_all [follow, isPart]
  | case5 => cases h
  | case6 here part rest directory loud notParent short found ih => simp_all [follow, isPart]
  | case7 => cases h

/-- The names of an entry's place lead to it from any directory on the way. -/
theorem walk_of_get? (sound : t.Sound) {rest : List String}
    (h : t.get? (place ++ rest) = some e) :
    t.walk place rest = .ok (place ++ rest) := by
  induction rest generalizing place with
  | nil => simp [walk]
  | cons part rest ih =>
      have name : EntryName part := entryName_of_get? sound h part (by simp)
      have directory := isDirectory_of_get?_append sound (List.cons_ne_nil part rest) h
      rw [List.append_cons] at h
      -- The next place is the entry itself or a directory above it.
      have exists_next : (t.get? (place ++ [part])).isSome = true := by
        cases rest with
        | nil => simp_all
        | cons next others =>
            have := isDirectory_of_get?_append sound (List.cons_ne_nil next others) h
            simp_all [isDirectory]
      have piece := not_silent_of_isPart name.part
      have short : ¬ nameLimit < part.utf8ByteSize := Nat.not_lt.mpr name.short
      rw [walk, ih h, List.append_cons]
      simp [directory, piece, name.notParent, short, exists_next]

theorem search_of_find {path : String} (h : t.find path = .ok (place, e)) :
    isPathText path = true ∧ t.search path = .ok (place, e) := by
  unfold find at h
  split at h
  next text =>
    split at h
    next searched =>
      cases h
      exact ⟨text, searched⟩
    · cases h
  · cases h

/-- A path that is found is short enough, and walking along its pieces leads to the entry. -/
theorem walk_of_search {path : String} (h : t.search path = .ok (place, e)) :
    path.utf8ByteSize < pathLimit ∧
      t.walk (if path.toList.head? = some '/' then [] else t.current) (pieces path) = .ok place ∧
        t.get? place = some e := by
  unfold search at h
  split at h
  · cases h
  split at h
  · cases h
  next short =>
    dsimp only at h
    split at h
    · cases h
    next walked =>
      split at h
      next found =>
        cases h
        exact ⟨Nat.not_le.mp short, walked, found⟩
      · cases h

/-- A plain name that is found leads to the place it means. -/
theorem eq_resolve_of_find (plain : p.Plain) (h : t.find p.toString = .ok (place, e)) :
    place = p.resolve t.current ∧ t.get? place = some e := by
  obtain ⟨-, walked, found⟩ := walk_of_search (search_of_find h).2
  refine ⟨?_, found⟩
  rw [eq_follow_of_walk walked, plain.filter_pieces_toString]
  simp only [PathName.resolve, plain.isAbsolute_iff]

/-! ## Absolute names -/

theorem plain_of_spelled (h : ∀ name ∈ place, PlaceName name) : (ofPlace place).Plain where
  root := .inr (.inl rfl)
  parts := fun name inPlace => (h name inPlace).part
  noSlash := fun name inPlace => (h name inPlace).noSlash

theorem plain_ofPlace (h : ∀ name ∈ place, EntryName name) : (ofPlace place).Plain :=
  plain_of_spelled fun name inPlace => (h name inPlace).placeName

theorem isPathText_append (s s' : String) :
    isPathText (s ++ s') = (isPathText s && isPathText s') := by
  simp [isPathText]

theorem isPathText_intercalate (parts : List String) :
    isPathText ("/".intercalate parts) = parts.all isPathText := by
  have slash : isPathText "/" = true := rfl
  induction parts with
  | nil => rfl
  | cons part rest ih =>
      cases rest with
      | nil => simp
      | cons next others =>
          rw [String.intercalate_cons_cons, isPathText_append, isPathText_append, ih, slash]
          simp

theorem toString_ofPlace (place : Place) : place.toString = "/" ++ "/".intercalate place := by
  simp [Place.toString, PathName.toString, ofPlace]

/-- The absolute name of an entry's place leads to the entry. -/
theorem find_toString (proper : t.Proper) (h : t.get? place = some e) :
    t.find place.toString = .ok (place, e) := by
  have names := entryName_of_get? proper.sound h
  have text : isPathText place.toString = true := by
    rw [toString_ofPlace, isPathText_append, isPathText_intercalate,
      List.all_eq_true.mpr fun n hn => (names n hn).isPathText]
    rfl
  have short : ¬ pathLimit ≤ place.toString.utf8ByteSize := by
    by_cases placed : place = []
    · subst placed
      decide
    · exact Nat.not_le.mpr (proper.reachable _ (mem_of_get? h placed))
  have walked : t.walk [] (pieces place.toString) = .ok place := by
    -- The leading slash gives an empty piece, which leaves the walk at the top.
    have top : t.isDirectory [] = true := rfl
    rw [toString_ofPlace, pieces_slash_append, walk]
    simp only [top, Bool.not_true, Bool.false_eq_true, if_false, decide_true, Bool.true_or, if_true]
    by_cases placed : place = []
    · subst placed
      rfl
    · rw [pieces_intercalate placed fun n hn => (names n hn).noSlash]
      exact walk_of_get? proper.sound h
  have nonempty : place.toString ≠ "" := by simp [toString_ofPlace]
  have absolute : place.toString.toList.head? = some '/' := by simp [toString_ofPlace]
  simp [find, search, text, nonempty, short, absolute, walked, h]

theorem read_of_get? (proper : t.Proper) (h : t.get? place = some (.file bytes)) :
    t.read place.toString = .ok bytes := by
  simp [read, find_toString proper h]

/-- A name that can be read and the absolute name of its place give the same bytes. -/
theorem read_absolute (proper : t.Proper) (plain : p.Plain) (h : t.read p.toString = .ok bytes) :
    t.read (t.absolute p) = .ok bytes := by
  unfold read at h
  split at h
  · rename_i found
    cases h
    obtain ⟨rfl, file⟩ := eq_resolve_of_find plain found
    exact read_of_get? proper file
  · cases h
  · cases h

theorem follow_append (start : Place) (parts others : List String) :
    follow start (parts ++ others) = follow (follow start parts) others := by
  simp [follow]

theorem follow_downward (h : ".." ∉ relative) : follow place relative = place ++ relative := by
  induction relative generalizing place with
  | nil => simp [follow]
  | cons name rest ih =>
      have notParent : name ≠ ".." := fun same => h (same ▸ List.mem_cons_self)
      rw [List.append_cons, ← ih fun later => h (List.mem_cons_of_mem _ later)]
      simp [follow, notParent]

theorem follow_names (h : ∀ name ∈ relative, EntryName name) :
    follow place relative = place ++ relative :=
  follow_downward fun parent => (h _ parent).notParent rfl

/-- A file found below a directory stands at the place that its name means. -/
theorem file_below (sound : t.Sound) (plain : p.Plain)
    (found : t.find p.toString = .ok (place, .directory)) (below : relative ∈ t.filesBelow place) :
    (p.join relative).Plain ∧
      ∃ bytes, t.get? ((p.join relative).resolve t.current) = some (.file bytes) := by
  obtain ⟨bytes, entry⟩ := mem_filesBelow_iff.mp below
  have file := get?_of_mem sound entry
  have names : ∀ name ∈ relative, EntryName name := fun name h =>
    entryName_of_get? sound file name (List.mem_append_right _ h)
  have stands : (p.join relative).resolve t.current = place ++ relative := by
    rw [(eq_resolve_of_find plain found).1, ← follow_names names]
    exact follow_append _ _ _
  refine ⟨plain.join (fun n h => (names n h).part) fun n h => (names n h).noSlash, bytes, ?_⟩
  rw [stands]
  exact file

theorem readText_of_read {name : String} (h : t.read name = .ok bytes) :
    t.readText name = .ok (Text.Utf8.decodeLenient bytes) := by
  simp [readText, h, Except.map]

theorem document_of_read (h : t.read p.toString = .ok bytes) :
    t.document p =
      .ok (Document.ofText (t.absolute p) (String.ofList (Text.Utf8.decodeLenient bytes))) := by
  simp [document, readText_of_read h]

/-- The document at the absolute name of a file's place. -/
theorem document_of_get? (proper : t.Proper) (h : t.get? place = some (.file bytes)) :
    t.document (.ofString place.toString) =
      .ok (Document.ofText place.toString (String.ofList (Text.Utf8.decodeLenient bytes))) := by
  have names := entryName_of_get? proper.sound h
  have reread : PathName.ofString place.toString = ofPlace place :=
    (plain_ofPlace names).ofString_toString
  have here : t.absolute (ofPlace place) = place.toString := by
    rw [absolute, PathName.resolve]
    exact congrArg Place.toString (follow_names names)
  have read : t.read (ofPlace place).toString = .ok bytes := read_of_get? proper h
  rw [reread, document_of_read read, here]

end RefNav.FileTree
