import Mathlib.Algebra.Ring.Nat
import RefNav.Proofs.FileTree.Below

/-! # Asking for a place

The absolute name of a place leads to what stands there, unless the name is too long: as a whole,
or in a part that would be looked up in an existing directory.  Asking for a name that is too long
is a fault, and asking for any other is none.
-/

namespace RefNav.FileTree

open PathName

variable {t : FileTree} {start place : Place} {parts : List String} {name : String}

/-! ## What can be asked for -/

/-- Parts that can be looked up one after another: those that come to a directory are not too
long. -/
def Fits (t : FileTree) (start : Place) (parts : List String) : Prop :=
  ∀ before name after, parts = before ++ name :: after → t.isDirectory (start ++ before) = true →
    name.utf8ByteSize ≤ nameLimit

/-- A place that the system can be asked for. -/
structure Askable (t : FileTree) (place : Place) : Prop where
  path : place.toString.utf8ByteSize < pathLimit
  names : t.Fits [] place

theorem fits_of_short (h : ∀ name ∈ parts, name.utf8ByteSize ≤ nameLimit) : t.Fits start parts := by
  intro before name after split _
  exact h name (by simp [split])

theorem Fits.tail (h : t.Fits start (name :: parts)) : t.Fits (start ++ [name]) parts := by
  intro before other after split directory
  rw [List.append_assoc] at directory
  exact h (name :: before) other after (by rw [split]; rfl) directory

/-! ## What asking comes to -/

/-- Where nothing stands, a walk ends early, but not at a name that is too long. -/
theorem arrive_of_absent (spelled : ∀ name ∈ parts, PlaceName name) (fits : t.Fits start parts)
    (absent : t.get? (start ++ parts) = none) :
    ∃ f, t.arrive start parts = .error f ∧ f ≠ .nameTooLong := by
  induction parts generalizing start with
  | nil =>
      rw [List.append_nil] at absent
      refine ⟨.noEntry, ?_, by decide⟩
      simp only [arrive, walk, absent]
  | cons name rest ih =>
      cases directory : t.isDirectory start with
      | false =>
          refine ⟨.notDirectory, ?_, by decide⟩
          simp [arrive, walk, directory]
      | true =>
          have short := fits [] name rest rfl (by rwa [List.append_nil])
          rw [arrive_name directory ((spelled name List.mem_cons_self).entryName short)]
          split
          · rw [List.append_cons] at absent
            exact ih (fun n known => spelled n (List.mem_cons_of_mem _ known)) fits.tail absent
          · exact ⟨.noEntry, rfl, by decide⟩

theorem walk_of_long (directory : t.isDirectory place = true) (spelled : PlaceName name)
    (long : nameLimit < name.utf8ByteSize) (rest : List String) :
    t.walk place (name :: rest) = .error .nameTooLong := by
  have loud := not_silent_of_isPart spelled.part
  simp [walk, directory, loud, spelled.notParent, long]

theorem walk_from_top (sound : t.Sound) {e : Entry} (h : t.get? place = some e) :
    t.walk [] place = .ok place := by
  rw [← List.nil_append place] at h
  exact walk_of_get? sound h

theorem isPathText_of_spelled (spelled : ∀ name ∈ place, PlaceName name) :
    (ofPlace place).parts.all isPathText = true :=
  List.all_eq_true.mpr fun name known => (spelled name known).isPathText

theorem find_of_path (spelled : ∀ name ∈ place, PlaceName name)
    (short : place.toString.utf8ByteSize < pathLimit) :
    t.find place.toString = (t.arrive [] place).mapError (Fault.atPath · place.toString) :=
  find_toString_eq (plain_of_spelled spelled) (isPathText_of_spelled spelled) short rfl

/-- A place that the system can be asked for has what stands there. -/
theorem probe_of_askable (sound : t.Sound) (spelled : ∀ name ∈ place, PlaceName name)
    (askable : t.Askable place) : t.probe place.toString = .ok (t.get? place) := by
  rw [probe, find_of_path spelled askable.path]
  cases stands : t.get? place with
  | some e =>
      rw [arrive, walk_from_top sound stands]
      dsimp only
      rw [stands]
      rfl
  | none =>
      obtain ⟨f, ended, other⟩ := arrive_of_absent spelled askable.names stands
      rw [ended]
      cases f with
      | nameTooLong => exact absurd rfl other
      | _ => rfl

theorem find_of_not_askable (sound : t.Sound) (spelled : ∀ name ∈ place, PlaceName name)
    (refused : ¬ t.Askable place) :
    t.find place.toString = .error (.atPath .nameTooLong place.toString) := by
  by_cases path : place.toString.utf8ByteSize < pathLimit
  · obtain ⟨before, name, after, split, directory, long⟩ : ∃ before name after,
        place = before ++ name :: after ∧ t.isDirectory before = true ∧
          nameLimit < name.utf8ByteSize := by
      refine Classical.byContradiction fun none => refused ⟨path, ?_⟩
      intro before name after split directory
      exact Nat.not_lt.mp fun long => none ⟨before, name, after, split, directory, long⟩
    have stands : t.get? before = some .directory := by simpa [isDirectory] using directory
    have stopped := walk_of_long directory (spelled name (by simp [split])) long after
    rw [find_of_path spelled path, arrive, split, walk_append, walk_from_top sound stands]
    dsimp only [Except.bind]
    rw [stopped]
    rfl
  · exact find_of_tooLong (plain_of_spelled spelled) (isPathText_of_spelled spelled)
      (Nat.not_lt.mp path) t

theorem probe_of_not_askable (sound : t.Sound) (spelled : ∀ name ∈ place, PlaceName name)
    (refused : ¬ t.Askable place) :
    t.probe place.toString = .error (.atPath .nameTooLong place.toString) := by
  rw [probe, find_of_not_askable sound spelled refused]
  rfl

/-! ## Places that names mean -/

theorem isPathText_parts_ofString (s : String) :
    (ofString s).parts.all isPathText = isPathText s := by
  have null : (∃ part ∈ (ofString s).parts, '\x00' ∈ part.toList) ↔ '\x00' ∈ s.toList := by
    have kept : '\x00' ≠ '/' := by decide
    rw [← Text.exists_mem_splitAtChar_iff kept]
    constructor
    · rintro ⟨part, known, inside⟩
      obtain ⟨piece, among, rfl⟩ := List.mem_map.mp (List.mem_filter.mp known).1
      exact ⟨piece, among, by simpa using inside⟩
    · rintro ⟨piece, among, inside⟩
      have differs {other : String} (h : '\x00' ∉ other.toList) : String.ofList piece ≠ other := by
        rintro rfl
        exact h (by simpa using inside)
      refine ⟨String.ofList piece, List.mem_filter.mpr ⟨List.mem_map_of_mem among, ?_⟩,
        by simpa using inside⟩
      simp [differs]
  rw [Bool.eq_iff_iff, List.all_eq_true]
  simp [isPathText, ← null]

theorem mem_follow (known : name ∈ follow start parts) :
    name ∈ start ∨ name ∈ parts ∧ name ≠ ".." := by
  induction parts generalizing start with
  | nil => exact .inl known
  | cons part rest ih =>
      rcases ih known with before | ⟨later, notParent⟩
      · dsimp only at before
        split at before
        · exact .inl (List.dropLast_subset _ before)
        next other =>
          rcases List.mem_append.mp before with earlier | here
          · exact .inl earlier
          · rw [List.mem_singleton.mp here]
            exact .inr ⟨List.mem_cons_self, other⟩
      · exact .inr ⟨List.mem_cons_of_mem _ later, notParent⟩

/-- The place that a name means is spelled with the names of the current directory and its own
parts. -/
theorem placeName_of_mem_resolve (sound : t.Sound) (home : t.isDirectory t.current = true)
    {s : String} (text : isPathText s = true)
    (known : name ∈ (ofString s).resolve t.current) : PlaceName name := by
  have plain := plain_ofString s
  have texts := List.all_eq_true.mp ((isPathText_parts_ofString s).trans text)
  have current : t.get? t.current = some .directory := by simpa [isDirectory] using home
  rcases mem_follow known with started | ⟨part, notParent⟩
  · split at started
    · cases started
    · exact (entryName_of_get? sound current name started).placeName
  · exact ⟨plain.parts name part, notParent, plain.noSlash name part, texts name part⟩

/-- The bytes of an absolute name: a slash and a name for each part. -/
theorem utf8ByteSize_toString (placed : place ≠ []) :
    place.toString.utf8ByteSize = (place.map fun name => name.utf8ByteSize + 1).sum := by
  have slash : "/".utf8ByteSize = 1 := by decide
  rw [toString_ofPlace]
  induction place with
  | nil => exact absurd rfl placed
  | cons name rest ih =>
      cases rest with
      | nil => simp [slash, Nat.add_comm]
      | cons other more =>
          rw [String.intercalate_cons_cons, List.map_cons, List.sum_cons, ← ih (by simp)]
          simp only [String.utf8ByteSize_append, slash]
          omega

/-! ## A name that is too long -/

/-- A place at the top of the tree that no entry can have. -/
def overlong : Place :=
  [String.ofList (List.replicate 300 'n')]

theorem placeName_of_mem_overlong (known : name ∈ overlong) : PlaceName name := by
  have chars : name.toList = List.replicate 300 'n' := by
    rw [List.mem_singleton.mp known, String.toList_ofList]
  have length : name.toList.length = 300 := by rw [chars, List.length_replicate]
  have differs {other : String} (h : other.toList.length ≠ 300) : name ≠ other := by
    rintro rfl
    exact h length
  have absent {c : Char} (h : c ≠ 'n') : c ∉ name.toList := by
    rw [chars]
    exact fun among => h (List.eq_of_mem_replicate among)
  constructor
  · simp [isPart, differs]
  · exact differs (by decide)
  · exact absent (by decide)
  · simpa [isPathText] using @absent '\x00' (by decide)

theorem not_askable_overlong (t : FileTree) : ¬ t.Askable overlong := by
  intro askable
  have short := askable.names [] _ [] rfl rfl
  revert short
  decide +kernel

end RefNav.FileTree
