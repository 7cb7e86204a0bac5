import Mathlib.Data.List.Lex
import Mathlib.Data.List.Nodup
import Mathlib.Data.List.TakeWhile
import Mathlib.Data.String.Basic
import RefNav.Proofs.FileTree.Below
import RefNav.Proofs.Workspace.Index

/-! # What a scan finds

A scan goes through the files below a root in the order of their paths and keeps the first of
the files that compete for a name.  So every name stands in the index with the least path among
the files that have it, whatever the index held before.
-/

namespace RefNav

open RefNav.Text

/-! ## Files in the order of their paths -/

namespace FileTree

variable {t : FileTree} {place : Place}

theorem nodup_filesBelow (sound : t.Sound) (place : Place) : (t.filesBelow place).Nodup := by
  refine List.nodup_mergeSort.mpr ?_
  refine List.Pairwise.filterMap _ ?_ (List.pairwise_map.mp sound.distinct)
  rintro ⟨first, entry⟩ ⟨second, entry'⟩ differ relative below relative' below' rfl
  cases entry with
  | directory => cases below
  | file bytes =>
      cases entry' with
      | directory => cases below'
      | file bytes' =>
          simp only [Option.ite_none_right_eq_some, Option.some.injEq,
            List.isPrefixOf_iff_prefix] at below below'
          obtain ⟨⟨rest, rfl⟩, rfl⟩ := below
          obtain ⟨⟨rest', rfl⟩, same⟩ := below'
          rw [List.drop_left, List.drop_left] at same
          exact differ (congrArg (place ++ ·) same.symm)

theorem pairwise_filesBelow (sound : t.Sound) (place : Place) :
    (t.filesBelow place).Pairwise (· < ·) := by
  have ordered : (t.filesBelow place).Pairwise (· ≤ ·) := by
    refine (@List.pairwise_mergeSort _ (fun a b : List String => !(b < a)) ?_ ?_ _).imp ?_
    · intro a b c
      simpa using le_trans
    · intro a b
      simpa using le_total a b
    · intro a b
      simp
  exact ordered.imp₂ (fun a b le ne => lt_of_le_of_ne le ne) (nodup_filesBelow sound place)

theorem mem_directoriesBelow_iff {relative : List String} :
    relative ∈ t.directoriesBelow place ↔ (place ++ relative, Entry.directory) ∈ t.entries := by
  simp only [directoriesBelow, List.mem_filterMap]
  constructor
  · rintro ⟨⟨found, entry⟩, inTree, below⟩
    cases entry with
    | file bytes => cases below
    | directory =>
        simp only [Option.ite_none_right_eq_some, Option.some.injEq,
          List.isPrefixOf_iff_prefix] at below
        obtain ⟨⟨rest, rfl⟩, dropped⟩ := below
        rw [List.drop_left] at dropped
        exact dropped ▸ inTree
  · intro inTree
    refine ⟨_, inTree, ?_⟩
    simp [List.isPrefixOf_iff_prefix]

/-- There is a file below the directory that a root leads to, at a path from there. -/
def HasFile (t : FileTree) (root : PathName) (relative : List String) : Prop :=
  ∃ place bytes, t.find root.toString = .ok (place, .directory) ∧
    t.get? (place ++ relative) = some (.file bytes)

theorem hasFile_iff (sound : t.Sound) {root : PathName} {relative : List String}
    (found : t.find root.toString = .ok (place, .directory)) :
    t.HasFile root relative ↔ relative ∈ t.filesBelow place := by
  rw [mem_filesBelow_iff]
  constructor
  · rintro ⟨other, bytes, same, file⟩
    obtain ⟨rfl, -⟩ := Prod.mk.inj (Except.ok.inj (found.symm.trans same))
    have placed : place ++ relative ≠ [] := by
      intro top
      rw [top] at file
      cases file
    exact ⟨bytes, mem_of_get? file placed⟩
  · rintro ⟨bytes, entry⟩
    exact ⟨place, bytes, found, get?_of_mem sound entry⟩

theorem HasFile.ne_nil {root : PathName} {relative : List String} (h : t.HasFile root relative) :
    relative ≠ [] := by
  obtain ⟨place, bytes, found, file⟩ := h
  rintro rfl
  have directory := (walk_of_search (search_of_find found).2).2.2
  rw [List.append_nil, directory] at file
  cases file

/-- The system follows every path that a scan of the root asks for: the root's own, and those
of all entries below it. -/
def Followed (t : FileTree) (root : PathName) : Prop :=
  (∀ message, t.find root.toString ≠ .error (.file .nameTooLong message)) ∧
    ∀ place relative e, t.find root.toString = .ok (place, .directory) →
      t.get? (place ++ relative) = some e →
        (root.join relative).toString.utf8ByteSize < pathLimit

end FileTree

/-! ## File names -/

namespace PathName

/-- The first, in the order of their parts, of the paths with a property. -/
structure First (property : PathName → Prop) (path : PathName) : Prop where
  holds : property path
  least : ∀ other, property other → path.parts ≤ other.parts

/-- A dot, and at least one character that is none. -/
def IsSuffix (suffix : List Char) : Prop :=
  suffix.head? = some '.' ∧ suffix.tail ≠ [] ∧ '.' ∉ suffix.tail

instance (suffix : List Char) : Decidable (IsSuffix suffix) :=
  inferInstanceAs (Decidable (_ ∧ _ ∧ _))

theorem isSuffix_iff {suffix : List Char} :
    IsSuffix suffix ↔ ∃ rest, suffix = '.' :: rest ∧ rest ≠ [] ∧ '.' ∉ rest := by
  constructor
  · rintro ⟨dot, some_char, noDot⟩
    obtain ⟨rest, rfl⟩ := List.head?_eq_some_iff.mp dot
    exact ⟨rest, rfl, some_char, noDot⟩
  · rintro ⟨rest, rfl, some_char, noDot⟩
    exact ⟨rfl, some_char, noDot⟩

theorem splitSuffix_append {stem suffix : String} (nonempty : stem ≠ "")
    (dotted : IsSuffix suffix.toList) : splitSuffix (stem ++ suffix) = (stem, suffix) := by
  obtain ⟨rest, chars, some_char, noDot⟩ := isSuffix_iff.mp dotted
  have behind : ((stem ++ suffix).toList.reverse.takeWhile (· ≠ '.')).reverse = rest := by
    have all : ∀ c ∈ rest.reverse, decide (c ≠ '.') = true := by
      intro c hc
      simpa using ne_of_mem_of_not_mem (List.mem_reverse.mp hc) noDot
    rw [String.toList_append, chars, List.reverse_append, List.reverse_cons, List.append_assoc,
      List.takeWhile_append_of_pos all]
    simp
  have before : (stem ++ suffix).toList.take
      ((stem ++ suffix).toList.length - rest.length - 1) = stem.toList := by
    rw [String.toList_append, chars, List.length_append, List.length_cons]
    exact List.take_left' (by omega)
  have dot : (stem ++ suffix).toList.contains '.' = true := by simp [chars]
  have some_stem : stem.toList.isEmpty = false := by simpa using nonempty
  have some_rest : rest.isEmpty = false := by simpa using some_char
  unfold splitSuffix
  dsimp only
  rw [behind, before, dot, some_stem, some_rest, ← chars]
  simp

/-- A file name is its stem and its suffix, and where there is a suffix there is a stem. -/
theorem eq_append_of_splitSuffix {name stem suffix : String}
    (h : splitSuffix name = (stem, suffix)) (some_suffix : suffix ≠ "") :
    name = stem ++ suffix ∧ stem ≠ "" := by
  unfold splitSuffix at h
  dsimp only at h
  split at h
  next parts =>
    obtain ⟨rfl, rfl⟩ := Prod.mk.inj h
    simp only [Bool.and_eq_true, Bool.not_eq_true', List.isEmpty_eq_false_iff,
      List.contains_iff_mem] at parts
    obtain ⟨⟨dot, some_stem⟩, -⟩ := parts
    refine ⟨?_, by simpa using some_stem⟩
    -- The characters behind the last dot are those in front of the first dot from the end.
    obtain ⟨more, rest⟩ : ∃ more, name.toList.reverse.dropWhile (· ≠ '.') = '.' :: more := by
      cases rest : name.toList.reverse.dropWhile (· ≠ '.') with
      | nil =>
          have none := List.dropWhile_eq_nil_iff.mp rest '.' (List.mem_reverse.mpr dot)
          simp at none
      | cons c more =>
          have stopped := List.head?_dropWhile_not (· ≠ '.') name.toList.reverse
          rw [rest] at stopped
          have isDot : c = '.' := by simpa using stopped
          exact ⟨more, by rw [isDot]⟩
    generalize last : (name.toList.reverse.takeWhile (· ≠ '.')).reverse = suffix at *
    have split : name.toList = more.reverse ++ '.' :: suffix := by
      have whole := congrArg List.reverse
        (List.takeWhile_append_dropWhile (p := (· ≠ '.')) (l := name.toList.reverse))
      rw [rest, List.reverse_append, List.reverse_cons, List.reverse_reverse, last] at whole
      simpa using whole.symm
    have taken : name.toList.take (name.toList.length - suffix.length - 1) = more.reverse := by
      rw [split, List.length_append, List.length_cons]
      exact List.take_left' (by omega)
    apply String.toList_injective
    rw [taken, String.toList_append, String.toList_ofList, String.toList_ofList, ← split]
  · obtain ⟨rfl, rfl⟩ := Prod.mk.inj h
    exact absurd rfl some_suffix

theorem eq_dot_of_lower {c : Char} (h : lower c = '.') : c = '.' := by
  unfold lower at h
  split at h
  next capital =>
    have range : 65 ≤ c.toNat ∧ c.toNat ≤ 90 := by
      simpa [Char.le_def, UInt32.le_iff_toNat_le] using capital
    have small : (Char.ofNat (c.toNat + 32)).toNat = c.toNat + 32 := by
      rw [Char.ofNat, dif_pos (.inl (by omega))]
      rfl
    have dot : '.'.toNat = 46 := rfl
    rw [h] at small
    omega
  next => exact h

theorem isSuffix_of_lowered {suffix : String} (h : IsSuffix (lowered suffix).toList) :
    IsSuffix suffix.toList := by
  obtain ⟨rest, chars, some_char, noDot⟩ := isSuffix_iff.mp h
  rw [lowered, String.toList_ofList] at chars
  obtain ⟨dot, others, split, isDot, same⟩ := List.map_eq_cons_iff.mp chars
  refine isSuffix_iff.mpr
    ⟨others, by rw [split, eq_dot_of_lower isDot], ?_, fun known => noDot ?_⟩
  · rintro rfl
    exact some_char same.symm
  · rw [← same]
    exact List.mem_map.mpr ⟨'.', known, rfl⟩

/-- The stem and the suffix of a file name, if the suffix is one of some when case is
ignored. -/
theorem splitSuffix_iff {suffixes : List String} (shaped : ∀ s ∈ suffixes, IsSuffix s.toList)
    {name stem : String} :
    ((splitSuffix name).1 = stem ∧ Index.suffixOf name ∈ suffixes) ↔
      stem ≠ "" ∧ ∃ suffix, lowered suffix ∈ suffixes ∧ name = stem ++ suffix := by
  constructor
  · rintro ⟨rfl, known⟩
    have some_suffix : (splitSuffix name).2 ≠ "" := by
      intro empty
      have dot := (shaped _ known).1
      rw [Index.suffixOf, empty] at dot
      cases dot
    obtain ⟨split, some_stem⟩ :=
      eq_append_of_splitSuffix (Prod.eta (splitSuffix name)).symm some_suffix
    exact ⟨some_stem, _, known, split⟩
  · rintro ⟨some_stem, suffix, known, rfl⟩
    have split := splitSuffix_append some_stem (isSuffix_of_lowered (shaped _ known))
    rw [Index.suffixOf, split]
    exact ⟨rfl, known⟩

end PathName

/-! ## Tables in which the first entry wins -/

section

variable {α : Type} {table pairs : List (String × α)} {name : String} {value : α}

/-- Enter names with their values one after another; the first value of a name stays. -/
def enter (table pairs : List (String × α)) : List (String × α) :=
  pairs.foldl (fun table p => addFirst table p.1 p.2) table

theorem enter_sublist (table pairs : List (String × α)) :
    (enter table pairs).Sublist (table ++ pairs) := by
  induction pairs generalizing table with
  | nil => simp [enter]
  | cons p rest ih =>
      -- One more name is appended, or left out if the table has it.
      have step : (addFirst table p.1 p.2).Sublist (table ++ [p]) := by
        unfold addFirst
        split
        · exact List.sublist_append_left table [p]
        · exact List.Sublist.refl _
      refine (ih (addFirst table p.1 p.2)).trans ?_
      simpa using step.append_right rest

/-- A name keeps the value that it has; a new one gets the first that is entered for it. -/
theorem mem_enter_iff : (name, value) ∈ enter table pairs ↔
    (name, value) ∈ table ∨ table.lookup name = none ∧ pairs.lookup name = some value := by
  induction pairs generalizing table with
  | nil => simp [enter]
  | cons p rest ih =>
      have step : enter table (p :: rest) = enter (addFirst table p.1 p.2) rest := rfl
      rw [step, ih, lookup_addFirst, List.lookup_cons]
      by_cases same : name = p.1
      · subst same
        unfold addFirst
        cases known : table.lookup p.1 with
        | some found => simp
        | none => simp [Prod.ext_iff, eq_comm]
      · have differs : (name == p.1) = false := by simpa using same
        have apart : (name, value) ∈ addFirst table p.1 p.2 ↔ (name, value) ∈ table := by
          unfold addFirst
          split
          · rfl
          · simp [Prod.ext_iff, same]
        simp [apart, same, differs]

variable {l : List (String × PathName)} {path : PathName}

/-- Going through a list in the order of its keys comes to the least key with a result. -/
theorem findSome?_eq_some_iff_least {α β κ : Type} [LinearOrder κ] {key : α → κ} {l : List α}
    (sorted : l.Pairwise fun a b => key a < key b) {f : α → Option β} {b : β} :
    l.findSome? f = some b ↔
      ∃ a ∈ l, f a = some b ∧ ∀ c ∈ l, (f c).isSome = true → key a ≤ key c := by
  constructor
  · intro h
    obtain ⟨before, a, after, rfl, here, absent⟩ := List.findSome?_eq_some_iff.mp h
    refine ⟨a, by simp, here, fun c known some_c => ?_⟩
    rcases List.mem_append.mp known with earlier | later
    · simp [absent c earlier] at some_c
    · rcases List.mem_cons.mp later with rfl | behind
      · exact le_rfl
      · have ordered := (List.pairwise_append.mp sorted).2.1
        exact le_of_lt ((List.pairwise_cons.mp ordered).1 c behind)
  · rintro ⟨a, known, here, least⟩
    -- What stands before has a smaller key, and so no result.
    obtain ⟨before, after, rfl⟩ := List.append_of_mem known
    refine List.findSome?_eq_some_iff.mpr ⟨before, a, after, rfl, here, fun c earlier => ?_⟩
    have less : key c < key a :=
      (List.pairwise_append.mp sorted).2.2 c earlier a List.mem_cons_self
    refine Option.not_isSome_iff_eq_none.mp fun some_c => ?_
    exact not_le.mpr less (least c (List.mem_append_left _ earlier) some_c)

/-- In the order of paths, the first entry with a property has the least path among them. -/
theorem find?_eq_some_iff_first (sorted : l.Pairwise fun a b => a.2.parts < b.2.parts)
    {property : String × PathName → Bool} :
    (l.find? property).map (·.2) = some path ↔
      PathName.First (fun p => ∃ name, (name, p) ∈ l ∧ property (name, p) = true) path := by
  rw [← List.findSome?_guard, List.map_findSome?, findSome?_eq_some_iff_least sorted]
  simp only [Function.comp_apply, Option.isSome_map, Option.isSome_guard, Option.map_eq_some_iff,
    Option.guard_eq_some_iff]
  constructor
  · rintro ⟨e, known, ⟨_, ⟨rfl, holds⟩, rfl⟩, least⟩
    refine ⟨⟨e.1, known, holds⟩, ?_⟩
    rintro other ⟨name, among, otherHolds⟩
    exact least (name, other) among otherHolds
  · rintro ⟨⟨name, known, holds⟩, least⟩
    refine ⟨(name, path), known, ⟨_, ⟨rfl, holds⟩, rfl⟩, fun e among otherHolds => ?_⟩
    exact least e.2 ⟨e.1, among, otherHolds⟩

theorem lookup_eq_find? {α : Type} (l : List (String × α)) (name : String) :
    l.lookup name = (l.find? (name == ·.1)).map (·.2) := by
  induction l with
  | nil => rfl
  | cons e rest ih =>
      rw [List.lookup_cons, List.find?_cons, ih]
      cases name == e.1 <;> rfl

theorem lookup_eq_some_iff_first (sorted : l.Pairwise fun a b => a.2.parts < b.2.parts) :
    l.lookup name = some path ↔ PathName.First (fun p => (name, p) ∈ l) path := by
  have alike : (fun p => ∃ other, (other, p) ∈ l ∧ (name == other) = true) =
      fun p => (name, p) ∈ l := by
    funext p
    simp
  rw [lookup_eq_find?, find?_eq_some_iff_first sorted, alike]

end

/-! ## What a file stands for -/

namespace Index

variable {t : FileTree} {root path : PathName} {place : Place} {relative folders : List String}
  {name stem : String} {i : Index}

/-- The file at a path below the root stands in some folders and is named by a stem and a
suffix, which is one of those given if case is ignored. -/
def Source (t : FileTree) (root : PathName) (suffixes folders : List String) (stem : String)
    (path : PathName) : Prop :=
  stem ≠ "" ∧ ∃ suffix, lowered suffix ∈ suffixes ∧ t.HasFile root (folders ++ [stem ++ suffix]) ∧
    path = root.join (folders ++ [stem ++ suffix])

/-- The file holds the routine of that name. -/
def IsRoutine (t : FileTree) (root : PathName) (name : String) (path : PathName) : Prop :=
  ∃ folders, Source t root [".mac", ".int", ".inc", ".m"] folders name path

/-- The file can be included. -/
def IsInclude (t : FileTree) (root path : PathName) : Prop :=
  ∃ folders stem, Source t root [".inc"] folders stem path

/-- The file holds the class of that dotted name. -/
def IsClass (t : FileTree) (root : PathName) (name : String) (path : PathName) : Prop :=
  ∃ folders stem, Source t root [".cls"] folders stem path ∧
    name = ".".intercalate (folders ++ [stem])

/-- What a file adds to the routines. -/
def asRoutine? (root : PathName) (relative : List String) : Option (String × PathName) :=
  let name := relative.getLast?.getD ""
  if suffixOf name ∈ routineSuffixes then
    some ((PathName.splitSuffix name).1, root.join relative)
  else none

/-- What a file adds to the classes. -/
def asClass? (root : PathName) (relative : List String) : Option (String × PathName) :=
  if suffixOf (relative.getLast?.getD "") = classSuffix then
    some (className relative, root.join relative)
  else none

/-- What a file adds to the include files. -/
def asInclude? (root : PathName) (relative : List String) : Option PathName :=
  if suffixOf (relative.getLast?.getD "") = includeSuffix then some (root.join relative) else none

theorem addFile_eq (i : Index) (relative : List String) :
    i.addFile relative =
      { root := i.root
        routines := enter i.routines (asRoutine? i.root relative).toList
        classes := enter i.classes (asClass? i.root relative).toList
        includes := i.includes ++ (asInclude? i.root relative).toList } := by
  unfold addFile asRoutine? asClass? asInclude?
  dsimp only
  generalize suffixOf (relative.getLast?.getD "") = suffix
  -- An include file is a routine too; a class file is neither.
  have included : includeSuffix ∈ routineSuffixes := by decide
  have apart : classSuffix ∉ routineSuffixes ∧ includeSuffix ≠ classSuffix := by decide
  by_cases isInclude : suffix = includeSuffix
  · subst isInclude
    simp [included, apart, enter]
  by_cases isClass : suffix = classSuffix
  · subst isClass
    simp [apart, apart.2.symm, enter]
  by_cases isRoutine : suffix ∈ routineSuffixes <;>
    simp [isRoutine, isInclude, isClass, enter]

theorem enter_append {α : Type} (table pairs more : List (String × α)) :
    enter table (pairs ++ more) = enter (enter table pairs) more :=
  List.foldl_append

theorem addFiles_snd (i : Index) (files : List (List String)) :
    (i.addFiles files).2 = files.findSome? i.tooLong? := by
  induction files generalizing i with
  | nil => rfl
  | cons first rest ih =>
      -- Refusals depend on the root alone, which a file leaves as it is.
      have same : (i.addFile first).tooLong? = i.tooLong? := by
        funext relative
        simp only [tooLong?, root_addFile]
      rw [addFiles, List.findSome?_cons]
      cases i.tooLong? first with
      | some f => rfl
      | none => exact (ih _).trans (by rw [same])

/-- Files that are all followed are entered one after another. -/
theorem addFiles_eq {files : List (List String)} (followed : ∀ f ∈ files, i.tooLong? f = none) :
    i.addFiles files =
      ({ root := i.root
         routines := enter i.routines (files.filterMap (asRoutine? i.root))
         classes := enter i.classes (files.filterMap (asClass? i.root))
         includes := i.includes ++ files.filterMap (asInclude? i.root) }, none) := by
  induction files generalizing i with
  | nil => simp [addFiles, enter]
  | cons first rest ih =>
      have here : i.tooLong? first = none := followed first List.mem_cons_self
      have later : ∀ f ∈ rest, (i.addFile first).tooLong? f = none := by
        intro f inRest
        rw [tooLong?, root_addFile]
        exact followed f (List.mem_cons_of_mem _ inRest)
      have split {β : Type} (adds : List String → Option β) :
          (first :: rest).filterMap adds = (adds first).toList ++ rest.filterMap adds := by
        cases found : adds first <;> simp [found]
      rw [addFiles, here]
      dsimp only
      rw [ih later, root_addFile, split, split, split, enter_append, enter_append,
        ← List.append_assoc, addFile_eq]

/-! ## The entries of a scan -/

theorem mem_filterMap_filesBelow (sound : t.Sound)
    (found : t.find root.toString = .ok (place, .directory)) {β : Type}
    {adds : List String → Option β} {b : β} :
    b ∈ (t.filesBelow place).filterMap adds ↔
      ∃ folders file, t.HasFile root (folders ++ [file]) ∧
        adds (folders ++ [file]) = some b := by
  rw [List.mem_filterMap]
  constructor
  · rintro ⟨relative, below, entry⟩
    have hasFile := (FileTree.hasFile_iff sound found).mpr below
    obtain ⟨folders, file, rfl⟩ := (List.eq_nil_or_concat' relative).resolve_left hasFile.ne_nil
    exact ⟨folders, file, hasFile, entry⟩
  · rintro ⟨folders, file, hasFile, entry⟩
    exact ⟨_, (FileTree.hasFile_iff sound found).mp hasFile, entry⟩

theorem source_iff {suffixes : List String}
    (shaped : ∀ s ∈ suffixes, PathName.IsSuffix s.toList) :
    Source t root suffixes folders stem path ↔
      ∃ file, t.HasFile root (folders ++ [file]) ∧ suffixOf file ∈ suffixes ∧
        (PathName.splitSuffix file).1 = stem ∧ root.join (folders ++ [file]) = path := by
  constructor
  · rintro ⟨some_stem, suffix, known, hasFile, rfl⟩
    obtain ⟨stems, isSuffix⟩ :=
      (PathName.splitSuffix_iff shaped).mpr ⟨some_stem, suffix, known, rfl⟩
    exact ⟨_, hasFile, isSuffix, stems, rfl⟩
  · rintro ⟨file, hasFile, isSuffix, stems, rfl⟩
    obtain ⟨some_stem, suffix, known, rfl⟩ :=
      (PathName.splitSuffix_iff shaped).mp ⟨stems, isSuffix⟩
    exact ⟨some_stem, suffix, known, hasFile, rfl⟩

section

variable (sound : t.Sound) (found : t.find root.toString = .ok (place, .directory))

include sound found

theorem mem_routineEntries_iff :
    (name, path) ∈ (t.filesBelow place).filterMap (asRoutine? root) ↔
      IsRoutine t root name path := by
  have shaped : ∀ s ∈ [".mac", ".int", ".inc", ".m"], PathName.IsSuffix s.toList := by decide
  rw [mem_filterMap_filesBelow sound found]
  simp only [IsRoutine, source_iff shaped]
  refine exists_congr fun folders => exists_congr fun file => ?_
  simp [asRoutine?, routineSuffixes]

theorem mem_classEntries_iff :
    (name, path) ∈ (t.filesBelow place).filterMap (asClass? root) ↔
      IsClass t root name path := by
  have shaped : ∀ s ∈ [".cls"], PathName.IsSuffix s.toList := by decide
  rw [mem_filterMap_filesBelow sound found]
  simp only [IsClass, source_iff shaped]
  constructor
  · rintro ⟨folders, file, hasFile, entry⟩
    simp only [asClass?, className, classSuffix, List.getLast?_append, List.getLast?_singleton,
      Option.some_or, Option.getD_some, List.dropLast_concat, Option.ite_none_right_eq_some,
      Option.some.injEq, Prod.mk.injEq] at entry
    obtain ⟨isClass, rfl, same⟩ := entry
    exact ⟨folders, _, ⟨file, hasFile, List.mem_singleton.mpr isClass, rfl, same⟩, rfl⟩
  · rintro ⟨folders, stem, ⟨file, hasFile, isClass, rfl, rfl⟩, rfl⟩
    refine ⟨folders, file, hasFile, ?_⟩
    simp [asClass?, className, classSuffix, List.mem_singleton.mp isClass]

theorem mem_includeEntries_iff :
    path ∈ (t.filesBelow place).filterMap (asInclude? root) ↔ IsInclude t root path := by
  have shaped : ∀ s ∈ [".inc"], PathName.IsSuffix s.toList := by decide
  rw [mem_filterMap_filesBelow sound found]
  simp only [IsInclude, source_iff shaped]
  constructor
  · rintro ⟨folders, file, hasFile, entry⟩
    simp only [asInclude?, includeSuffix, List.getLast?_append, List.getLast?_singleton,
      Option.some_or, Option.getD_some, Option.ite_none_right_eq_some, Option.some.injEq] at entry
    exact ⟨folders, _, file, hasFile, List.mem_singleton.mpr entry.1, rfl, entry.2⟩
  · rintro ⟨folders, stem, file, hasFile, isInclude, rfl, rfl⟩
    refine ⟨folders, file, hasFile, ?_⟩
    simp [asInclude?, includeSuffix, List.mem_singleton.mp isInclude]

omit root found in
/-- Entries that are made of paths below the root come in the order of these paths. -/
theorem pairwise_entries (root : PathName) {β : Type} {adds : List String → Option β}
    {pathOf : β → PathName}
    (made : ∀ relative b, adds relative = some b → pathOf b = root.join relative) :
    ((t.filesBelow place).filterMap adds).Pairwise
      fun a b => (pathOf a).parts < (pathOf b).parts := by
  refine List.Pairwise.filterMap adds ?_ (FileTree.pairwise_filesBelow sound place)
  intro relative relative' less b entry b' entry'
  rw [made _ _ entry, made _ _ entry']
  exact List.append_left_lt less

end

/-- Every name with a file stands in the table with the first of its files, and the table is in
the order of the paths. -/
structure KeepsFirst (table : List (String × PathName)) (files : String → PathName → Prop) :
    Prop where
  entries : ∀ name path, (name, path) ∈ table ↔ PathName.First (files name) path
  complete : ∀ name path, files name path → ∃ first, (name, first) ∈ table
  ordered : table.Pairwise fun a b => a.2.parts < b.2.parts

theorem keepsFirst_enter {pairs : List (String × PathName)}
    (sorted : pairs.Pairwise fun a b => a.2.parts < b.2.parts) {files : String → PathName → Prop}
    (same : ∀ name path, (name, path) ∈ pairs ↔ files name path) :
    KeepsFirst (enter [] pairs) files where
  entries := by
    intro name path
    have alike : (fun p => (name, p) ∈ pairs) = files name := funext fun p => propext (same name p)
    rw [mem_enter_iff, lookup_eq_some_iff_first sorted, alike]
    simp
  complete := by
    intro name path file
    obtain ⟨first, known⟩ : ∃ first, pairs.lookup name = some first := by
      refine Option.ne_none_iff_exists'.mp fun absent => ?_
      have differs := List.lookup_eq_none_iff.mp absent _ ((same name path).mpr file)
      simp at differs
    exact ⟨first, mem_enter_iff.mpr (.inr ⟨rfl, known⟩)⟩
  ordered := sorted.sublist (enter_sublist [] pairs)

/-- The index holds what stands below its root in the tree. -/
structure Covers (i : Index) (t : FileTree) : Prop where
  routines : KeepsFirst i.routines (IsRoutine t i.root)
  classes : KeepsFirst i.classes (IsClass t i.root)
  includes : ∀ path, path ∈ i.includes ↔ IsInclude t i.root path
  ordered : i.includes.Pairwise fun a b => a.parts < b.parts

/-- Below a root that is no directory there is nothing to be held. -/
theorem covers_empty (elsewhere : ∀ place, t.find root.toString ≠ .ok (place, .directory)) :
    Covers { root } t := by
  have nowhere {suffixes folders : List String} {stem : String} {path : PathName} :
      ¬ Source t root suffixes folders stem path := by
    rintro ⟨_, _, _, ⟨place, _, found, _⟩, _⟩
    exact elsewhere place found
  constructor
  · refine keepsFirst_enter .nil fun name path => iff_of_false List.not_mem_nil ?_
    exact fun ⟨_, file⟩ => nowhere file
  · refine keepsFirst_enter .nil fun name path => iff_of_false List.not_mem_nil ?_
    exact fun ⟨_, _, file, _⟩ => nowhere file
  · exact fun path => iff_of_false List.not_mem_nil fun ⟨_, _, file⟩ => nowhere file
  · exact .nil

theorem covers_files (sound : t.Sound)
    (found : t.find root.toString = .ok (place, .directory))
    (followed : ∀ f ∈ t.filesBelow place, tooLong? { root } f = none) :
    (addFiles { root } (t.filesBelow place)).1.Covers t := by
  rw [addFiles_eq followed]
  constructor
  · refine keepsFirst_enter (pairwise_entries sound root ?_) fun name path =>
      mem_routineEntries_iff sound found
    intro relative b entry
    simp only [asRoutine?, Option.ite_none_right_eq_some, Option.some.injEq] at entry
    rw [← entry.2]
  · refine keepsFirst_enter (pairwise_entries sound root ?_) fun name path =>
      mem_classEntries_iff sound found
    intro relative b entry
    simp only [asClass?, Option.ite_none_right_eq_some, Option.some.injEq] at entry
    rw [← entry.2]
  · exact fun path => mem_includeEntries_iff sound found
  · refine pairwise_entries sound root ?_
    intro relative b entry
    simp only [asInclude?, Option.ite_none_right_eq_some, Option.some.injEq] at entry
    exact entry.2.symm

theorem covers_of_scan (sound : t.Sound) {log : List LogRecord}
    (scanned : scan t root = .ok (i, log)) : i.root = root ∧ i.Covers t := by
  rcases of_scan scanned with ⟨place, found, _, entered, _⟩ | ⟨elsewhere, rfl, _⟩
  · have after : (addFiles { root } (t.filesBelow place)).1 = i := by rw [entered]
    have followed := List.findSome?_eq_none_iff.mp
      ((addFiles_snd { root } (t.filesBelow place)).symm.trans (by rw [entered]))
    rw [← after]
    exact ⟨root_addFiles _ _, covers_files sound found followed⟩
  · exact ⟨rfl, covers_empty elsewhere⟩

/-! ## Where a scan fails -/

theorem tooLong?_eq_none_iff :
    i.tooLong? relative = none ↔
      (i.root.join relative).toString.utf8ByteSize < FileTree.pathLimit := by
  simp [tooLong?]

theorem eq_of_tooLong? {f : Fault} (h : i.tooLong? relative = some f) :
    ∃ message, f = .file .nameTooLong message := by
  simp only [tooLong?, Option.ite_none_right_eq_some, Option.some.injEq] at h
  exact ⟨_, h.2.symm⟩

/-- The first refusal of a path below a directory ends the scan; without one it comes to an
end. -/
theorem rescan_snd (found : t.find i.root.toString = .ok (place, .directory)) :
    (i.rescan t).2 =
      match (t.directoriesBelow place ++ t.filesBelow place).findSome? i.tooLong? with
      | some f => .error f
      | none => .ok [(i.rescan t).1.scanRecord] := by
  have refused : i.tooLong? = tooLong? { root := i.root } := rfl
  unfold rescan
  rw [found, List.findSome?_append, refused]
  dsimp only
  cases (t.directoriesBelow place).findSome? (tooLong? { root := i.root }) with
  | some f => rfl
  | none =>
      rw [Option.none_or, ← addFiles_snd]
      rcases addFiles { root := i.root } (t.filesBelow place) with ⟨filled, _ | f⟩ <;> rfl

theorem followed_iff (sound : t.Sound) (found : t.find i.root.toString = .ok (place, .directory)) :
    t.Followed i.root ↔
      (t.directoriesBelow place ++ t.filesBelow place).findSome? i.tooLong? = none := by
  rw [List.findSome?_eq_none_iff]
  simp only [tooLong?_eq_none_iff]
  constructor
  · rintro ⟨-, short⟩ relative below
    rcases List.mem_append.mp below with directory | file
    · exact short place relative _ found
        (FileTree.get?_of_mem sound (FileTree.mem_directoriesBelow_iff.mp directory))
    · obtain ⟨bytes, entry⟩ := FileTree.mem_filesBelow_iff.mp file
      exact short place relative _ found (FileTree.get?_of_mem sound entry)
  · intro short
    refine ⟨fun message fails => ?_, fun other relative e same entry => ?_⟩
    · rw [found] at fails
      cases fails
    · obtain ⟨rfl, -⟩ := Prod.mk.inj (Except.ok.inj (found.symm.trans same))
      by_cases top : place ++ relative = []
      · -- The top of the tree is the root itself, whose path was followed.
        obtain ⟨-, rfl⟩ := List.append_eq_nil_iff.mp top
        have here := (FileTree.walk_of_search (FileTree.search_of_find found).2).1
        simpa [PathName.join] using here
      · have known := FileTree.mem_of_get? entry top
        cases e with
        | directory =>
            exact short _ (List.mem_append_left _ (FileTree.mem_directoriesBelow_iff.mpr known))
        | file bytes =>
            exact short _ (List.mem_append_right _ (FileTree.mem_filesBelow_iff.mpr ⟨bytes, known⟩))

/-- Only a path that is too long makes a scan fail. -/
theorem rescan_cases (sound : t.Sound) (i : Index) :
    t.Followed i.root ∧ (∃ records, (i.rescan t).2 = .ok records) ∨
      ¬ t.Followed i.root ∧ ∃ message, (i.rescan t).2 = .error (.file .nameTooLong message) := by
  by_cases directory : ∃ place, t.find i.root.toString = .ok (place, .directory)
  · obtain ⟨place, found⟩ := directory
    rw [followed_iff sound found, rescan_snd found]
    cases refused : (t.directoriesBelow place ++ t.filesBelow place).findSome? i.tooLong? with
    | none => exact .inl ⟨rfl, _, rfl⟩
    | some f =>
        obtain ⟨relative, _, here⟩ := List.exists_of_findSome?_eq_some refused
        obtain ⟨message, rfl⟩ := eq_of_tooLong? here
        exact .inr ⟨nofun, message, rfl⟩
  · have elsewhere : ∀ place, t.find i.root.toString ≠ .ok (place, .directory) :=
      not_exists.mp directory
    unfold rescan
    dsimp only
    split
    next place found => exact absurd found (elsewhere place)
    next message long => exact .inr ⟨fun followed => followed.1 message long, message, rfl⟩
    next _ short =>
      refine .inl ⟨⟨short, fun place _ _ found => absurd found (elsewhere place)⟩, _, rfl⟩

theorem scan_eq (t : FileTree) (i : Index) :
    scan t i.root = (i.rescan t).2.map fun records => ((i.rescan t).1, records) := by
  have afresh : rescan { root := i.root } t = i.rescan t := rfl
  rw [scan, afresh]
  rcases i.rescan t with ⟨after, f | records⟩ <;> rfl

theorem rescan_of_files (found : t.find i.root.toString = .ok (place, .directory))
    (followed : (t.directoriesBelow place).findSome? i.tooLong? = none) {after : Index}
    (entered : addFiles { root := i.root } (t.filesBelow place) = (after, none)) :
    i.rescan t = (after, .ok [after.scanRecord]) := by
  have empty : (t.directoriesBelow place).findSome? (tooLong? { root := i.root }) = none :=
    followed
  unfold rescan
  rw [found]
  dsimp only
  rw [empty, entered]

theorem scan_of_rescan {after : Index} {records : List LogRecord}
    (h : i.rescan t = (after, .ok records)) : scan t i.root = .ok (after, records) := by
  rw [scan_eq, h]
  rfl

/-- A scan covers what stands below the root, or a path is too long. -/
theorem scan_cases (sound : t.Sound) (root : PathName) :
    t.Followed root ∧ (∃ i records, scan t root = .ok (i, records) ∧ i.root = root ∧ i.Covers t) ∨
      ¬ t.Followed root ∧ ∃ message, scan t root = .error (.file .nameTooLong message) := by
  rcases rescan_cases sound { root } with ⟨followed, records, ended⟩ | ⟨refused, message, ended⟩
  · have scanned : scan t root = .ok ((rescan { root } t).1, records) :=
      scan_of_rescan (i := { root }) (Prod.ext rfl ended)
    exact .inl ⟨followed, _, records, scanned, covers_of_scan sound scanned⟩
  · refine .inr ⟨refused, message, ?_⟩
    rw [scan_eq t { root }, ended]
    rfl

theorem followed_of_scan (sound : t.Sound) {log : List LogRecord}
    (scanned : scan t root = .ok (i, log)) : t.Followed root := by
  rcases scan_cases sound root with ⟨followed, -⟩ | ⟨-, message, failed⟩
  · exact followed
  · rw [failed] at scanned
    cases scanned

/-- Whatever an index held before, a scan whose paths the system follows leaves it with what
stands below its root now, and a new index comes to the same: every name of a routine or class
with the least path among its files, all include files, in the order of their paths, and nothing
if the root is no directory.  A path too long makes the scan fail. -/
theorem rescan_first_of_name (t : FileTree) (sound : t.Sound) (i : Index) :
    (t.Followed i.root → ∃ after records, i.rescan t = (after, .ok records) ∧
      scan t i.root = .ok (after, records) ∧ after.root = i.root ∧ after.Covers t ∧
        ((∀ place, t.find i.root.toString ≠ .ok (place, .directory)) →
          after.routines = [] ∧ after.classes = [] ∧ after.includes = [])) ∧
    (¬ t.Followed i.root → ∃ after message,
      i.rescan t = (after, .error (.file .nameTooLong message)) ∧
        scan t i.root = .error (.file .nameTooLong message)) := by
  rcases rescan_cases sound i with ⟨followed, records, ended⟩ | ⟨refused, message, ended⟩
  · refine ⟨fun _ => ?_, absurd followed⟩
    have rescanned : i.rescan t = ((i.rescan t).1, .ok records) := Prod.ext rfl ended
    have scanned := scan_of_rescan rescanned
    obtain ⟨root, covers⟩ := covers_of_scan sound scanned
    refine ⟨_, records, rescanned, scanned, root, covers, fun elsewhere => ?_⟩
    rcases of_scan scanned with ⟨place, found, _⟩ | ⟨_, empty, _⟩
    · exact absurd found (elsewhere place)
    · rw [empty]
      exact ⟨rfl, rfl, rfl⟩
  · refine ⟨fun followed => absurd followed refused, fun _ => ?_⟩
    refine ⟨(i.rescan t).1, message, Prod.ext rfl ended, ?_⟩
    rw [scan_eq, ended]
    rfl

/-- Files of three folders compete for two names, and an index that held another file forgets
it. -/
theorem rescan_first_of_name_competing :
    let t : FileTree :=
      { entries := [(["ws"], .directory), (["ws", "M.Inc"], .file []), (["ws", "P"], .directory),
          (["ws", "P", "Q.cls"], .file []), (["ws", "P.Q.CLS"], .file []),
          (["ws", "R.INT"], .file []), (["ws", "a"], .directory),
          (["ws", "a", "R.mac"], .file [])] }
    let i : Index :=
      { root := ⟨"/", ["ws"]⟩
        routines := [("Old", ⟨"/", ["ws", "Old.mac"]⟩)] }
    t.Sound ∧ t.Followed i.root ∧ ∃ after records, i.rescan t = (after, .ok records) ∧
      after.Covers t ∧
      after.routines = [("M", ⟨"/", ["ws", "M.Inc"]⟩), ("R", ⟨"/", ["ws", "R.INT"]⟩)] ∧
      after.classes = [("P.Q", ⟨"/", ["ws", "P", "Q.cls"]⟩)] ∧
      after.includes = [⟨"/", ["ws", "M.Inc"]⟩] := by
  intro t i
  have sound : t.Sound := by constructor <;> decide
  have found : t.find i.root.toString = .ok (["ws"], .directory) := by decide +kernel
  have files : t.filesBelow ["ws"] =
      [["M.Inc"], ["P", "Q.cls"], ["P.Q.CLS"], ["R.INT"], ["a", "R.mac"]] :=
    List.mergeSort_of_pairwise (by decide)
  have followed : t.Followed i.root := by
    rw [followed_iff sound found, files]
    decide +kernel
  obtain ⟨after, records, rescanned, scanned, -, covers, -⟩ :=
    (rescan_first_of_name t sound i).1 followed
  refine ⟨sound, followed, after, records, rescanned, covers, ?_⟩
  rcases of_scan scanned with ⟨place, here, -, entered, -⟩ | ⟨elsewhere, -⟩
  · obtain ⟨rfl, -⟩ := Prod.mk.inj (Except.ok.inj (found.symm.trans here))
    rw [files] at entered
    rw [← show _ = after from congrArg Prod.fst entered]
    decide +kernel
  · exact absurd found (elsewhere _)

/-- A root whose own path is too long, which is no directory, and a directory with a file whose
path is too long from there, are not scanned. -/
theorem scan_fails_far :
    let t : FileTree := { entries := [(["A.mac"], .file [])] }
    t.Sound ∧
      ((∀ place, t.find (FileTree.upward 1400).toString ≠ .ok (place, .directory)) ∧
        ∃ f, scan t (FileTree.upward 1400) = .error f) ∧
      t.find (FileTree.upward 1363).toString = .ok ([], .directory) ∧
        ∃ f, scan t (FileTree.upward 1363) = .error f := by
  intro t
  have sound : t.Sound := by constructor <;> decide
  have fails {root : PathName} (refused : ¬ t.Followed root) : ∃ f, scan t root = .error f := by
    rcases rescan_cases sound { root } with ⟨followed, -⟩ | ⟨-, message, ended⟩
    · exact absurd followed refused
    · refine ⟨.file .nameTooLong message, (scan_eq t { root }).trans ?_⟩
      rw [ended]
      rfl
  have long : FileTree.pathLimit ≤ (FileTree.upward 1400).toString.utf8ByteSize := by
    rw [FileTree.utf8ByteSize_upward]
    decide
  have nowhere := FileTree.find_of_tooLong (FileTree.plain_upward 1400)
    (FileTree.isPathText_upward 1400) long t
  have top := FileTree.find_upward t rfl (show 3 * 1363 + 2 < FileTree.pathLimit by decide)
  have far : ((FileTree.upward 1363).join ["A.mac"]).toString.utf8ByteSize = 3 * 1363 + 8 := by
    rw [FileTree.toString_join (List.cons_ne_nil _ _), String.utf8ByteSize_append,
      String.utf8ByteSize_append, FileTree.utf8ByteSize_upward]
    rfl
  refine ⟨sound, ⟨fun place found => ?_, fails fun followed => followed.1 _ nowhere⟩, top,
    fails fun followed => ?_⟩
  · rw [nowhere] at found
    cases found
  · have short := followed.2 [] ["A.mac"] (.file []) top rfl
    rw [far] at short
    revert short
    decide

end Index

end RefNav
