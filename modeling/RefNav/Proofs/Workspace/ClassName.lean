import Mathlib.Data.List.Find
import RefNav.Proofs.Workspace.Scan

/-! # Classes by their names

A class is found by its full dotted name, else by the last parts of one.  The stem of a class
file is its full name or the last part of that, so it decides nothing that the names do not.
-/

namespace RefNav.Index

open RefNav.Text

variable {t : FileTree} {root path : PathName} {i : Index} {name full : String}

/-- The shorter name is made of the last parts of the full one, but not of all. -/
def IsEnding (name full : String) : Prop :=
  ("." ++ name).toList <:+ full.toList

instance (name full : String) : Decidable (IsEnding name full) :=
  inferInstanceAs (Decidable (_ <:+ _))

/-- The file of a class by the names in the index alone. -/
def findClassByName (i : Index) (name : String) : Option PathName :=
  (i.classes.lookup name).or ((i.classes.find? fun e => IsEnding name e.1).map (·.2))

theorem stem_of_source {suffixes folders : List String} {stem : String}
    (shaped : ∀ s ∈ suffixes, PathName.IsSuffix s.toList)
    (source : Source t root suffixes folders stem path) : path.stem = stem := by
  obtain ⟨some_stem, suffix, known, -, rfl⟩ := source
  obtain ⟨split, -⟩ := (PathName.splitSuffix_iff shaped).mpr ⟨some_stem, suffix, known, rfl⟩
  simpa [PathName.stem, PathName.name, PathName.join] using split

/-- In a folder the stem of a class file is the last part of the name, elsewhere the whole of
it. -/
theorem IsClass.stem (h : IsClass t root full path) :
    full = path.stem ∨ IsEnding path.stem full := by
  have shaped : ∀ s ∈ [".cls"], PathName.IsSuffix s.toList := by decide
  obtain ⟨folders, stem, source, rfl⟩ := h
  rw [stem_of_source shaped source]
  by_cases direct : folders = []
  · subst direct
    exact .inl String.intercalate_singleton
  · right
    rw [IsEnding, String.intercalate_append_of_ne_nil direct (List.cons_ne_nil _ _),
      String.intercalate_singleton, String.append_assoc]
    exact ⟨(".".intercalate folders).toList, String.toList_append.symm⟩

theorem lookup_classes_eq_some_iff (covers : i.Covers t) :
    i.classes.lookup name = some path ↔ (name, path) ∈ i.classes := by
  constructor
  · exact fun known => ((lookup_eq_some_iff_first covers.classes.ordered).mp known).holds
  · intro known
    refine (lookup_eq_some_iff_first covers.classes.ordered).mpr ⟨known, fun other same => ?_⟩
    exact ((covers.classes.entries name path).mp known).least other
      ((covers.classes.entries name other).mp same).holds

theorem lookup_classes_eq_none_iff (covers : i.Covers t) :
    i.classes.lookup name = none ↔ ∀ path, ¬ IsClass t i.root name path := by
  constructor
  · intro absent path isClass
    obtain ⟨first, known⟩ := covers.classes.complete name path isClass
    rw [(lookup_classes_eq_some_iff covers).mpr known] at absent
    cases absent
  · intro nowhere
    refine Option.eq_none_iff_forall_ne_some.mpr fun path known => nowhere path ?_
    exact ((covers.classes.entries name path).mp
      ((lookup_classes_eq_some_iff covers).mp known)).holds

/-- The stem of the file decides nothing. -/
theorem findClass_eq_findClassByName (covers : i.Covers t) (name : String) :
    i.findClass name = i.findClassByName name := by
  unfold findClass findClassByName
  cases absent : i.classes.lookup name with
  | some path => rfl
  | none =>
      have alike : ∀ e ∈ i.classes, isTrailing name e = decide (IsEnding name e.1) := by
        intro e known
        have isClass := ((covers.classes.entries e.1 e.2).mp known).holds
        rw [Bool.eq_iff_iff]
        simp only [isTrailing, Bool.or_eq_true, List.isSuffixOf_iff_suffix, decide_eq_true_eq]
        constructor
        · rintro (ending | rfl)
          · exact ending
          · -- A file whose full name is its stem would have been found by that name.
            refine isClass.stem.resolve_left fun same => ?_
            exact (lookup_classes_eq_none_iff covers).mp absent e.2 (same ▸ isClass)
        · exact .inl
      rw [Option.none_or, ← List.find?_congr alike]

/-- The first of the files that compete for a name comes before all files whose names end alike. -/
theorem first_ending_iff (covers : i.Covers t) :
    PathName.First (fun p => ∃ full, (full, p) ∈ i.classes ∧ IsEnding name full) path ↔
      PathName.First (fun p => ∃ full, IsClass t i.root full p ∧ IsEnding name full) path := by
  have entry {full : String} {p : PathName} (known : (full, p) ∈ i.classes) :
      PathName.First (IsClass t i.root full) p :=
    (covers.classes.entries full p).mp known
  constructor
  · rintro ⟨⟨full, known, ending⟩, least⟩
    refine ⟨⟨full, (entry known).holds, ending⟩, ?_⟩
    rintro other ⟨full', isClass, ending'⟩
    obtain ⟨first, known'⟩ := covers.classes.complete full' other isClass
    exact (least first ⟨full', known', ending'⟩).trans ((entry known').least other isClass)
  · rintro ⟨⟨full, isClass, ending⟩, least⟩
    have keeps : PathName.First (IsClass t i.root full) path :=
      ⟨isClass, fun other same => least other ⟨full, same, ending⟩⟩
    refine ⟨⟨full, (covers.classes.entries full path).mpr keeps, ending⟩, ?_⟩
    rintro other ⟨full', known, ending'⟩
    exact least other ⟨full', (entry known).holds, ending'⟩

theorem findClass_of_no_class (covers : i.Covers t)
    (absent : ∀ path, ¬ IsClass t i.root name path) :
    i.findClass name = some path ↔
      PathName.First (fun p => ∃ full, IsClass t i.root full p ∧ IsEnding name full) path := by
  rw [findClass_eq_findClassByName covers, findClassByName,
    (lookup_classes_eq_none_iff covers).mpr absent, Option.none_or,
    find?_eq_some_iff_first covers.classes.ordered, ← first_ending_iff covers]
  simp only [decide_eq_true_eq]

theorem findClass_eq_none_iff (covers : i.Covers t) :
    i.findClass name = none ↔
      ∀ full path, IsClass t i.root full path → full ≠ name ∧ ¬ IsEnding name full := by
  rw [findClass_eq_findClassByName covers, findClassByName, Option.or_eq_none_iff,
    Option.map_eq_none_iff, List.find?_eq_none, lookup_classes_eq_none_iff covers]
  simp only [decide_eq_true_eq]
  constructor
  · rintro ⟨absent, noEnding⟩ full path isClass
    refine ⟨fun same => absent path (same ▸ isClass), ?_⟩
    obtain ⟨first, known⟩ := covers.classes.complete full path isClass
    exact noEnding _ known
  · intro nowhere
    refine ⟨fun path isClass => (nowhere name path isClass).1 rfl, fun e known => ?_⟩
    exact (nowhere e.1 e.2 ((covers.classes.entries e.1 e.2).mp known).holds).2

theorem findMember_eq_none_iff (i : Index) (now : FileTree) (name : String)
    (member : Option String) :
    (i.findMember now name member).1 = none ↔ i.findClass name = none := by
  cases found : i.findClass name with
  | none => simp [findMember, found]
  | some path =>
      simp only [findMember, found]
      split <;> simp

/-- In a scanned index a class is found by exactly its name, else by the last parts of one, with
the least path among the files of the classes so named, else not at all.  The names alone decide
this, and a member is found, in any later state of the tree, where the class is. -/
theorem findClass_exact_or_ending {old : Index} {records : List LogRecord} (sound : t.Sound)
    (scanned : old.rescan t = (i, .ok records)) (name : String) :
    (∀ path, (name, path) ∈ i.classes → i.findClass name = some path) ∧
    ((∀ path, (name, path) ∉ i.classes) → ∀ path, i.findClass name = some path ↔
      PathName.First (fun p => ∃ full, IsClass t i.root full p ∧ IsEnding name full) path) ∧
    (i.findClass name = none ↔
      ∀ full path, IsClass t i.root full path → full ≠ name ∧ ¬ IsEnding name full) ∧
    i.findClass name = i.findClassByName name ∧
    ∀ now member, (i.findMember now name member).1 = none ↔ i.findClass name = none := by
  obtain ⟨root, covers⟩ := covers_of_scan sound (scan_of_rescan scanned)
  refine ⟨fun path known => ?_, fun absent path => ?_, findClass_eq_none_iff covers,
    findClass_eq_findClassByName covers name, fun now => findMember_eq_none_iff i now name⟩
  · rw [findClass, (lookup_classes_eq_some_iff covers).mpr known]
  · refine findClass_of_no_class covers fun other isClass => ?_
    obtain ⟨first, known⟩ := covers.classes.complete name other isClass
    exact absent first known

/-- Two files compete for a name of two parts, and the last part alone comes to the first of
them. -/
theorem findClass_exact_or_ending_last_part :
    let t : FileTree :=
      { entries := [(["ws"], .directory), (["ws", "A.cls"], .file []), (["ws", "P"], .directory),
          (["ws", "P", "Q.cls"], .file []), (["ws", "P.Q.cls"], .file [])] }
    let i : Index :=
      { root := ⟨"/", ["ws"]⟩
        classes := [("A", ⟨"/", ["ws", "A.cls"]⟩), ("P.Q", ⟨"/", ["ws", "P", "Q.cls"]⟩)] }
    t.Sound ∧ rescan { root := ⟨"/", ["ws"]⟩ } t = (i, .ok [i.scanRecord]) ∧
      i.findClass "P.Q" = some ⟨"/", ["ws", "P", "Q.cls"]⟩ ∧
      (∀ path, ("Q", path) ∉ i.classes) ∧
      i.findClass "Q" = some ⟨"/", ["ws", "P", "Q.cls"]⟩ ∧
      PathName.First (fun p => ∃ full, IsClass t i.root full p ∧ IsEnding "Q" full)
        ⟨"/", ["ws", "P", "Q.cls"]⟩ ∧
      i.findClass "R" = none := by
  intro t i
  have sound : t.Sound := by constructor <;> decide
  have files : t.filesBelow ["ws"] = [["A.cls"], ["P", "Q.cls"], ["P.Q.cls"]] :=
    List.mergeSort_of_pairwise (by decide)
  have scanned : rescan { root := ⟨"/", ["ws"]⟩ } t = (i, .ok [i.scanRecord]) := by
    have found : t.find (PathName.mk "/" ["ws"]).toString = .ok (["ws"], .directory) := by
      decide +kernel
    have followed : (t.directoriesBelow ["ws"]).findSome?
        (tooLong? { root := ⟨"/", ["ws"]⟩ }) = none := by
      decide +kernel
    refine rescan_of_files (i := { root := ⟨"/", ["ws"]⟩ }) found followed ?_
    rw [files]
    decide +kernel
  have absent : ∀ path, ("Q", path) ∉ i.classes := by
    intro path
    simp [i]
  have whole := (findClass_exact_or_ending sound scanned "P.Q").1
    ⟨"/", ["ws", "P", "Q.cls"]⟩ (by decide)
  have ending := (findClass_exact_or_ending sound scanned "Q").2.1 absent
  have last : i.findClass "Q" = some ⟨"/", ["ws", "P", "Q.cls"]⟩ := by decide +kernel
  exact ⟨sound, scanned, whole, absent, last, (ending _).mp last, by decide +kernel⟩

end RefNav.Index
