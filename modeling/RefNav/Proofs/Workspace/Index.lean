import RefNav.Proofs.FileTree.Proper
import RefNav.Proofs.Text.Lines
import RefNav.Proofs.Workspace.Labels
import RefNav.Workspace.Lookup

/-! # Indexed lines and document lines

The index reads a file with its line breaks unified, a document is read as it is; both
count the same lines.  So a location that the index finds opens as a document, and the
line that it names is the line that the index looked at.
-/

namespace RefNav.Index

open RefNav.Text

/-! ## The files of an index -/

/-- The file stands in the index: as a routine, a class or an include file. -/
def Has (i : Index) (path : PathName) : Prop :=
  (∃ name, (name, path) ∈ i.routines) ∨ (∃ name, (name, path) ∈ i.classes) ∨ path ∈ i.includes

variable {i : Index} {t : FileTree} {root path : PathName} {l : Location} {line : Nat}
  {log : List LogRecord} {query symbol : String}

theorem root_addFile (i : Index) (relative : List String) : (i.addFile relative).root = i.root := by
  simp only [addFile]
  split
  · rfl
  · split <;> rfl

/-- Entering a file adds no name but the file's. -/
theorem Has.of_addFile {relative : List String} (h : (i.addFile relative).Has path) :
    i.Has path ∨ path = i.root.join relative := by
  simp only [addFile] at h
  split at h
  · rcases h with ⟨name, routine⟩ | isClass | isInclude
    · rcases mem_addFirst routine with before | added
      · exact .inl (.inl ⟨name, before⟩)
      · exact .inr (Prod.ext_iff.mp added).2
    · exact .inl (.inr (.inl isClass))
    · split at isInclude
      · rcases List.mem_append.mp isInclude with before | added
        · exact .inl (.inr (.inr before))
        · exact .inr (List.mem_singleton.mp added)
      · exact .inl (.inr (.inr isInclude))
  · split at h
    · rcases h with routine | ⟨name, isClass⟩ | isInclude
      · exact .inl (.inl routine)
      · rcases mem_addFirst isClass with before | added
        · exact .inl (.inr (.inl ⟨name, before⟩))
        · exact .inr (Prod.ext_iff.mp added).2
      · exact .inl (.inr (.inr isInclude))
    · exact .inl h

theorem root_addFiles (i : Index) (files : List (List String)) :
    (i.addFiles files).1.root = i.root := by
  induction files generalizing i with
  | nil => rfl
  | cons first rest ih =>
      rw [addFiles]
      split
      · rfl
      · rw [ih, root_addFile]

/-- Files are entered one by one as long as none is refused. -/
theorem Has.of_addFiles {files : List (List String)} (h : (i.addFiles files).1.Has path) :
    i.Has path ∨ ∃ relative ∈ files, path = i.root.join relative := by
  induction files generalizing i with
  | nil => exact .inl h
  | cons first rest ih =>
      rw [addFiles] at h
      split at h
      · exact .inl h
      · rcases ih h with before | ⟨relative, inRest, rfl⟩
        · rcases before.of_addFile with earlier | rfl
          · exact .inl earlier
          · exact .inr ⟨first, List.mem_cons_self, rfl⟩
        · exact .inr ⟨relative, List.mem_cons_of_mem _ inRest, by rw [root_addFile]⟩

/-- What a scan comes to: the index of the files of a directory, none of its paths refused, or
the empty index of a root that is no directory. -/
theorem of_scan (scanned : scan t root = .ok (i, log)) :
    (∃ place, t.find root.toString = .ok (place, .directory) ∧
      (t.directoriesBelow place).findSome? (tooLong? { root }) = none ∧
      addFiles { root } (t.filesBelow place) = (i, none) ∧ log = [i.scanRecord]) ∨
    (∀ place, t.find root.toString ≠ .ok (place, .directory)) ∧ i = { root } ∧ log = [] := by
  unfold scan at scanned
  split at scanned
  next after records rescanned =>
    cases scanned
    unfold rescan at rescanned
    dsimp only at rescanned
    split at rescanned
    next place found =>
      split at rescanned
      · cases rescanned
      next followed =>
        split at rescanned
        · cases rescanned
        next filled entered =>
          cases rescanned
          exact .inl ⟨place, found, followed, entered, rfl⟩
    · cases rescanned
    next other _ =>
      cases rescanned
      exact .inr ⟨fun place found => other place found, rfl, rfl⟩
  · cases scanned

/-- The files of a scanned index stand below the directory that its root leads to. -/
theorem Has.of_scan (h : i.Has path) (scanned : scan t root = .ok (i, log)) :
    ∃ place, t.find root.toString = .ok (place, .directory) ∧
      ∃ relative ∈ t.filesBelow place, path = root.join relative := by
  -- A root that leads nowhere gives the empty index, which has no files.
  have none : ¬ Has { root := root } path := by simp [Has]
  rcases Index.of_scan scanned with ⟨place, found, _, entered, _⟩ | ⟨_, rfl, _⟩
  · have has : (addFiles { root } (t.filesBelow place)).1.Has path := by rwa [entered]
    rcases has.of_addFiles with absent | below
    · exact absurd absent none
    · exact ⟨place, found, below⟩
  · exact absurd h none

theorem has_of_findRoutine {name : String} (h : i.findRoutine name = some path) : i.Has path := by
  obtain ⟨before, after, routines, _⟩ := List.lookup_eq_some_iff.mp h
  exact .inl ⟨name, by simp [routines]⟩

theorem has_of_findClass {name : String} (h : i.findClass name = some path) : i.Has path := by
  unfold findClass at h
  split at h
  · rename_i known
    cases h
    obtain ⟨before, after, classes, _⟩ := List.lookup_eq_some_iff.mp known
    exact .inr (.inl ⟨name, by simp [classes]⟩)
  · obtain ⟨⟨full, found⟩, among, rfl⟩ := Option.map_eq_some_iff.mp h
    exact .inr (.inl ⟨full, List.mem_of_find?_eq_some among⟩)

/-! ## The lines that a search looks at -/

/-- The text of a line has what a reference asks for: the label, the macro's definition or
the method's declaration. -/
def Declares (kind : Kind) (query symbol text : String) : Prop :=
  match kind with
  | .labelCall =>
      ∃ label routine, labelQuery? query.toList = some (label, routine) ∧
        label? text.toList = some label
  | .routine => False
  | .macroCall => definedMacro? text.toList = some symbol.toList
  | .classRef =>
      ∃ name member, classQuery? query.toList = some (name, some member) ∧
        declaredMember? text.toList = some member

/-- A search comes to a line of a file that it read and that has what the reference asks
for, or to the start of the file of a routine or a class. -/
def ComesTo (t : FileTree) (kind : Kind) (query symbol : String) (path : PathName) (line : Nat) :
    Prop :=
  line = 0 ∧ (kind = .routine ∨ kind = .classRef) ∨
    ∃ text, (readLines t path).1[line]? = some text ∧ Declares kind query symbol text

theorem findLabel_eq_some {label routine : String}
    (h : i.findLabel t label routine = (some l, log)) :
    ∃ path line text, i.Has path ∧ l = locate t path line ∧
      (readLines t path).1[line]? = some text ∧ label? text.toList = some label.toList := by
  unfold findLabel at h
  split at h
  · cases h
  · rename_i path known
    obtain ⟨line, found, rfl⟩ := Option.map_eq_some_iff.mp (Prod.ext_iff.mp h).1
    rw [lookup_labels] at found
    obtain ⟨text, read, starts⟩ := getElem?_of_firstLine found
    exact ⟨path, line, text, has_of_findRoutine known, rfl, read, starts⟩

theorem findMacroIn_cons (t : FileTree) (name : String) (path : PathName) (rest : List PathName) :
    findMacroIn t name (path :: rest) =
      match firstLine definedMacro? name (readLines t path).1 with
      | some line => (some (locate t path line), (readLines t path).2)
      | none =>
          ((findMacroIn t name rest).1, (readLines t path).2 ++ (findMacroIn t name rest).2) := by
  rfl

theorem findMacroIn_eq_some {name : String} {files : List PathName}
    (h : findMacroIn t name files = (some l, log)) :
    ∃ path ∈ files, ∃ line text, l = locate t path line ∧
      (readLines t path).1[line]? = some text ∧ definedMacro? text.toList = some name.toList := by
  induction files generalizing log with
  | nil => cases h
  | cons path rest ih =>
      rw [findMacroIn_cons] at h
      split at h
      · rename_i line found
        obtain ⟨text, read, defines⟩ := getElem?_of_firstLine found
        cases h
        exact ⟨path, List.mem_cons_self, line, text, rfl, read, defines⟩
      · have later : findMacroIn t name rest = (some l, (findMacroIn t name rest).2) :=
          Prod.ext (Prod.ext_iff.mp h).1 rfl
        obtain ⟨other, inRest, found⟩ := ih later
        exact ⟨other, List.mem_cons_of_mem _ inRest, found⟩

theorem findMember_eq_some {name : String} {member : Option String}
    (h : i.findMember t name member = (some l, log)) :
    ∃ path, i.Has path ∧
      (l = locate t path 0 ∨ ∃ declared line text, member = some declared ∧
        l = locate t path line ∧ (readLines t path).1[line]? = some text ∧
        declaredMember? text.toList = some declared.toList) := by
  unfold findMember at h
  split at h
  · cases h
  · rename_i path known
    refine ⟨path, has_of_findClass known, ?_⟩
    split at h
    · cases h
      exact .inl rfl
    · cases h
      exact .inl rfl
    · rename_i declared _
      have place := Option.some.inj (Prod.ext_iff.mp h).1
      cases found : firstLine declaredMember? declared (readLines t path).1 with
      | none =>
          rw [found] at place
          exact .inl place.symm
      | some line =>
          rw [found] at place
          obtain ⟨text, read, declares⟩ := getElem?_of_firstLine found
          exact .inr ⟨declared, line, text, rfl, place.symm, read, declares⟩

/-- Every location that a search finds is a line of an indexed file to which it comes. -/
theorem lookup_eq_some {kind : Kind} (h : i.lookup t kind query symbol = (some l, log)) :
    ∃ path line, i.Has path ∧ l = locate t path line ∧ ComesTo t kind query symbol path line := by
  unfold lookup at h
  split at h
  · split at h
    · rename_i label routine asked
      obtain ⟨path, line, text, has, place, read, starts⟩ := findLabel_eq_some h
      rw [String.toList_ofList] at starts
      exact ⟨path, line, has, place, .inr ⟨text, read, label, routine, asked, starts⟩⟩
    · cases h
  · obtain ⟨path, known, rfl⟩ := Option.map_eq_some_iff.mp (Prod.ext_iff.mp h).1
    exact ⟨path, 0, has_of_findRoutine known, rfl, .inl ⟨rfl, .inl rfl⟩⟩
  · obtain ⟨path, isInclude, line, text, place, read, defines⟩ := findMacroIn_eq_some h
    exact ⟨path, line, .inr (.inr isInclude), place, .inr ⟨text, read, defines⟩⟩
  · split at h
    · rename_i name member asked
      obtain ⟨path, has, start | ⟨declared, line, text, named, place, read, declares⟩⟩ :=
        findMember_eq_some h
      · exact ⟨path, 0, has, start, .inl ⟨rfl, .inr rfl⟩⟩
      · obtain ⟨chars, rfl, rfl⟩ := Option.map_eq_some_iff.mp named
        rw [String.toList_ofList] at declares
        exact ⟨path, line, has, place, .inr ⟨text, read, name, chars, asked, declares⟩⟩
    · cases h

/-! ## One numbering of lines -/

theorem readLines_of_read {bytes : List UInt8} (h : t.read path.toString = .ok bytes) :
    readLines t path = (splitLines (String.ofList (Utf8.decodeLenient bytes)), []) := by
  simp [readLines, FileTree.readText_of_read h, splitLines_unifyBreaks]

/-- A location that a search names opens as a document with the lines that the index
reads. -/
theorem document_of_has (proper : t.Proper) (plain : root.Plain)
    (scanned : scan t root = .ok (i, log)) (has : i.Has path) :
    ∃ text,
      t.document (.ofString (t.absolute path)) = .ok (Document.ofText (t.absolute path) text) ∧
      ∀ bytes, t.read path.toString = .ok bytes → readLines t path = (splitLines text, []) := by
  obtain ⟨place, found, relative, below, rfl⟩ := has.of_scan scanned
  obtain ⟨named, bytes, file⟩ := FileTree.file_below proper.sound plain found below
  refine ⟨_, FileTree.document_of_get? proper file, fun other read => ?_⟩
  -- The name in the index and the absolute name may be spelled differently.
  have same : Except.ok other = Except.ok bytes :=
    (FileTree.read_absolute proper named read).symm.trans (FileTree.read_of_get? proper file)
  cases same
  exact readLines_of_read read

theorem read_of_getElem? {text : String} (h : (readLines t path).1[line]? = some text) :
    ∃ bytes, t.read path.toString = .ok bytes := by
  cases read : t.read path.toString with
  | ok bytes => exact ⟨bytes, rfl⟩
  | error f => simp [readLines, FileTree.readText, read, Except.map] at h

/-- The lines of the index are the lines of documents.  Whatever the bytes of a file, the
index reads the same lines as a document of it has; and a location found in a proper tree
opens as a document that has the line, with the very text that the search came to. -/
theorem lookup_in_document :
    (∀ (t : FileTree) (path : PathName) (bytes : List UInt8), t.read path.toString = .ok bytes →
      ∃ d, t.document path = .ok d ∧ readLines t path = (d.lines, [])) ∧
    ∀ (t : FileTree) (root : String) (i : Index) (scanRecords : List LogRecord)
      (kind : Kind) (query symbol : String) (l : Location) (log : List LogRecord),
      t.Proper → scan t (.ofString root) = .ok (i, scanRecords) →
      i.lookup t kind query symbol = (some l, log) →
      ∃ path line d text, i.Has path ∧ l = locate t path line ∧
        t.document (.ofString l.uri) = .ok d ∧ d.lineAt l.line = .ok text ∧
        (∀ bytes, t.read path.toString = .ok bytes → readLines t path = (d.lines, [])) ∧
        (line = 0 ∧ (kind = .routine ∨ kind = .classRef) ∨
          (readLines t path).1[line]? = some text ∧ Declares kind query symbol text) := by
  constructor
  · intro t path bytes read
    exact ⟨_, FileTree.document_of_read read, readLines_of_read read⟩
  · intro t root i scanRecords kind query symbol l log proper scanned found
    obtain ⟨path, line, has, rfl, comes⟩ := lookup_eq_some found
    obtain ⟨content, opened, same⟩ :=
      document_of_has proper (PathName.plain_ofString root) scanned has
    rcases comes with ⟨rfl, whole⟩ | ⟨text, looked, declares⟩
    · have first := List.getElem?_eq_getElem
        (List.length_pos_iff.mpr (Document.lines_ofText_ne_nil (t.absolute path) content))
      exact ⟨path, 0, _, _, has, rfl, opened, Document.lineAt_of_getElem? first, same,
        .inl ⟨rfl, whole⟩⟩
    · obtain ⟨bytes, read⟩ := read_of_getElem? looked
      have shown : (Document.ofText (t.absolute path) content).lines[line]? = some text := by
        rw [same bytes read] at looked
        exact looked
      exact ⟨path, line, _, text, has, rfl, opened, Document.lineAt_of_getElem? shown, same,
        .inr ⟨looked, declares⟩⟩

/-- A carriage return in front of a pair, a lone one later: the label is on the third line of
both. -/
theorem lookup_in_document_mixed_breaks :
    let text := "A\r\r\nLab(x)\r quit".toUTF8.toList
    let t : FileTree :=
      { entries := [(["ws"], .directory), (["ws", "A.mac"], .file text)], current := ["ws"] }
    t.Proper ∧ (∃ d, t.document ⟨"", ["A.mac"]⟩ = .ok d ∧
      readLines t ⟨"", ["A.mac"]⟩ = (d.lines, [])) ∧
    ∃ i records log, scan t (.ofString ".") = .ok (i, records) ∧
      i.lookup t .labelCall "Lab^A" "A" = (some ⟨"/ws/A.mac", 2, 0⟩, log) ∧
      ∃ d line, t.document (.ofString "/ws/A.mac") = .ok d ∧ d.lineAt 2 = .ok line ∧
        Declares .labelCall "Lab^A" "A" line := by
  intro text t
  have proper : t.Proper := ⟨by decide, by decide, by decide, by decide, by decide⟩
  have read : (t.read "A.mac").toOption = some text := by decide +kernel
  have searched : ((scan t (.ofString ".")).toOption.map fun r =>
      (r.1.lookup t .labelCall "Lab^A" "A").1) = some (some ⟨"/ws/A.mac", 2, 0⟩) := by
    decide +kernel
  obtain ⟨⟨i, records⟩, scanned, found⟩ := Option.map_eq_some_iff.mp searched
  have scanned := eq_ok_of_toOption scanned
  have looked : i.lookup t .labelCall "Lab^A" "A" = (some ⟨"/ws/A.mac", 2, 0⟩, _) :=
    Prod.ext found rfl
  refine ⟨proper, lookup_in_document.1 t ⟨"", ["A.mac"]⟩ text (eq_ok_of_toOption read),
    i, records, _, scanned, looked, ?_⟩
  obtain ⟨path, line, d, shown, _, place, opened, lineAt, _, comes⟩ :=
    lookup_in_document.2 t "." i records .labelCall "Lab^A" "A" _ _ proper scanned looked
  rcases comes with ⟨_, isRoutine | isClass⟩ | ⟨_, declares⟩
  · cases isRoutine
  · cases isClass
  · exact ⟨d, shown, opened, lineAt, declares⟩

end RefNav.Index
