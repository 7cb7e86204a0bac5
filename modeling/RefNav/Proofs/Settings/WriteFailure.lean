import RefNav.Proofs.Settings.Write

/-! # Writing that fails

Writing a configuration makes its directory, loads the old configuration, merges, serialises,
opens the file and fills it.  Each step but the last can fail.  The file loses what it held once it
is open, and the whole text is there by then, so whatever fails, the only trace of it is a directory
that was made where there was nothing.
-/

namespace RefNav

namespace FileTree

variable {t t' : FileTree} {place : Place} {e : Entry} {path : String} {bytes : List UInt8}

/-- A path that led to a file leads to it in every tree that keeps the directories and the file. -/
theorem Keeps.read (keeps : Keeps t t')
    (entries : ∀ place e, t.get? place = some e → t'.get? place = some e)
    (h : t.read path = .ok bytes) : t'.read path = .ok bytes := by
  unfold FileTree.read at h
  split at h
  next place file found =>
    cases h
    obtain ⟨text, searched⟩ := search_of_find found
    obtain ⟨short, walked, held⟩ := walk_of_search searched
    have nonempty : path ≠ "" := by
      rintro rfl
      simp [search] at searched
    have walked' := keeps.walk walked
    rw [← keeps.current] at walked'
    have searched' : t'.search path = .ok (place, .file bytes) := by
      unfold search
      dsimp only
      rw [if_neg nonempty, if_neg (Nat.not_le.mpr short), walked']
      dsimp only
      rw [entries place _ held]
    rw [FileTree.read, find, if_pos text, searched']
  · cases h
  · cases h

/-- Nothing stands below a place where nothing stands. -/
theorem get?_append_of_absent (sound : t.Sound) (absent : t.get? place = none)
    (rest : List String) : t.get? (place ++ rest) = none := by
  by_cases here : rest = []
  · rw [here, List.append_nil, absent]
  · cases found : t.get? (place ++ rest) with
    | none => rfl
    | some e =>
        have directory := isDirectory_of_get?_append sound here found
        rw [isDirectory, absent] at directory
        cases directory

end FileTree

namespace Config

open RefNav.Text FileTree

variable {t made : FileTree} {root : PathName} {home : Place} {updates : Members} {f : Fault}

/-! ## Making the directory -/

/-- The directory of the configuration can be made: nothing stands at its place in the root. -/
structure Vacant (t : FileTree) (root : PathName) (home : Place) : Prop where
  leads : t.Leads root home .directory
  short : (root.join [directory]).toString.utf8ByteSize < pathLimit
  absent : t.get? (folderPlace home) = none

theorem vacant_of_noEntry {message : String} (leads : t.Leads root home .directory)
    (missing : t.find (root.join [directory]).toString = .error (.file .noEntry message)) :
    Vacant t root home := by
  have short : (root.join [directory]).toString.utf8ByteSize < pathLimit := by
    refine Nat.lt_of_not_le fun long => ?_
    rw [leads.find_join_of_long (List.forall_mem_singleton.mpr entryName_directory) long] at missing
    cases missing
  refine ⟨leads, short, ?_⟩
  cases found : t.get? (folderPlace home) with
  | none => rfl
  | some e =>
      rw [(leads.join entryName_directory found short).find_eq] at missing
      cases missing

/-- The directory was there, or it is made where there was nothing. -/
theorem makeDirectory_cases (plain : root.Plain) (h : makeDirectory t root = .ok made) :
    made = t ∨ ∃ home, Vacant t root home ∧ made = t.put (folderPlace home) .directory := by
  unfold makeDirectory at h
  dsimp only at h
  split at h
  · cases h
    exact .inl rfl
  · cases h
  next missing =>
    split at h
    next home found =>
      cases h
      exact .inr ⟨home, vacant_of_noEntry (leads_of_find plain found) missing, rfl⟩
    · cases h
  · cases h

/-! ## What is left alone -/

/-- A tree in which every entry is as before, whatever could be read can be read as before, and
the only thing that can have been added is the directory of the configuration, empty. -/
structure Spared (t : FileTree) (root : PathName) (after : FileTree) : Prop where
  current : after.current = t.current
  entries : ∀ place e, t.get? place = some e → after.get? place = some e
  read : ∀ path bytes, t.read path = .ok bytes → after.read path = .ok bytes
  config : after.read (path root).toString = t.read (path root).toString
  added : ∀ place e, after.get? place = some e → t.get? place = none →
    e = .directory ∧ ∃ home, t.find root.toString = .ok (home, .directory) ∧
      place = folderPlace home ∧ ∀ name rest, after.get? (place ++ name :: rest) = none

theorem spared_refl (t : FileTree) (root : PathName) : Spared t root t where
  current := rfl
  entries := fun _ _ held => held
  read := fun _ _ held => held
  config := rfl
  added := by
    intro place e held absent
    rw [absent] at held
    cases held

namespace Vacant

theorem get?_put (vacant : Vacant t root home) {place : Place} {e : Entry}
    (held : t.get? place = some e) :
    (t.put (folderPlace home) .directory).get? place = some e := by
  rw [get?_put_of_ne, held]
  rintro rfl
  rw [vacant.absent] at held
  cases held

theorem keeps (_ : Vacant t root home) : Keeps t (t.put (folderPlace home) .directory) :=
  keeps_put (folderPlace_ne_nil home) fun _ => rfl

theorem get?_below (vacant : Vacant t root home) (sound : t.Sound) (name : String)
    (rest : List String) :
    (t.put (folderPlace home) .directory).get? (folderPlace home ++ name :: rest) = none := by
  rw [get?_put_of_ne (by simp), get?_append_of_absent sound vacant.absent]

theorem makeDirectory (vacant : Vacant t root home) :
    Config.makeDirectory t root = .ok (t.put (folderPlace home) .directory) := by
  have missing : t.find (root.join [directory]).toString =
      .error (.atPath .noEntry (root.join [directory]).toString) :=
    vacant.leads.find_absent (List.forall_mem_singleton.mpr entryName_directory) vacant.absent
      vacant.short
  unfold Config.makeDirectory
  dsimp only
  rw [missing, vacant.leads.find_eq]
  rfl

/-- The file of the configuration is as unreadable as before, for the same reason. -/
theorem find_path (vacant : Vacant t root home) (sound : t.Sound) :
    (t.put (folderPlace home) .directory).find (path root).toString =
      t.find (path root).toString := by
  by_cases short : (path root).toString.utf8ByteSize < pathLimit
  · have before : t.find (path root).toString = .error (.atPath .noEntry (path root).toString) :=
      vacant.leads.find_absent entryName_names vacant.absent short
    have folder : (t.put (folderPlace home) .directory).Leads (root.join [directory])
        (folderPlace home) .directory :=
      (vacant.leads.of_keeps vacant.keeps).join entryName_directory
        (get?_put_self (folderPlace_ne_nil home) t .directory) vacant.short
    rw [before]
    rw [path_eq] at short ⊢
    exact folder.find_absent (List.forall_mem_singleton.mpr entryName_fileName)
      (vacant.get?_below sound fileName []) short
  · have long := vacant.leads.find_join_of_long entryName_names (Nat.le_of_not_lt short)
    exact (long _).trans (long t).symm

theorem spared (vacant : Vacant t root home) (sound : t.Sound) :
    Spared t root (t.put (folderPlace home) .directory) where
  current := rfl
  entries := fun _ _ => vacant.get?_put
  read := fun _ _ => vacant.keeps.read fun _ _ => vacant.get?_put
  config := by
    rw [FileTree.read, FileTree.read, vacant.find_path sound]
  added := by
    intro place e held absent
    have here : place = folderPlace home := by
      by_contra elsewhere
      rw [get?_put_of_ne elsewhere, absent] at held
      cases held
    subst here
    rw [get?_put_self (folderPlace_ne_nil home)] at held
    cases held
    exact ⟨rfl, home, vacant.leads.find_eq, rfl, vacant.get?_below sound⟩

end Vacant

/-! ## The order of the steps -/

/-- The steps of writing in their order: how far they got, the outcome, and the tree that is left.
Between making the directory and opening the file the tree is not touched. -/
inductive WriteRun (t : FileTree) (root : PathName) (updates : Members) :
    Except Fault Unit → FileTree → Prop where
  | notMade {f : Fault} (fails : makeDirectory t root = .error f) :
      WriteRun t root updates (.error f) t
  | notLoaded {made : FileTree} {f : Fault} (makes : makeDirectory t root = .ok made)
      (fails : (load made root).outcome.1 = .error f) : WriteRun t root updates (.error f) made
  | notMerged {made : FileTree} {old : Members} {f : Fault}
      (makes : makeDirectory t root = .ok made) (loads : (load made root).outcome.1 = .ok old)
      (fails : update old updates = .error f) : WriteRun t root updates (.error f) made
  | notSerialised {made : FileTree} {old merged : Members} {f : Fault}
      (makes : makeDirectory t root = .ok made) (loads : (load made root).outcome.1 = .ok old)
      (merges : update old updates = .ok merged) (fails : textOf merged = .error f) :
      WriteRun t root updates (.error f) made
  | notOpened {made : FileTree} {old merged : Members} {text : String} {f : Fault}
      (makes : makeDirectory t root = .ok made) (loads : (load made root).outcome.1 = .ok old)
      (merges : update old updates = .ok merged) (serialises : textOf merged = .ok text)
      (fails : openFile made root = .error f) : WriteRun t root updates (.error f) made
  | filled {made opened : FileTree} {old merged : Members} {text : String} {place : Place}
      (makes : makeDirectory t root = .ok made) (loads : (load made root).outcome.1 = .ok old)
      (merges : update old updates = .ok merged) (serialises : textOf merged = .ok text)
      (opens : openFile made root = .ok (place, opened)) :
      WriteRun t root updates (.ok ()) (opened.put place (.file (Utf8.encode text.toList)))

theorem writeRun (t : FileTree) (root : PathName) (updates : Members) :
    WriteRun t root updates (write t root updates).1.outcome.1 (write t root updates).2 := by
  unfold write
  split
  next f fails => exact .notMade fails
  next made makes =>
    split
    next f log loaded => exact .notLoaded makes (congrArg Prod.fst loaded)
    next old log loaded =>
      have loads := congrArg Prod.fst loaded
      split
      next f fails => exact .notMerged makes loads fails
      next merged merges =>
        split
        next f fails => exact .notSerialised makes loads merges fails
        next text serialises =>
          split
          next f fails => exact .notOpened makes loads merges serialises fails
          next place opened opens => exact .filled makes loads merges serialises opens

/-- Where writing fails, the tree is as it was once the directory was made, or as it was at
first. -/
theorem WriteRun.error_cases {after : FileTree} (run : WriteRun t root updates (.error f) after) :
    after = t ∨ makeDirectory t root = .ok after := by
  cases run with
  | notMade => exact .inl rfl
  | notLoaded makes | notMerged makes | notSerialised makes | notOpened makes => exact .inr makes

/-! ## Where writing fails -/

theorem write_of_file {place : Place} {bytes : List UInt8}
    (found : t.find (root.join [directory]).toString = .ok (place, .file bytes))
    (updates : Members) :
    (write t root updates).1.outcome.1 =
      .error (.atPath .alreadyExists (root.join [directory]).toString) := by
  refine write_of_makeDirectory_error ?_ updates
  unfold makeDirectory
  dsimp only
  rw [found]

/-- An update that cannot be merged, or gives something that cannot be serialised, is not
written. -/
theorem write_of_text_error {old : Members} (makes : makeDirectory t root = .ok made)
    (loaded : (load made root).outcome.1 = .ok old)
    (fails : (update old updates).bind textOf = .error f) :
    (write t root updates).1.outcome.1 = .error f := by
  have outcome : (load made root).outcome = (.ok old, (load made root).outcome.2) :=
    Prod.ext loaded rfl
  rw [write, makes]
  dsimp only
  rw [outcome]
  dsimp only
  cases merges : update old updates with
  | error g =>
      rw [merges] at fails
      cases fails
      rfl
  | ok merged =>
      rw [merges] at fails
      dsimp only
      rw [show textOf merged = .error f from fails]
      rfl

/-- The file is not opened where a directory stands. -/
theorem exists_write_error_of_directory {place : Place} (makes : makeDirectory t root = .ok made)
    (found : made.find (path root).toString = .ok (place, .directory)) (updates : Members) :
    ∃ f, (write t root updates).1.outcome.1 = .error f := by
  have refused : openFile made root = .error (.atPath .isDirectory (path root).toString) := by
    rw [openFile, found]
  have run := writeRun t root updates
  generalize (write t root updates).1.outcome.1 = outcome, (write t root updates).2 = after at run
  cases run with
  | filled makes' _ _ _ opens =>
      cases makes.symm.trans makes'
      cases refused.symm.trans opens
  | _ => exact ⟨_, rfl⟩

theorem utf8ByteSize_path_upward (n : Nat) :
    (path (upward n)).toString.utf8ByteSize = 3 * n + 22 := by
  rw [path_eq, toString_join (by simp [upward, PathName.join]), String.utf8ByteSize_append,
    String.utf8ByteSize_append, utf8ByteSize_folder_upward]
  rfl

/-- Below a name that leaves room for the directory of the configuration, but not for the file,
the directory is made before writing fails. -/
theorem write_upward_of_room {n : Nat} (room : 3 * n + 10 < pathLimit)
    (long : pathLimit ≤ 3 * n + 22) (top : t.current = [])
    (absent : t.get? (folderPlace []) = none) (updates : Members) :
    ∃ f, (write t (upward n) updates).1.outcome.1 = .error f ∧
      (write t (upward n) updates).2 = t.put (folderPlace []) .directory := by
  have leads : t.Leads (upward n) [] .directory :=
    leads_of_find (plain_upward n) (find_upward t top (by omega))
  have vacant : Vacant t (upward n) [] :=
    ⟨leads, (utf8ByteSize_folder_upward n).symm ▸ room, absent⟩
  have tooLong := leads.find_join_of_long entryName_names ((utf8ByteSize_path_upward n).symm ▸ long)
  obtain ⟨f, fails⟩ := yields_load_of_pathTooLong ⟨_, tooLong (t.put (folderPlace []) .directory)⟩
  exact ⟨f, write_of_load_error vacant.makeDirectory fails.outcome_eq updates⟩

/-! ## What a failure leaves behind -/

/-- A configuration that could not be written is as it was, as is everything else: at most its
directory has been made, and there is nothing in it. -/
theorem spared_of_write_error (sound : t.Sound) (plain : root.Plain)
    (failed : (write t root updates).1.outcome.1 = .error f) :
    Spared t root (write t root updates).2 := by
  rcases (failed ▸ writeRun t root updates).error_cases with same | makes
  · rw [same]
    exact spared_refl t root
  · rcases makeDirectory_cases plain makes with same | ⟨home, vacant, put⟩
    · rw [same]
      exact spared_refl t root
    · rw [put]
      exact vacant.spared sound

/-- A project with a file in place of the directory of the configuration. -/
def blockedProject : FileTree :=
  { entries := [(["ws"], .directory), (["ws", ".ccsnav"], .file [0x41])] }

/-- A project with a directory in place of the file of the configuration. -/
def occupiedProject : FileTree :=
  { entries := [(["ws"], .directory), (["ws", ".ccsnav"], .directory),
      (["ws", ".ccsnav", "config.json"], .directory)] }

/-- A project whose connection settings are a number. -/
def numberProject : FileTree :=
  sampleProject (Utf8.encode (Json.obj [("connection", .int 5)]).pretty.toList)

theorem write_numberProject
    (fails : (update [("connection", .int 5)] updates).bind textOf = .error f) :
    (write numberProject ⟨"/", ["ws"]⟩ updates).1.outcome.1 = .error f := by
  have storable : Storable [("connection", .int 5)] :=
    ⟨.obj (by decide) (by decide) (List.forall_mem_singleton.mpr (.int (by decide))),
      .obj (List.forall_mem_singleton.mpr (.int 5))⟩
  have ready : Ready numberProject ⟨"/", ["ws"]⟩ ["ws"] := ready_sampleProject _
  have loaded := (loaded_iff ready).mpr (members_of_pretty ready storable rfl)
  have makes : makeDirectory numberProject ⟨"/", ["ws"]⟩ = .ok numberProject := rfl
  exact write_of_text_error makes loaded fails

/-- A value that cannot be written keeps the whole configuration from being written. -/
theorem exists_write_numberProject_error {v : Json} {g : Json.WriteFault}
    (blocked : v.obstacle? 1 = some g) :
    ∃ f, (write numberProject ⟨"/", ["ws"]⟩ [("a", v)]).1.outcome.1 = .error f := by
  have digits : (Json.int 5).obstacle? 1 = none := Json.obstacle?_of_readable (.int (by decide))
  have merged : update [("connection", .int 5)] [("a", v)] =
      .ok [("connection", .int 5), ("a", v)] := rfl
  have refused : (Json.obj [("connection", .int 5), ("a", v)]).obstacle? 0 = some g := by
    rw [Json.obstacle?, if_neg (by decide), Json.memberObstacle?, digits, Option.none_or,
      Json.memberObstacle?, blocked, Option.some_or]
  have texts : ∃ f, textOf [("connection", .int 5), ("a", v)] = .error f := by
    rw [textOf, Json.serialise, refused]
    cases g <;> exact ⟨_, rfl⟩
  obtain ⟨f, fails⟩ := texts
  exact ⟨f, write_numberProject (by rw [merged]; exact fails)⟩

theorem spared_of_write_error_at_each_step :
    let root : PathName := ⟨"/", ["ws"]⟩
    let u : Members := [("connection", .obj [])]
    let long : Members := [("a", .int (10 ^ 5000 : Nat))]
    let nested : Members := [("a", Json.nest 1000)]
    let empty : FileTree := { entries := [] }
    (∃ f, (write blockedProject root u).1.outcome.1 = .error f ∧
      Spared blockedProject root (write blockedProject root u).2) ∧
    (∃ f, (write numberProject root u).1.outcome.1 = .error f ∧
      Spared numberProject root (write numberProject root u).2) ∧
    (∃ f, (write numberProject root long).1.outcome.1 = .error f ∧
      Spared numberProject root (write numberProject root long).2) ∧
    (∃ f, (write numberProject root nested).1.outcome.1 = .error f ∧
      Spared numberProject root (write numberProject root nested).2) ∧
    (∃ f, (write occupiedProject root u).1.outcome.1 = .error f ∧
      Spared occupiedProject root (write occupiedProject root u).2) ∧
    ∃ f, (write empty (upward 1360) u).1.outcome.1 = .error f ∧
      Spared empty (upward 1360) (write empty (upward 1360) u).2 ∧
        (write empty (upward 1360) u).2 = { entries := [([".ccsnav"], .directory)] } := by
  have blocked : blockedProject.find (PathName.join ⟨"/", ["ws"]⟩ [directory]).toString =
      .ok (["ws", ".ccsnav"], .file [0x41]) := rfl
  have made : makeDirectory occupiedProject ⟨"/", ["ws"]⟩ = .ok occupiedProject := rfl
  have occupied : occupiedProject.find (path ⟨"/", ["ws"]⟩).toString =
      .ok (["ws", ".ccsnav", "config.json"], .directory) := rfl
  intro root u long nested empty
  have plain : root.Plain := ⟨by decide, by decide, by decide⟩
  have sound : numberProject.Sound := by constructor <;> decide
  have blocked_error := write_of_file blocked u
  have number_error : (write numberProject root u).1.outcome.1 = .error _ :=
    write_numberProject rfl
  have digits : 10 ^ maxDigits ≤ 10 ^ 5000 := Nat.pow_le_pow_right (by decide) (by decide)
  have deep : Json.maxDepth ≤ 1 + 1000 := by decide
  obtain ⟨f, long_error⟩ := exists_write_numberProject_error (Json.obstacle?_int digits 1)
  obtain ⟨g, nested_error⟩ := exists_write_numberProject_error (Json.obstacle?_nest deep)
  obtain ⟨f', occupied_error⟩ := exists_write_error_of_directory made occupied u
  obtain ⟨g', far_error, far_tree⟩ :=
    write_upward_of_room (n := 1360) (t := empty) (by decide) (by decide) rfl rfl u
  exact ⟨
    ⟨_, blocked_error, spared_of_write_error (by constructor <;> decide) plain blocked_error⟩,
    ⟨_, number_error, spared_of_write_error sound plain number_error⟩,
    ⟨f, long_error, spared_of_write_error sound plain long_error⟩,
    ⟨g, nested_error, spared_of_write_error sound plain nested_error⟩,
    ⟨f', occupied_error, spared_of_write_error (by constructor <;> decide) plain occupied_error⟩,
    g', far_error,
    spared_of_write_error (by constructor <;> decide) (plain_upward 1360) far_error, far_tree⟩

end Config

end RefNav
