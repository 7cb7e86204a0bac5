import RefNav.Proofs.FileTree.Below
import RefNav.Proofs.Json.Limits
import RefNav.Proofs.Settings.Combine
import RefNav.Proofs.Settings.Load
import RefNav.Proofs.Text.Ascii

/-! # Writing the configuration of a project

Writing an update reads the configuration, combines the two and puts the text of the result into
the file, from which the result is read back.  All of it stands on what the file tree holds at two
places below the root of the project: the directory of the configuration and the file in it.
-/

namespace RefNav.Config

open RefNav.Text FileTree Logged

/-! ## The places of the configuration -/

/-- The place of the directory of the configuration below the root of a project. -/
def folderPlace (place : Place) : Place :=
  place ++ [directory]

/-- The place of the file of the configuration. -/
def filePlace (place : Place) : Place :=
  folderPlace place ++ [fileName]

/-- A project that can be configured: its root is a directory, the directory of the configuration
is absent or is one, its file is not a directory, and there is no file without the directory. -/
structure Ready (t : FileTree) (root : PathName) (place : Place) : Prop where
  plain : root.Plain
  found : t.find root.toString = .ok (place, .directory)
  short : (path root).toString.utf8ByteSize < pathLimit
  folder : t.get? (folderPlace place) = none ∨ t.get? (folderPlace place) = some .directory
  file : t.get? (filePlace place) ≠ some .directory
  led : t.get? (folderPlace place) = none → t.get? (filePlace place) = none

variable {t made : FileTree} {root : PathName} {place : Place} {bytes : List UInt8}

theorem folderPlace_ne_nil (place : Place) : folderPlace place ≠ [] := by
  simp [folderPlace]

theorem filePlace_ne_nil (place : Place) : filePlace place ≠ [] := by
  simp [filePlace]

theorem filePlace_ne_folderPlace (place : Place) : filePlace place ≠ folderPlace place := by
  intro same
  have := congrArg List.length same
  simp [filePlace] at this

theorem entryName_directory : EntryName directory := by
  decide

theorem entryName_fileName : EntryName fileName := by
  decide

theorem entryName_names : ∀ name ∈ [directory, fileName], EntryName name := by
  simp [entryName_directory, entryName_fileName]

theorem path_eq (root : PathName) : path root = (root.join [directory]).join [fileName] := by
  simp [path, PathName.join]

namespace Ready

theorem leads (ready : Ready t root place) : t.Leads root place .directory :=
  leads_of_find ready.plain ready.found

theorem short_folder (ready : Ready t root place) :
    (root.join [directory]).toString.utf8ByteSize < pathLimit := by
  have short := ready.short
  rw [path_eq, toString_join (by simp [PathName.join]), String.utf8ByteSize_append,
    String.utf8ByteSize_append] at short
  omega

theorem leads_folder (ready : Ready t root place)
    (folder : t.get? (folderPlace place) = some .directory) :
    t.Leads (root.join [directory]) (folderPlace place) .directory :=
  ready.leads.join entryName_directory folder ready.short_folder

/-- The file is found if and only if something stands at its place. -/
theorem find_path (ready : Ready t root place) :
    t.find (path root).toString =
      match t.get? (filePlace place) with
      | some e => .ok (filePlace place, e)
      | none => .error (.atPath .noEntry (path root).toString) := by
  rcases ready.folder with absent | folder
  · rw [ready.led absent]
    exact ready.leads.find_absent entryName_names absent ready.short
  · have short := ready.short
    rw [path_eq] at short ⊢
    cases found : t.get? (filePlace place) with
    | some e => exact ((ready.leads_folder folder).join entryName_fileName found short).find_eq
    | none =>
        exact (ready.leads_folder folder).find_absent
          (List.forall_mem_singleton.mpr entryName_fileName) found short

theorem askable (ready : Ready t root place) : ¬ PathTooLong t root := by
  rintro ⟨message, tooLong⟩
  rw [ready.find_path] at tooLong
  split at tooLong <;> cases tooLong

theorem text?_eq (ready : Ready t root place) :
    text? t root =
      match t.get? (filePlace place) with
      | some (.file bytes) => (Utf8.decodeStrict bytes).toOption.map unifyBreaks
      | _ => none := by
  rw [text?, FileTree.read, ready.find_path]
  cases t.get? (filePlace place) with
  | none => rfl
  | some e => cases e <;> rfl

/-- What stands at the place of the file decides what is read. -/
theorem text?_congr (ready : Ready t root place) (ready' : Ready made root place)
    (same : made.get? (filePlace place) = t.get? (filePlace place)) :
    text? made root = text? t root := by
  rw [ready.text?_eq, ready'.text?_eq, same]

/-! ## Making the directory -/

theorem find_folder_absent (ready : Ready t root place)
    (absent : t.get? (folderPlace place) = none) :
    t.find (root.join [directory]).toString =
      .error (.atPath .noEntry (root.join [directory]).toString) :=
  ready.leads.find_absent (List.forall_mem_singleton.mpr entryName_directory) absent
    ready.short_folder

/-- With the directory made, the project is as ready as before. -/
theorem put_folder (ready : Ready t root place) :
    Ready (t.put (folderPlace place) .directory) root place := by
  have folder := get?_put_self (folderPlace_ne_nil place) t .directory
  have keeps : Keeps t (t.put (folderPlace place) .directory) :=
    keeps_put (folderPlace_ne_nil place) fun _ => rfl
  refine ⟨ready.plain, (ready.leads.of_keeps keeps).find_eq, ready.short, .inr folder, ?_, ?_⟩
  · rw [get?_put_of_ne (filePlace_ne_folderPlace place)]
    exact ready.file
  · intro missing
    rw [folder] at missing
    cases missing

theorem makeDirectory (ready : Ready t root place) :
    ∃ made, Config.makeDirectory t root = .ok made ∧ Ready made root place ∧
      made.get? (folderPlace place) = some .directory ∧
        ∀ other, other ≠ folderPlace place → made.get? other = t.get? other := by
  rcases ready.folder with absent | folder
  · refine ⟨_, ?_, ready.put_folder, get?_put_self (folderPlace_ne_nil place) t .directory,
      fun other differs => get?_put_of_ne differs t .directory⟩
    unfold Config.makeDirectory
    dsimp only
    rw [ready.find_folder_absent absent, ready.found]
    rfl
  · refine ⟨t, ?_, ready, folder, fun _ _ => rfl⟩
    unfold Config.makeDirectory
    dsimp only
    rw [(ready.leads_folder folder).find_eq]

/-! ## Opening the file -/

theorem put_file (ready : Ready t root place)
    (folder : t.get? (folderPlace place) = some .directory) (bytes : List UInt8) :
    Ready (t.put (filePlace place) (.file bytes)) root place := by
  have file := get?_put_self (filePlace_ne_nil place) t (.file bytes)
  have same := get?_put_of_ne (Ne.symm (filePlace_ne_folderPlace place)) t (.file bytes)
  have keeps : Keeps t (t.put (filePlace place) (.file bytes)) := by
    refine keeps_put (filePlace_ne_nil place) fun directory => absurd ?_ ready.file
    simpa [isDirectory] using directory
  refine ⟨ready.plain, (ready.leads.of_keeps keeps).find_eq, ready.short, ?_, ?_, ?_⟩
  · rw [same]
    exact .inr folder
  · rw [file]
    intro directory
    cases directory
  · intro missing
    rw [same, folder] at missing
    cases missing

theorem openFile (ready : Ready t root place)
    (folder : t.get? (folderPlace place) = some .directory) :
    Config.openFile t root = .ok (filePlace place, t.put (filePlace place) (.file [])) := by
  unfold Config.openFile
  dsimp only
  rw [ready.find_path]
  cases found : t.get? (filePlace place) with
  | none =>
      rw [(ready.leads_folder folder).find_eq]
      rfl
  | some e =>
      cases e with
      | file bytes => rfl
      | directory => exact absurd found ready.file

end Ready

/-! ## Reading back -/

theorem toNat_lt_of_isWritten {c : Char} (h : Json.isWritten c = true) : c.toNat < 0x80 := by
  simp only [Json.isWritten, Bool.or_eq_true, Bool.and_eq_true, decide_eq_true_eq] at h
  rcases h with rfl | ⟨-, high⟩
  · decide
  · omega

theorem not_mem_of_written {text : List Char} (h : Json.Written text) : '\r' ∉ text := by
  intro known
  have := h _ known
  revert this
  decide

/-- The text of a value without doubles is found in the file that it was put into. -/
theorem text?_of_pretty {v : Json} (ready : Ready t root place) (free : Json.Ordinary v)
    (file : t.get? (filePlace place) = some (.file (Utf8.encode v.pretty.toList))) :
    text? t root = some (Json.indented 0 v) := by
  have written := Json.written_indented free 0
  have chars : v.pretty.toList = Json.indented 0 v := String.toList_ofList
  rw [ready.text?_eq, file]
  dsimp only
  rw [chars, Utf8.decodeStrict_encode_ascii fun c known => toNat_lt_of_isWritten (written c known)]
  exact congrArg some (unifyBreaks_eq_self (not_mem_of_written written))

theorem members_of_pretty {data : Members} (ready : Ready t root place) (storable : Storable data)
    (file : t.get? (filePlace place) = some (.file (Utf8.encode (Json.obj data).pretty.toList))) :
    ¬ TooDeep t root ∧ members t root = data := by
  have text := text?_of_pretty ready storable.ordinary file
  have read := Json.readText_indented storable.readable storable.ordinary 0
  constructor
  · rintro ⟨other, kind, here, deep⟩
    rw [text] at here
    cases here
    rw [read] at deep
    cases deep
  · rw [members, value?, text, Option.bind_some, read]
    rfl

/-- What was loaded is what the file holds. -/
theorem loaded_iff (ready : Ready t root place) {data : Members} :
    (load t root).outcome.1 = .ok data ↔ ¬ TooDeep t root ∧ members t root = data := by
  by_cases deep : TooDeep t root
  · obtain ⟨f, fails⟩ := yields_load_of_tooDeep ready.askable deep
    rw [fails.outcome_eq]
    simp [deep]
  · rw [(yields_load ready.askable deep).outcome_eq]
    simp [deep]

theorem readable_members (t : FileTree) (root : PathName) :
    Json.Readable 0 (.obj (members t root)) := by
  have empty : Json.Readable 0 (.obj []) := .obj (by decide) Members.distinct_nil nofun
  unfold members
  split
  next found value =>
    rw [value?, Option.bind_eq_some_iff] at value
    obtain ⟨text, -, read⟩ := value
    cases parsed : Json.readText text with
    | error f =>
        rw [parsed] at read
        cases read
    | ok v =>
        rw [parsed] at read
        cases read
        exact Json.readable_of_readText parsed
  next => exact empty

/-! ## Writing -/

/-- The project loads the same with its directory made. -/
theorem outcome_load_congr (ready : Ready t root place) (ready' : Ready made root place)
    (same : made.get? (filePlace place) = t.get? (filePlace place)) {data : Members}
    (loaded : (load t root).outcome.1 = .ok data) : (load made root).outcome.1 = .ok data := by
  have text := ready.text?_congr ready' same
  obtain ⟨shallow, held⟩ := (loaded_iff ready).mp loaded
  refine (loaded_iff ready').mpr ⟨?_, ?_⟩
  · rintro ⟨found, kind, here, deep⟩
    exact shallow ⟨found, kind, text ▸ here, deep⟩
  · rw [← held, members, members, value?, value?, text]

/-- The tree holds the configuration, and is as another one elsewhere. -/
structure Stored (t : FileTree) (place : Place) (data : Members) (after : FileTree) : Prop where
  folder : after.get? (folderPlace place) = some .directory
  file : after.get? (filePlace place) = some (.file (Utf8.encode (Json.obj data).pretty.toList))
  others : ∀ other, other ≠ folderPlace place → other ≠ filePlace place →
    after.get? other = t.get? other

theorem Stored.trans {first second : Members} {middle after : FileTree}
    (h : Stored t place first middle) (h' : Stored middle place second after) :
    Stored t place second after where
  folder := h'.folder
  file := h'.file
  others := fun other notFolder notFile =>
    (h'.others other notFolder notFile).trans (h.others other notFolder notFile)

theorem Stored.get?_eq {data : Members} {after after' : FileTree} (h : Stored t place data after)
    (h' : Stored t place data after') (other : Place) : after.get? other = after'.get? other := by
  by_cases folder : other = folderPlace place
  · rw [folder, h.folder, h'.folder]
  · by_cases file : other = filePlace place
    · rw [file, h.file, h'.file]
    · rw [h.others other folder file, h'.others other folder file]

theorem textOf_of_storable {data : Members} (storable : Storable data) :
    textOf data = .ok (Json.obj data).pretty := by
  rw [textOf, Json.serialise_of_readable storable.readable]

theorem write_of_update {old u data : Members} (ready : Ready t root place)
    (loaded : (load t root).outcome.1 = .ok old) (updated : update old u = .ok data)
    (storable : Storable data) :
    (write t root u).1.outcome.1 = .ok () ∧ Ready (write t root u).2 root place ∧
      Stored t place data (write t root u).2 := by
  obtain ⟨made, makes, ready', folder, others⟩ := ready.makeDirectory
  have reloaded := outcome_load_congr ready ready'
    (others _ (filePlace_ne_folderPlace place)) loaded
  have outcome : (load made root).outcome = (.ok old, (load made root).outcome.2) :=
    Prod.ext reloaded rfl
  have written : write t root u = (writeAll (load made root).outcome.2,
      made.put (filePlace place) (.file (Utf8.encode (Json.obj data).pretty.toList))) := by
    unfold write
    rw [makes]
    dsimp only
    rw [outcome]
    dsimp only
    rw [updated]
    dsimp only
    rw [textOf_of_storable storable]
    dsimp only
    rw [ready'.openFile folder]
    dsimp only
    rw [put_put]
  rw [written]
  refine ⟨rfl, ready'.put_file folder _, ⟨?_, ?_, ?_⟩⟩
  · rw [get?_put_of_ne (Ne.symm (filePlace_ne_folderPlace place))]
    exact folder
  · exact get?_put_self (filePlace_ne_nil place) made _
  · intro other notFolder notFile
    rw [get?_put_of_ne notFile, others other notFolder]

/-- An update that can be written. -/
structure Writable (u : Members) : Prop where
  storable : Storable u
  object : ObjectConnection u

/-- A configuration that can be updated. -/
structure Updatable (data : Members) : Prop where
  storable : Storable data
  plain : PlainConnection data

theorem Writable.combine {u u' : Members} (h : Writable u) (h' : Writable u') :
    Writable (combine u u') where
  storable := h.storable.combine h'.storable
  object := h.object.combine h'.storable.regular.distinct h'.object

theorem Updatable.combine {old u : Members} (h : Updatable old) (h' : Writable u) :
    Updatable (combine old u) where
  storable := h.storable.combine h'.storable
  plain := h.plain.combine h'.storable.regular.distinct h'.object

/-- Writing stores the old configuration combined with the update, and that is what is loaded
afterwards. -/
theorem write_spec {old u : Members} (ready : Ready t root place)
    (loaded : (load t root).outcome.1 = .ok old) (h : Updatable old) (h' : Writable u) :
    (write t root u).1.outcome.1 = .ok () ∧ Ready (write t root u).2 root place ∧
      Stored t place (combine old u) (write t root u).2 ∧
        (load (write t root u).2 root).outcome.1 = .ok (combine old u) := by
  have updated := update_eq_combine h'.storable.regular.distinct h.plain h'.object
  have storable := h.storable.combine h'.storable
  obtain ⟨succeeds, ready', stored⟩ := write_of_update ready loaded updated storable
  exact ⟨succeeds, ready', stored,
    (loaded_iff ready').mpr (members_of_pretty ready' storable stored.file)⟩

/-- However many updates are written, what is loaded in the end is all of them combined in turn. -/
theorem load_foldl_write {old : Members} {updates : List Members} (ready : Ready t root place)
    (loaded : (load t root).outcome.1 = .ok old) (h : Updatable old)
    (all : ∀ u ∈ updates, Writable u) :
    (load (updates.foldl (fun t u => (write t root u).2) t) root).outcome.1 =
      .ok (updates.foldl combine old) := by
  induction updates generalizing t old with
  | nil => exact loaded
  | cons u updates ih =>
      obtain ⟨here, later⟩ := List.forall_mem_cons.mp all
      obtain ⟨-, ready', -, reloaded⟩ := write_spec ready loaded h here
      exact ih ready' reloaded (h.combine here) later

/-- After an update the old configuration combined with it is loaded: every key that it gives has
its value, the keys of connection settings are merged one by one, and all others keep theirs.
Writing the update again changes nothing, and two updates one after the other are one update with
both combined. -/
theorem load_write_combine {u u' : Members} (ready : Ready t root place)
    (shallow : ¬ TooDeep t root) (free : Json.Ordinary (.obj (members t root)))
    (plain : PlainConnection (members t root)) (h : Writable u) (h' : Writable u') :
    let old := members t root
    let stored := (write t root u).2
    ((load t root).outcome.1 = .ok old ∧ (write t root u).1.outcome.1 = .ok () ∧
      (load stored root).outcome.1 = .ok (combine old u) ∧ Updated old u (combine old u)) ∧
    ((write stored root u).1.outcome.1 = .ok () ∧
      (load (write stored root u).2 root).outcome.1 = (load stored root).outcome.1 ∧
        ∀ other, (write stored root u).2.get? other = stored.get? other) ∧
    ((write stored root u').1.outcome.1 = .ok () ∧ Updated u u' (combine u u') ∧
      (load (write stored root u').2 root).outcome.1 =
        (load (write t root (combine u u')).2 root).outcome.1 ∧
      ∀ other, (write stored root u').2.get? other =
        (write t root (combine u u')).2.get? other) := by
  intro old stored
  have updatable : Updatable old := ⟨⟨readable_members t root, free⟩, plain⟩
  have regular := updatable.storable.regular
  have loaded : (load t root).outcome.1 = .ok old := (loaded_iff ready).mpr ⟨shallow, rfl⟩
  obtain ⟨succeeds, ready', once, reloaded⟩ := write_spec ready loaded updatable h
  have again : combine (combine old u) u = combine old u := by
    rw [combine_assoc regular h.storable.regular h.storable.regular h.object h.object,
      combine_self h.storable.regular]
  have gathered : combine (combine old u) u' = combine old (combine u u') :=
    combine_assoc regular h.storable.regular h'.storable.regular h.object h'.object
  obtain ⟨repeats, -, twice, reloaded_twice⟩ := write_spec ready' reloaded (updatable.combine h) h
  obtain ⟨continues, -, both, reloaded_both⟩ := write_spec ready' reloaded (updatable.combine h) h'
  obtain ⟨-, -, single, reloaded_single⟩ := write_spec ready loaded updatable (h.combine h')
  rw [again] at twice reloaded_twice
  rw [gathered] at both reloaded_both
  exact ⟨⟨loaded, succeeds, reloaded, updated_combine regular h.storable.regular⟩,
    ⟨repeats, reloaded_twice.trans reloaded.symm, (once.trans twice).get?_eq once⟩,
    continues, updated_combine h.storable.regular h'.storable.regular,
    reloaded_both.trans reloaded_single.symm, (once.trans both).get?_eq single⟩

/-- A project with a configuration file. -/
def sampleProject (file : List UInt8) : FileTree :=
  { entries := [(["ws"], .directory), (["ws", ".ccsnav"], .directory),
      (["ws", ".ccsnav", "config.json"], .file file)] }

theorem ready_sampleProject (file : List UInt8) :
    Ready (sampleProject file) ⟨"/", ["ws"]⟩ ["ws"] where
  plain := ⟨by decide, by decide, by decide⟩
  found := rfl
  short := by decide
  folder := .inr rfl
  file := nofun
  led := nofun

theorem load_write_combine_connection :
    let old : Members := [("max_attempts", .int 7), ("\"\n😀", .arr [.null, .str "é"]),
      ("connection", .obj [("host", .str "h")])]
    let t := sampleProject (Utf8.encode (Json.obj old).pretty.toList)
    let root : PathName := ⟨"/", ["ws"]⟩
    let u : Members := [("connection", .obj [("port", .int 1)])]
    Ready t root ["ws"] ∧ ¬ TooDeep t root ∧ members t root = old ∧ Writable u ∧
      (load (write t root u).2 root).outcome.1 = .ok [("max_attempts", .int 7),
        ("\"\n😀", .arr [.null, .str "é"]),
        ("connection", .obj [("host", .str "h"), ("port", .int 1)])] := by
  intro old t root u
  have ready : Ready t root ["ws"] := ready_sampleProject _
  have old_storable : Storable old := by
    constructor
    · refine .obj (by decide) (by decide) ?_
      simp only [old, List.forall_mem_cons]
      refine ⟨.int (by decide), .arr (by decide) ?_, .obj (by decide) (by decide) ?_, nofun⟩
      · exact List.forall_mem_cons.mpr ⟨.null, List.forall_mem_singleton.mpr (.str "é")⟩
      · exact List.forall_mem_singleton.mpr (.str "h")
    · refine .obj ?_
      simp only [old, List.forall_mem_cons]
      refine ⟨.int 7, .arr ?_, .obj ?_, nofun⟩
      · exact List.forall_mem_cons.mpr ⟨.null, List.forall_mem_singleton.mpr (.str "é")⟩
      · exact List.forall_mem_singleton.mpr (.str "h")
  have old_plain : PlainConnection old := by
    intro v value
    exact .inr ⟨[("host", .str "h")], (Option.some.inj value).symm⟩
  have writable : Writable u :=
    ⟨⟨.obj (by decide) (by decide) (List.forall_mem_singleton.mpr (.obj (by decide) (by decide)
        (List.forall_mem_singleton.mpr (.int (by decide))))),
      .obj (List.forall_mem_singleton.mpr (.obj (List.forall_mem_singleton.mpr (.int 1))))⟩,
      fun v value => ⟨[("port", .int 1)], (Option.some.inj value).symm⟩⟩
  obtain ⟨shallow, held⟩ := members_of_pretty ready old_storable rfl
  have reloaded := (load_write_combine ready shallow (held ▸ old_storable.ordinary)
    (held ▸ old_plain) writable writable).1.2.2.1
  rw [held] at reloaded
  exact ⟨ready, shallow, held, writable, reloaded⟩

/-! ## Where writing fails -/

theorem write_of_makeDirectory_error {f : Fault} (fails : makeDirectory t root = .error f)
    (u : Members) : (write t root u).1.outcome.1 = .error f := by
  rw [write, fails]
  rfl

theorem write_of_load_error {f : Fault} (makes : makeDirectory t root = .ok made)
    (fails : (load made root).outcome.1 = .error f) (u : Members) :
    (write t root u).1.outcome.1 = .error f ∧ (write t root u).2 = made := by
  have outcome : (load made root).outcome = (.error f, (load made root).outcome.2) :=
    Prod.ext fails rfl
  rw [write, makes]
  dsimp only
  rw [outcome]
  exact ⟨rfl, rfl⟩

/-- A configuration nested too deeply is not updated. -/
theorem write_of_tooDeep (ready : Ready t root place) (deep : TooDeep t root) (u : Members) :
    ∃ f, (write t root u).1.outcome.1 = .error f := by
  obtain ⟨made, makes, ready', folder, others⟩ := ready.makeDirectory
  have text := ready.text?_congr ready' (others _ (filePlace_ne_folderPlace place))
  obtain ⟨found, kind, here, tooDeep⟩ := deep
  obtain ⟨f, fails⟩ := yields_load_of_tooDeep ready'.askable ⟨found, kind, text ▸ here, tooDeep⟩
  exact ⟨f, (write_of_load_error makes fails.outcome_eq u).1⟩

theorem utf8ByteSize_folder_upward (n : Nat) :
    ((upward n).join [directory]).toString.utf8ByteSize = 3 * n + 10 := by
  rw [toString_join (by simp [upward]), String.utf8ByteSize_append, String.utf8ByteSize_append,
    utf8ByteSize_upward]
  rfl

/-- Below a name that is almost too long itself, the directory of the configuration cannot be
asked for. -/
theorem write_upward {n : Nat} (long : pathLimit ≤ 3 * n + 10) (t : FileTree) (u : Members) :
    ∃ f, (write t (upward n) u).1.outcome.1 = .error f := by
  have plain : ((upward n).join [directory]).Plain :=
    (plain_upward n).join (by decide) (by decide)
  have text : ((upward n).join [directory]).parts.all isPathText = true := by
    rw [PathName.join, List.all_append, isPathText_upward]
    decide
  have fails : makeDirectory t (upward n) =
      .error (.atPath .nameTooLong ((upward n).join [directory]).toString) := by
    unfold makeDirectory
    dsimp only
    rw [find_of_tooLong plain text (utf8ByteSize_folder_upward n ▸ long) t]
    rfl
  exact ⟨_, write_of_makeDirectory_error fails u⟩

/-- Writing fails where the configuration is an object without doubles, but nested too deeply, and
where the root is a directory without a configuration, but its name too long to go on. -/
theorem write_fails_nested_and_far :
    let root : PathName := ⟨"/", ["ws"]⟩
    let data : Members := [("a", Json.nest 1000)]
    let nested := sampleProject (Utf8.encode (Json.obj data).pretty.toList)
    let empty : FileTree := { entries := [] }
    let u : Members := [("max_attempts", .int 7)]
    (Ready nested root ["ws"] ∧ text? nested root = some (Json.indented 0 (.obj data)) ∧
      Json.Ordinary (.obj data) ∧ Members.get? "connection" data = none ∧
        ∃ f, (write nested root u).1.outcome.1 = .error f) ∧
    (empty.find (upward 1363).toString = .ok ([], .directory) ∧
      empty.get? (folderPlace []) = none ∧
        ∃ f, (write empty (upward 1363) u).1.outcome.1 = .error f) := by
  intro root data nested empty u
  have free : Json.Ordinary (.obj data) :=
    .obj (List.forall_mem_singleton.mpr (Json.ordinary_nest 1000))
  have ready : Ready nested root ["ws"] := ready_sampleProject _
  have text := text?_of_pretty ready free rfl
  have deep : TooDeep nested root := ⟨_, _, text, Json.readText_nest "a" (by decide) 0⟩
  exact ⟨⟨ready, text, free, rfl, write_of_tooDeep ready deep u⟩,
    find_upward empty rfl (by decide), rfl, write_upward (by decide) empty u⟩

end RefNav.Config
