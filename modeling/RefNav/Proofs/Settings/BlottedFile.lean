import RefNav.Proofs.Settings.Blotted
import RefNav.Proofs.Settings.Write

/-! # Configuration files with the password blotted out

File trees are alike if they are the same but for the passwords in files that hold a
configuration.  Paths lead to alike entries in them, the same project is found, and loading
its configuration comes to alike results.
-/

namespace RefNav

open RefNav.Text

/-- The configuration in the bytes of a file, if they hold an object. -/
def Config.ofBytes? (bytes : List UInt8) : Option Members :=
  match Utf8.decodeStrict bytes with
  | .error _ => none
  | .ok raw =>
      match Json.readText (unifyBreaks raw) with
      | .ok (.obj data) => some data
      | _ => none

/-- A configuration that was written is held. -/
theorem Config.ofBytes?_pretty {data : Members} (storable : Config.Storable data) :
    Config.ofBytes? (Utf8.encode (Json.obj data).pretty.toList) = some data := by
  have written := Json.written_indented storable.ordinary 0
  have chars : (Json.obj data).pretty.toList = Json.indented 0 (.obj data) := String.toList_ofList
  have decoded := Utf8.decodeStrict_encode_ascii fun c known =>
    Config.toNat_lt_of_isWritten (written c known)
  unfold ofBytes?
  rw [chars, decoded]
  dsimp only
  rw [unifyBreaks_eq_self (Config.not_mem_of_written written),
    Json.readText_indented storable.readable storable.ordinary 0]

/-- Entries that are the same, or files with configurations that are the same but for
passwords. -/
inductive Entry.Like : Entry → Entry → Prop where
  | refl (e : Entry) : Like e e
  | config {bytes bytes' : List UInt8} {data data' : Members} :
      Config.ofBytes? bytes = some data → Config.ofBytes? bytes' = some data' →
        Config.Like data data' → Like (.file bytes) (.file bytes')

/-- File trees that are the same but for the passwords in configurations. -/
structure FileTree.Like (t t' : FileTree) : Prop where
  current : t.current = t'.current
  entries : ∀ place, Option.Rel Entry.Like (t.get? place) (t'.get? place)

namespace FileTree.Like

variable {t t' : FileTree} {place : Place}

theorem refl (t : FileTree) : t.Like t where
  current := rfl
  entries := by
    intro place
    cases t.get? place with
    | none => exact .none
    | some e => exact .some (.refl e)

theorem get?_cases (h : t.Like t') (place : Place) :
    (t.get? place = none ∧ t'.get? place = none) ∨
      ∃ e e', t.get? place = some e ∧ t'.get? place = some e' ∧ Entry.Like e e' := by
  have entries := h.entries place
  generalize t.get? place = o, t'.get? place = o' at entries
  cases entries with
  | none => exact .inl ⟨rfl, rfl⟩
  | some like => exact .inr ⟨_, _, rfl, rfl, like⟩

theorem isDirectory_eq (h : t.Like t') (place : Place) :
    t.isDirectory place = t'.isDirectory place := by
  unfold isDirectory
  rcases h.get?_cases place with ⟨none, none'⟩ | ⟨e, e', some, some', like⟩
  · rw [none, none']
  · rw [some, some']
    cases like <;> simp

theorem isSome_eq (h : t.Like t') (place : Place) :
    (t.get? place).isSome = (t'.get? place).isSome := by
  rcases h.get?_cases place with ⟨none, none'⟩ | ⟨e, e', some, some', _⟩
  · rw [none, none']
  · rw [some, some']
    rfl

theorem walk_eq (h : t.Like t') (here : Place) (parts : List String) :
    t.walk here parts = t'.walk here parts := by
  induction parts generalizing here with
  | nil => rfl
  | cons part rest ih => simp only [walk, h.isDirectory_eq, h.isSome_eq, ih]

theorem search_cases (h : t.Like t') (path : String) :
    (∃ cause, t.search path = .error cause ∧ t'.search path = .error cause) ∨
      ∃ place e e', t.search path = .ok (place, e) ∧ t'.search path = .ok (place, e') ∧
        Entry.Like e e' := by
  unfold search
  rw [h.current]
  simp only [h.walk_eq]
  split
  · exact .inl ⟨_, rfl, rfl⟩
  split
  · exact .inl ⟨_, rfl, rfl⟩
  generalize (if path.toList.head? = some '/' then [] else t'.current) = start
  cases t'.walk start (PathName.pieces path) with
  | error cause => exact .inl ⟨cause, rfl, rfl⟩
  | ok place =>
      dsimp only
      rcases h.get?_cases place with ⟨none, none'⟩ | ⟨e, e', some, some', like⟩
      · rw [none, none']
        exact .inl ⟨_, rfl, rfl⟩
      · rw [some, some']
        exact .inr ⟨place, e, e', rfl, rfl, like⟩

/-- A path leads to the same place, and to alike entries. -/
theorem find (h : t.Like t') (path : String) :
    SameOutcome (fun p q => p.1 = q.1 ∧ Entry.Like p.2 q.2) (t.find path) (t'.find path) := by
  unfold FileTree.find
  split
  · rcases h.search_cases path with ⟨cause, failed, failed'⟩ | ⟨place, e, e', found, found', like⟩
    · rw [failed, failed']
      exact .error _
    · rw [found, found']
      exact .ok ⟨rfl, like⟩
  · exact .error _

/-- A path leads to a directory in both trees, to a file in both, or nowhere. -/
theorem find_kinds (h : t.Like t') (path : String) :
    (∃ place, t.find path = .ok (place, .directory) ∧ t'.find path = .ok (place, .directory)) ∨
    (∃ place bytes bytes', t.find path = .ok (place, .file bytes) ∧
      t'.find path = .ok (place, .file bytes')) ∨
    ∃ f, t.find path = .error f ∧ t'.find path = .error f := by
  have found := h.find path
  generalize t.find path = o, t'.find path = o' at found ⊢
  cases found with
  | @ok p q same =>
      obtain ⟨place, e⟩ := p
      obtain ⟨place', e'⟩ := q
      obtain ⟨rfl, like⟩ : place = place' ∧ Entry.Like e e' := same
      cases like with
      | refl e =>
          cases e with
          | directory => exact .inl ⟨place, rfl, rfl⟩
          | file bytes => exact .inr (.inl ⟨place, bytes, bytes, rfl, rfl⟩)
      | config _ _ _ => exact .inr (.inl ⟨place, _, _, rfl, rfl⟩)
  | error f => exact .inr (.inr ⟨f, rfl, rfl⟩)

theorem probe (h : t.Like t') (path : String) :
    SameOutcome (Option.Rel Entry.Like) (t.probe path) (t'.probe path) := by
  have found := h.find path
  unfold FileTree.probe
  generalize t.find path = o, t'.find path = o' at found
  cases found with
  | ok same => exact .ok (.some same.2)
  | error f =>
      apply SameOutcome.refl
      intro e
      cases e with
      | none => exact .none
      | some e => exact .some (.refl e)

theorem leadsSomewhere_eq (h : t.Like t') (path : String) :
    t.leadsSomewhere path = t'.leadsSomewhere path := by
  have probed := h.probe path
  unfold leadsSomewhere
  generalize t.probe path = o, t'.probe path = o' at probed
  cases probed with
  | ok same => cases same <;> rfl
  | error f => rfl

theorem leadsToFile_eq (h : t.Like t') (path : String) :
    t.leadsToFile path = t'.leadsToFile path := by
  have probed := h.probe path
  unfold leadsToFile
  generalize t.probe path = o, t'.probe path = o' at probed
  cases probed with
  | error f => rfl
  | ok same =>
      cases same with
      | none => rfl
      | some like => cases like <;> rfl

theorem firstCheckout?_eq (h : t.Like t') (places : List Place) :
    t.firstCheckout? places = t'.firstCheckout? places := by
  induction places with
  | nil => rfl
  | cons place rest ih => simp only [firstCheckout?, isCheckout, h.leadsSomewhere_eq, ih]

theorem projectRoot_eq (h : t.Like t') (start : PathName) :
    t.projectRoot start = t'.projectRoot start := by
  simp only [projectRoot, resolve, h.current, h.leadsToFile_eq, h.firstCheckout?_eq]

theorem put (h : t.Like t') (place : Place) {e e' : Entry} (like : Entry.Like e e') :
    (t.put place e).Like (t'.put place e') where
  current := h.current
  entries := by
    intro other
    by_cases top : other = []
    · subst top
      exact .some (.refl .directory)
    · by_cases same : other = place
      · subst same
        rw [get?_put_self top, get?_put_self top]
        exact .some like
      · rw [get?_put_of_ne same, get?_put_of_ne same]
        exact h.entries other

end FileTree.Like

namespace Config

variable {t t' : FileTree}

theorem readValue_of_bytes {file : PathName} {bytes : List UInt8} {data : Members}
    (read : t.read file.toString = .ok bytes) (holds : ofBytes? bytes = some data) :
    readValue t file = .ok (.ok (.obj data)) := by
  unfold ofBytes? at holds
  cases decoded : Utf8.decodeStrict bytes with
  | error f =>
      rw [decoded] at holds
      cases holds
  | ok raw =>
      rw [decoded] at holds
      dsimp only at holds
      cases parsed : Json.readText (unifyBreaks raw) with
      | error f =>
          rw [parsed] at holds
          cases holds
      | ok v =>
          have object : v = .obj data := by
            rw [parsed] at holds
            cases v <;> simp_all
          simp only [readValue, read, decoded, parsed, object]

/-- The same value is read, or two configurations that are the same but for passwords. -/
theorem readValue_cases (h : t.Like t') (file : PathName) :
    readValue t file = readValue t' file ∨
      ∃ data data', readValue t file = .ok (.ok (.obj data)) ∧
        readValue t' file = .ok (.ok (.obj data')) ∧ Like data data' := by
  have found := h.find file.toString
  rcases hx : t.find file.toString with f | ⟨place, e⟩ <;>
    rcases hy : t'.find file.toString with f' | ⟨place', e'⟩ <;> rw [hx, hy] at found
  · cases found
    exact .inl (by simp only [readValue, FileTree.read, hx, hy])
  · cases found
  · cases found
  · obtain ⟨rfl, like⟩ : place = place' ∧ Entry.Like e e' := by
      cases found with
      | ok same => exact same
    cases like with
    | refl e => exact .inl (by simp only [readValue, FileTree.read, hx, hy])
    | config holds holds' alike =>
        refine .inr ⟨_, _, readValue_of_bytes ?_ holds, readValue_of_bytes ?_ holds', alike⟩
        · simp only [FileTree.read, hx]
        · simp only [FileTree.read, hy]

theorem Like.refl (data : Members) : Like data data := rfl

/-- The same file is loaded, or one that is the same but for passwords. -/
theorem alike_load (h : t.Like t') (root : PathName) :
    Alike Like (load t root) (load t' root) := by
  unfold load
  dsimp only
  rw [h.leadsSomewhere_eq]
  refine (Alike.refl _).bind fun there there' same => ?_
  subst same
  split
  · exact .pure (Like.refl [])
  · rcases readValue_cases h (path root) with same | ⟨data, data', read, read', like⟩
    · rw [same]
      exact (Alike.refl _).mono fun _ _ same => same ▸ Like.refl _
    · rw [read, read']
      exact .pure like

end Config

end RefNav
