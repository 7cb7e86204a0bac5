import RefNav.Settings.Basic

/-! # Loading settings

A setting that cannot be used is replaced by its default, with three exceptions: connection
settings that are no mapping, numbers that are infinite, and a file nested too deeply make
loading fail.  The last theorem says exactly when it does, and what it gives otherwise.
-/

namespace RefNav

open RefNav.Text

/-! ## Outcomes of computations that log -/

namespace Logged

/-- Whatever was logged before, the computation comes to this outcome. -/
def Yields {α : Type} (m : Logged α) (outcome : Except Fault α) : Prop :=
  ∀ log, ((ExceptT.run m).run log).1 = outcome

variable {α β : Type} {m : Logged α} {next : α → Logged β} {a : α} {f : Fault}

theorem yields_pure (a : α) : Yields (pure a) (.ok a) := fun _ => rfl

theorem yields_throw (f : Fault) : Yields (throw f : Logged α) (.error f) := fun _ => rfl

theorem yields_ofExcept (outcome : Except Fault α) : Yields (ofExcept outcome) outcome :=
  fun _ => rfl

theorem yields_warn (message : String) : Yields (warn message) (.ok ()) := fun _ => rfl

theorem run_bind (m : Logged α) (next : α → Logged β) (log : List LogRecord) :
    (ExceptT.run (m >>= next)).run log =
      match (ExceptT.run m).run log with
      | (.ok a, later) => (ExceptT.run (next a)).run later
      | (.error f, later) => (.error f, later) := by
  rw [ExceptT.run_bind, StateT.run_bind]
  rcases StateT.run (ExceptT.run m) log with ⟨_ | _, _⟩ <;> rfl

theorem Yields.bind {outcome : Except Fault β} (h : Yields m (.ok a))
    (goes_on : Yields (next a) outcome) : Yields (m >>= next) outcome := by
  intro log
  have here : (ExceptT.run m).run log = (.ok a, ((ExceptT.run m).run log).2) :=
    Prod.ext (h log) rfl
  rw [run_bind, here]
  exact goes_on _

theorem Yields.bind_error (h : Yields m (.error f)) : Yields (m >>= next) (.error f) := by
  intro log
  have here : (ExceptT.run m).run log = (.error f, ((ExceptT.run m).run log).2) :=
    Prod.ext (h log) rfl
  rw [run_bind, here]

theorem Yields.outcome_eq {outcome : Except Fault α} (h : Yields m outcome) :
    m.outcome.1 = outcome :=
  h []

end Logged

/-! ## Numbers -/

/-- Is the value an infinite number? -/
def Json.isInfinite : Json → Bool
  | .float (.infinite _) => true
  | _ => false

theorem Json.toInteger_outOfRange_iff (v : Json) :
    v.toInteger = .error .outOfRange ↔ v.isInfinite = true := by
  cases v with
  | float x => cases x <;> simp [toInteger, isInfinite, Number.Binary64.truncate?]
  | str s => cases read : readInteger s <;> simp [toInteger, isInfinite, read]
  | _ => simp [toInteger, isInfinite]

theorem Json.ne_outOfRange_of_toInteger {v : Json} {kind : FailureKind}
    (h : v.isInfinite = false) (read : v.toInteger = .error kind) : kind ≠ .outOfRange := by
  rintro rfl
  simp [(toInteger_outOfRange_iff v).mp read] at h

namespace Settings

open Logged

variable {v : Json}

theorem yields_integerSetting_of_infinite (h : v.isInfinite = true) (what : String)
    (default : Int) : ∃ f, Yields (integerSetting what default v) (.error f) := by
  unfold integerSetting
  rw [(Json.toInteger_outOfRange_iff v).mpr h]
  exact ⟨_, yields_throw _⟩

/-- A number that is not infinite is used, and anything else is replaced by the default. -/
theorem yields_integerSetting (h : v.isInfinite = false) (what : String) (default : Int) :
    Yields (integerSetting what default v) (.ok (v.toInteger.toOption.getD default)) := by
  unfold integerSetting
  cases read : v.toInteger with
  | ok n => exact yields_pure n
  | error kind =>
      cases kind with
      | outOfRange => exact absurd rfl (Json.ne_outOfRange_of_toInteger h read)
      | _ => exact (yields_warn _).bind (yields_pure default)

theorem yields_portOf_of_infinite (h : v.isInfinite = true) :
    ∃ f, Yields (portOf v) (.error f) := by
  unfold portOf
  split
  · cases h
  · cases h
  · rw [(Json.toInteger_outOfRange_iff v).mpr h]
    exact ⟨_, yields_throw _⟩

/-- A port that is no number counts as absent. -/
theorem yields_portOf (h : v.isInfinite = false) :
    Yields (portOf v) (.ok ((v.toInteger.toOption.map Json.int).getD .null)) := by
  unfold portOf
  split
  · exact yields_pure Json.null
  · exact yields_pure Json.null
  · cases read : v.toInteger with
    | ok n => exact yields_pure (Json.int n)
    | error kind =>
        cases kind with
        | outOfRange => exact absurd rfl (Json.ne_outOfRange_of_toInteger h read)
        | _ => exact (yields_warn _).bind (yields_pure Json.null)

end Settings

/-! ## Connection settings -/

namespace Block

theorem sameKey_str_iff (k : Json) (key : String) : sameKey k (.str key) = true ↔ k = .str key := by
  cases k with
  | str s => simp [sameKey]
  | float x => cases x <;> simp [sameKey, ratio?]
  | _ => simp [sameKey, ratio?]

theorem get?_set_self (key : String) (value : Json) (block : Block) :
    get? key (set (.str key) value block) = some value := by
  induction block with
  | nil => simp [set, get?, sameKey_str_iff]
  | cons p rest ih =>
      by_cases same : sameKey p.1 (.str key) = true
      · simp [set, get?, same]
      · simp [set, get?, same, ih]

theorem get?_set_of_ne {key other : String} (h : other ≠ key) (value : Json) (block : Block) :
    get? other (set (.str key) value block) = get? other block := by
  induction block with
  | nil => simp [set, get?, sameKey_str_iff, h.symm]
  | cons p rest ih =>
      by_cases same : p.1 = .str key
      · simp [set, get?, sameKey_str_iff, same, h.symm]
      · simp [set, get?, sameKey_str_iff, same, ih]

/-- Does an item of a list make a pair of a key and a value? -/
def isPair : Json → Bool
  | .arr [k, _] => isScalar k
  | .obj [_, _] => true
  | .str s => s.length = 2
  | .unpaired u => u.points.length = 2
  | _ => false

/-- Can a value be taken for connection settings?  An object can, so can a list of pairs,
and whatever counts as false stands for no settings. -/
def isUsable (v : Json) : Bool :=
  match v with
  | .obj _ => true
  | .arr items => items.all isPair
  | other => !other.truthy

theorem exists_pair_iff (item : Json) : (∃ p, pair? item = .ok p) ↔ isPair item = true := by
  fun_cases pair? item with
  | case1 k v scalar => simp [isPair, scalar]
  | case2 k v compound => simp [isPair, compound]
  | case3 items other => simp_all [isPair]
  | case4 k v => simp [isPair]
  | case5 members other => simp_all [isPair]
  | case6 s k v two => simp [isPair, ← String.length_toList, two]
  | case7 s other =>
      have notTwo : s.length ≠ 2 := by
        rw [← String.length_toList]
        match chars : s.toList with
        | [] | [_] | _ :: _ :: _ :: _ => simp
        | [k, v] => exact absurd chars (other k v)
      simp [isPair, notTwo]
  | case8 u k v two => simp [isPair, two]
  | case9 u other =>
      have notTwo : u.points.length ≠ 2 := by
        match points : u.points with
        | [] | [_] | _ :: _ :: _ :: _ => simp
        | [k, v] => exact absurd points (other k v)
      simp [isPair, notTwo]
  | case10 => simp_all [isPair]

theorem exists_addPairs_iff (block : Block) (items : List Json) :
    (∃ result, addPairs block items = .ok result) ↔ items.all isPair = true := by
  induction items generalizing block with
  | nil => simp [addPairs]
  | cons item rest ih =>
      have pair := exists_pair_iff item
      rw [List.all_cons, Bool.and_eq_true, ← pair]
      unfold addPairs
      cases read : pair? item with
      | error f => simp
      | ok p => simp [ih]

theorem exists_ofJson_iff (v : Json) : (∃ block, ofJson v = .ok block) ↔ isUsable v = true := by
  unfold ofJson
  cases v with
  | obj members => cases members <;> simp [Json.truthy, isUsable]
  | arr items =>
      cases items with
      | nil => simp [Json.truthy, isUsable]
      | cons item rest => simpa [Json.truthy, isUsable] using exists_addPairs_iff [] (item :: rest)
  | _ =>
      split
      · simp_all [isUsable]
      · simp_all [isUsable]

end Block

namespace Settings

open Logged

/-- The value that a variable gives to its key. -/
def overriding? (env : Environment) (entry : String × String × Conversion) : Option Json :=
  (env.value? entry.1).bind entry.2.2.apply

/-- Connection settings overridden by one variable. -/
def overrideBy (env : Environment) (block : Block) (entry : String × String × Conversion) : Block :=
  match overriding? env entry with
  | some v => Block.set (.str entry.2.1) v block
  | none => block

/-- Overriding never fails: a variable that cannot be converted has no effect. -/
theorem yields_overrideConnection (env : Environment)
    (entries : List (String × String × Conversion)) (block : Block) :
    Yields (overrideConnection env entries block)
      (.ok (entries.foldl (overrideBy env) block)) := by
  induction entries generalizing block with
  | nil => exact yields_pure block
  | cons entry rest ih =>
      obtain ⟨name, key, conversion⟩ := entry
      rw [List.foldl_cons, overrideConnection]
      cases set : env.value? name with
      | none => simpa [overrideBy, overriding?, set] using ih block
      | some raw =>
          cases converted : conversion.apply raw with
          | some v =>
              simpa [overrideBy, overriding?, set, converted] using
                ih (Block.set (.str key) v block)
          | none =>
              simpa [overrideBy, overriding?, set, converted] using (yields_warn _).bind (ih block)

theorem get?_overrideBy (env : Environment) (block : Block)
    (entry : String × String × Conversion) (key : String) :
    Block.get? key (overrideBy env block entry) =
      if entry.2.1 = key then (overriding? env entry).or (Block.get? key block)
      else Block.get? key block := by
  unfold overrideBy
  cases overriding? env entry with
  | none => simp
  | some v =>
      by_cases same : entry.2.1 = key
      · subst same
        simp [Block.get?_set_self]
      · simp [same, Block.get?_set_of_ne (Ne.symm same)]

end Settings

/-! ## The configuration file -/

namespace Config

open Logged

/-- The path of the configuration is too long to be asked for. -/
def PathTooLong (t : FileTree) (root : PathName) : Prop :=
  ∃ message, t.find (path root).toString = .error (.file .nameTooLong message)

/-- The text of the configuration file, if it can be read. -/
def text? (t : FileTree) (root : PathName) : Option (List Char) :=
  (t.read (path root).toString).toOption.bind fun bytes =>
    (Utf8.decodeStrict bytes).toOption.map unifyBreaks

/-- Arrays and objects are nested too deeply in the configuration file. -/
def TooDeep (t : FileTree) (root : PathName) : Prop :=
  ∃ text kind, text? t root = some text ∧ Json.readText text = .error (.tooDeep kind)

/-- The value in the configuration file, if it can be read. -/
def value? (t : FileTree) (root : PathName) : Option Json :=
  (text? t root).bind fun text => (Json.readText text).toOption

/-- The members of the object in the configuration file; none if it holds no object. -/
def members (t : FileTree) (root : PathName) : Members :=
  match value? t root with
  | some (.obj found) => found
  | _ => []

variable {t : FileTree} {root : PathName}

theorem yields_load_of_pathTooLong (h : PathTooLong t root) :
    ∃ f, Yields (load t root) (.error f) := by
  obtain ⟨message, tooLong⟩ := h
  have asked : t.leadsSomewhere (path root).toString = .error (.file .nameTooLong message) := by
    simp only [FileTree.leadsSomewhere, FileTree.probe, tooLong]
    rfl
  refine ⟨_, Yields.bind_error (f := .file .nameTooLong message) ?_⟩
  rw [asked]
  exact yields_ofExcept _

theorem leadsSomewhere_eq (askable : ¬ PathTooLong t root) :
    t.leadsSomewhere (path root).toString =
      .ok (t.find (path root).toString).toOption.isSome := by
  unfold FileTree.leadsSomewhere FileTree.probe
  split
  · rename_i found
    rw [found]
    rfl
  · rename_i message tooLong
    exact absurd ⟨message, tooLong⟩ askable
  · rename_i f _ failed
    rw [failed]
    rfl

theorem text?_of_find_error {f : Fault} (h : t.find (path root).toString = .error f) :
    text? t root = none := by
  simp [text?, FileTree.read, h, Except.toOption]

theorem exists_find_of_text? {text : List Char} (h : text? t root = some text) :
    (t.find (path root).toString).toOption.isSome = true := by
  cases found : t.find (path root).toString with
  | ok place => rfl
  | error f => simp [text?_of_find_error found] at h

theorem readValue_of_text? {text : List Char} (h : text? t root = some text) :
    readValue t (path root) =
      match Json.readText text with
      | .ok v => .ok (.ok v)
      | .error (.tooDeep kind) =>
          .error (.failure .tooDeep (Json.ReadFault.message text (.tooDeep kind)))
      | .error f => .ok (.error (f.message text)) := by
  unfold text? at h
  unfold readValue
  cases read : t.read (path root).toString with
  | error f => simp [read, Except.toOption] at h
  | ok bytes =>
      cases decoded : Utf8.decodeStrict bytes with
      | error f => simp [read, decoded, Except.toOption] at h
      | ok raw =>
          simp only [read, decoded, Except.toOption, Option.bind_some, Option.map_some,
            Option.some.injEq] at h
          subst h
          cases parsed : Json.readText (unifyBreaks raw) with
          | ok v => simp only [decoded, parsed]
          | error f => cases f <;> simp only [decoded, parsed]

theorem readValue_of_no_text (h : text? t root = none) :
    ∃ reason, readValue t (path root) = .ok (.error reason) := by
  unfold text? at h
  unfold readValue
  cases read : t.read (path root).toString with
  | error f => exact ⟨_, rfl⟩
  | ok bytes =>
      cases decoded : Utf8.decodeStrict bytes with
      | error f => exact ⟨f.message, by simp only [decoded]⟩
      | ok raw => simp [read, decoded, Except.toOption] at h

theorem yields_load_of_tooDeep (askable : ¬ PathTooLong t root) (h : TooDeep t root) :
    ∃ f, Yields (load t root) (.error f) := by
  obtain ⟨text, kind, read, deep⟩ := h
  have value := readValue_of_text? read
  rw [deep] at value
  unfold load
  dsimp only
  rw [leadsSomewhere_eq askable, exists_find_of_text? read, value]
  exact ⟨_, (yields_ofExcept _).bind (yields_ofExcept _).bind_error⟩

theorem members_of_no_value (h : value? t root = none) : members t root = [] := by
  unfold members
  rw [h]

/-- Every other file counts, with nothing in it unless it holds an object. -/
theorem yields_load (askable : ¬ PathTooLong t root) (shallow : ¬ TooDeep t root) :
    Yields (load t root) (.ok (members t root)) := by
  unfold load
  dsimp only
  rw [leadsSomewhere_eq askable]
  refine (yields_ofExcept _).bind ?_
  cases read : text? t root with
  | none =>
      -- The file may be missing or unreadable; only the second is worth a warning.
      obtain ⟨reason, unread⟩ := readValue_of_no_text read
      rw [members_of_no_value (by rw [value?, read]; rfl), unread]
      split
      · exact yields_pure []
      · exact (yields_ofExcept _).bind ((yields_warn _).bind (yields_pure []))
  | some text =>
      rw [exists_find_of_text? read, readValue_of_text? read]
      cases parsed : Json.readText text with
      | ok v =>
          have value : value? t root = some v := by
            rw [value?, read, Option.bind_some, parsed]
            rfl
          unfold members
          rw [value]
          refine (yields_ofExcept _).bind ?_
          cases v with
          | obj found => exact yields_pure found
          | _ => exact yields_pure []
      | error fault =>
          have none : value? t root = none := by
            rw [value?, read, Option.bind_some, parsed]
            rfl
          rw [members_of_no_value none]
          cases fault with
          | tooDeep kind => exact absurd ⟨text, kind, read, parsed⟩ shallow
          | _ => exact (yields_ofExcept _).bind ((yields_warn _).bind (yields_pure []))

/-- Whatever was logged before, the file fails to be read, or comes to its members. -/
theorem yields_load_cases (t : FileTree) (root : PathName) :
    (∃ f, Yields (load t root) (.error f)) ∨ Yields (load t root) (.ok (members t root)) := by
  by_cases tooLong : PathTooLong t root
  · exact .inl (yields_load_of_pathTooLong tooLong)
  · by_cases tooDeep : TooDeep t root
    · exact .inl (yields_load_of_tooDeep tooLong tooDeep)
    · exact .inr (yields_load tooLong tooDeep)

end Config

/-! ## All of the settings -/

namespace Settings

open Logged

/-- The settings of a project together with the connection that they describe. -/
def context (t : FileTree) (root : PathName) (env : Environment) :
    Logged (Settings × Connection) := do
  let settings ← load t root env
  let connection ← connectionOf settings.connection
  return (settings, connection)

/-- The connection settings in a configuration, before variables override them. -/
def connectionValue (data : Members) : Json :=
  (Members.get? "connection" data).getD .null

/-- The value that the request time-out is read from. -/
def timeoutValue (env : Environment) (data : Members) : Json :=
  valueOf env timeoutVariable data "request_timeout_ms" (.int 500)

/-- The value that the number of attempts is read from. -/
def attemptsValue (data : Members) : Json :=
  (Members.get? "max_attempts" data).getD (.int 2)

/-- The value that the port is read from: the variable if it is a number, else the file. -/
def portValue (env : Environment) (block : Block) : Json :=
  let variablePort := (env.value? "CCSNAV_PORT").bind Conversion.integer.apply
  (variablePort.or (Block.get? "port" block)).getD .null

variable {t : FileTree} {root : PathName} {env : Environment} {data : Members} {block : Block}

theorem yields_load_of_infinite (file : Yields (Config.load t root) (.ok data))
    (usable : Block.ofJson (connectionValue data) = .ok block)
    (infinite : (timeoutValue env data).isInfinite = true ∨
      (attemptsValue data).isInfinite = true) :
    ∃ f, Yields (load t root env) (.error f) := by
  have taken : Yields (Logged.ofExcept (Block.ofJson (connectionValue data))) (.ok block) :=
    usable ▸ yields_ofExcept _
  have overrides := yields_overrideConnection env connectionVariables block
  by_cases timeout : (timeoutValue env data).isInfinite = true
  · obtain ⟨f, fails⟩ := yields_integerSetting_of_infinite timeout "request timeout" 500
    exact ⟨f, file.bind (taken.bind (overrides.bind fails.bind_error))⟩
  · have attempts := infinite.resolve_left timeout
    obtain ⟨f, fails⟩ := yields_integerSetting_of_infinite attempts "max_attempts" 2
    have read := yields_integerSetting (Bool.eq_false_iff.mpr timeout) "request timeout" 500
    exact ⟨f, file.bind (taken.bind (overrides.bind (read.bind fails.bind_error)))⟩

/-- Settings that are read: numbers are used where they are numbers, and variables override
the connection. -/
theorem yields_load_of_finite (file : Yields (Config.load t root) (.ok data))
    (usable : Block.ofJson (connectionValue data) = .ok block)
    (timeout : (timeoutValue env data).isInfinite = false)
    (attempts : (attemptsValue data).isInfinite = false) :
    ∃ s, Yields (load t root env) (.ok s) ∧
      s.requestTimeoutMs = (timeoutValue env data).toInteger.toOption.getD 500 ∧
      s.maxAttempts = (attemptsValue data).toInteger.toOption.getD 2 ∧
      s.connection = connectionVariables.foldl (overrideBy env) block := by
  have taken : Yields (Logged.ofExcept (Block.ofJson (connectionValue data))) (.ok block) :=
    usable ▸ yields_ofExcept _
  have overrides := yields_overrideConnection env connectionVariables block
  have first := yields_integerSetting timeout "request timeout" 500
  have second := yields_integerSetting attempts "max_attempts" 2
  exact ⟨_, file.bind (taken.bind (overrides.bind (first.bind (second.bind (yields_pure _))))),
    rfl, rfl, rfl⟩

theorem getD_port_overridden (env : Environment) (block : Block) :
    (Block.get? "port" (connectionVariables.foldl (overrideBy env) block)).getD .null =
      portValue env block := by
  simp [portValue, connectionVariables, get?_overrideBy, overriding?]

theorem yields_connectionOf_of_infinite (h : (portValue env block).isInfinite = true) :
    ∃ f, Yields (connectionOf (connectionVariables.foldl (overrideBy env) block)) (.error f) := by
  rw [← getD_port_overridden] at h
  obtain ⟨f, fails⟩ := yields_portOf_of_infinite h
  exact ⟨f, fails.bind_error⟩

theorem yields_connectionOf (h : (portValue env block).isInfinite = false) :
    ∃ c, Yields (connectionOf (connectionVariables.foldl (overrideBy env) block)) (.ok c) ∧
      c.port = ((portValue env block).toInteger.toOption.map Json.int).getD .null := by
  rw [← getD_port_overridden] at h ⊢
  exact ⟨_, (yields_portOf h).bind (yields_pure _), rfl⟩

/-- Why settings and their connection cannot be loaded. -/
inductive Unloadable (t : FileTree) (root : PathName) (env : Environment) : Prop where
  | path (h : Config.PathTooLong t root)
  | nesting (h : Config.TooDeep t root)
  | connection (h : Block.isUsable (connectionValue (Config.members t root)) = false)
  | timeout (h : (timeoutValue env (Config.members t root)).isInfinite = true)
  | attempts (h : (attemptsValue (Config.members t root)).isInfinite = true)
  | port (block : Block) (h : Block.ofJson (connectionValue (Config.members t root)) = .ok block)
      (infinite : (portValue env block).isInfinite = true)

theorem yields_context_of_unloadable (h : Unloadable t root env) :
    ∃ f, Yields (context t root env) (.error f) := by
  -- The first reason in the order of loading is the one that counts, whichever `h` gives.
  by_cases tooLong : Config.PathTooLong t root
  · obtain ⟨f, failed⟩ := Config.yields_load_of_pathTooLong tooLong
    exact ⟨f, Yields.bind_error (Yields.bind_error failed)⟩
  by_cases tooDeep : Config.TooDeep t root
  · obtain ⟨f, failed⟩ := Config.yields_load_of_tooDeep tooLong tooDeep
    exact ⟨f, Yields.bind_error (Yields.bind_error failed)⟩
  have file := Config.yields_load tooLong tooDeep
  cases taken : Block.ofJson (connectionValue (Config.members t root)) with
  | error f =>
      have failed : Yields (load t root env) (.error f) :=
        file.bind (Yields.bind_error (taken ▸ yields_ofExcept _))
      exact ⟨f, failed.bind_error⟩
  | ok block =>
      by_cases infinite : (timeoutValue env (Config.members t root)).isInfinite = true ∨
          (attemptsValue (Config.members t root)).isInfinite = true
      · obtain ⟨f, failed⟩ := yields_load_of_infinite file taken infinite
        exact ⟨f, failed.bind_error⟩
      rw [not_or, Bool.not_eq_true, Bool.not_eq_true] at infinite
      obtain ⟨s, loaded, _, _, overrides⟩ := yields_load_of_finite file taken infinite.1 infinite.2
      -- Nothing is left but the port.
      have port : (portValue env block).isInfinite = true := by
        cases h with
        | path h => exact absurd h tooLong
        | nesting h => exact absurd h tooDeep
        | connection h =>
            have usable := (Block.exists_ofJson_iff _).mp ⟨block, taken⟩
            simp [h] at usable
        | timeout h => simp [infinite.1] at h
        | attempts h => simp [infinite.2] at h
        | port other h infinitePort =>
            cases taken.symm.trans h
            exact infinitePort
      obtain ⟨f, failed⟩ := yields_connectionOf_of_infinite port
      rw [← overrides] at failed
      exact ⟨f, loaded.bind failed.bind_error⟩

theorem yields_context_of_loadable (h : ¬ Unloadable t root env) :
    let data := Config.members t root
    ∃ s c block, Yields (context t root env) (.ok (s, c)) ∧
      Block.ofJson (connectionValue data) = .ok block ∧
      s.requestTimeoutMs = (timeoutValue env data).toInteger.toOption.getD 500 ∧
      s.maxAttempts = (attemptsValue data).toInteger.toOption.getD 2 ∧
      s.connection = connectionVariables.foldl (overrideBy env) block ∧
      c.port = ((portValue env block).toInteger.toOption.map Json.int).getD .null := by
  intro data
  have file := Config.yields_load (fun long => h (.path long)) (fun deep => h (.nesting deep))
  obtain ⟨block, taken⟩ := (Block.exists_ofJson_iff (connectionValue data)).mpr
    (Bool.not_eq_false _ ▸ fun unusable => h (.connection unusable))
  have timeout := Bool.eq_false_iff.mpr fun infinite => h (.timeout infinite)
  have attempts := Bool.eq_false_iff.mpr fun infinite => h (.attempts infinite)
  have port := Bool.eq_false_iff.mpr fun infinite => h (.port block taken infinite)
  obtain ⟨s, loaded, readTimeout, readAttempts, overrides⟩ :=
    yields_load_of_finite file taken timeout attempts
  obtain ⟨c, connected, readPort⟩ := yields_connectionOf port
  have connects := overrides ▸ connected
  exact ⟨s, c, block, loaded.bind (connects.bind (yields_pure (s, c))), taken, readTimeout,
    readAttempts, overrides, readPort⟩

/-- Loading settings and their connection fails exactly if the path of the file is too long
to be asked for, the file is nested too deeply, its connection is neither an object nor a
list of pairs nor false, or the time-out, the number of attempts or the port is infinite.
Otherwise each of the three numbers is read, or its default stands in for it, and each
variable overrides its part of the connection unless it cannot be converted. -/
theorem context_fails_iff (t : FileTree) (root : PathName) (env : Environment) :
    ((∃ f, (context t root env).outcome.1 = .error f) ↔ Unloadable t root env) ∧
    (¬ Unloadable t root env →
      let data := Config.members t root
      ∃ s c block, (context t root env).outcome.1 = .ok (s, c) ∧
        Block.ofJson (connectionValue data) = .ok block ∧
        s.requestTimeoutMs = (timeoutValue env data).toInteger.toOption.getD 500 ∧
        s.maxAttempts = (attemptsValue data).toInteger.toOption.getD 2 ∧
        s.connection = connectionVariables.foldl (overrideBy env) block ∧
        c.port = ((portValue env block).toInteger.toOption.map Json.int).getD .null) := by
  have returns : ¬ Unloadable t root env → _ := yields_context_of_loadable
  refine ⟨⟨fun ⟨f, failed⟩ => ?_, fun h => ?_⟩, fun h => ?_⟩
  · refine Classical.byContradiction fun loadable => ?_
    obtain ⟨s, c, _, loaded, _⟩ := returns loadable
    cases failed.symm.trans loaded.outcome_eq
  · obtain ⟨f, failed⟩ := yields_context_of_unloadable h
    exact ⟨f, failed.outcome_eq⟩
  · obtain ⟨s, c, block, loaded, settings⟩ := returns h
    exact ⟨s, c, block, loaded.outcome_eq, settings⟩

theorem context_fails_iff_soon :
    let config := "\x7b\"request_timeout_ms\": \"soon\", \"max_attempts\": 3.5, " ++
      "\"connection\": [[\"port\", \"http\"], \"ab\"]\x7d"
    let t : FileTree :=
      { entries := [(["ws"], .directory), (["ws", ".ccsnav"], .directory),
          (["ws", ".ccsnav", "config.json"], .file config.toUTF8.toList)] }
    let root : PathName := ⟨"/", ["ws"]⟩
    let env : Environment := [("CCSNAV_PORT", "abc")]
    ¬ Unloadable t root env ∧ ∃ s c, (context t root env).outcome.1 = .ok (s, c) ∧
      s.requestTimeoutMs = 500 ∧ s.maxAttempts = 3 := by
  intro config t root env
  have facts : (t.find (Config.path root).toString).toOption.isSome = true ∧
      ((Config.text? t root).map fun text => (Json.readText text).isOk) = some true ∧
      Block.isUsable (connectionValue (Config.members t root)) = true ∧
      (timeoutValue env (Config.members t root)).isInfinite = false ∧
      (attemptsValue (Config.members t root)).isInfinite = false ∧
      ((Block.ofJson (connectionValue (Config.members t root))).toOption.map
        fun block => (portValue env block).isInfinite) = some false := by
    decide +kernel
  obtain ⟨found, parsed, usable, timeout, attempts, port⟩ := facts
  have loadable : ¬ Unloadable t root env := by
    intro h
    cases h with
    | path h =>
        obtain ⟨message, tooLong⟩ := h
        rw [tooLong] at found
        cases found
    | nesting h =>
        obtain ⟨text, kind, read, deep⟩ := h
        rw [read, Option.map_some, deep] at parsed
        cases parsed
    | connection h => cases usable.symm.trans h
    | timeout h => cases timeout.symm.trans h
    | attempts h => cases attempts.symm.trans h
    | port block h infinite =>
        rw [h] at port
        cases infinite.symm.trans (Option.some.inj port)
  obtain ⟨s, c, _, loaded, _, readTimeout, readAttempts, _, _⟩ :=
    (context_fails_iff t root env).2 loadable
  have numbers : (timeoutValue env (Config.members t root)).toInteger.toOption.getD 500 = 500 ∧
      (attemptsValue (Config.members t root)).toInteger.toOption.getD 2 = 3 := by
    decide +kernel
  exact ⟨loadable, s, c, loaded, readTimeout.trans numbers.1, readAttempts.trans numbers.2⟩

/-- One infinite number is enough to lose all settings. -/
theorem context_infinite_attempts_fails :
    let config := "\x7b\"max_attempts\": Infinity\x7d"
    let t : FileTree :=
      { entries := [(["ws"], .directory), (["ws", ".ccsnav"], .directory),
          (["ws", ".ccsnav", "config.json"], .file config.toUTF8.toList)] }
    ∃ f, (context t ⟨"/", ["ws"]⟩ []).outcome.1 = .error f := by
  intro config t
  have infinite : (attemptsValue (Config.members t ⟨"/", ["ws"]⟩)).isInfinite = true := by
    decide +kernel
  obtain ⟨f, failed⟩ := yields_context_of_unloadable (.attempts infinite)
  exact ⟨f, failed.outcome_eq⟩

end Settings

end RefNav
