import RefNav.Proofs.Settings.Variables

/-! # Variables over the file

Each variable of the environment overrides one setting, and nothing else.  A connection setting
has the value of its variable, if that can be converted, and otherwise the value of the file; the
settings without a variable are those of the file.
-/

namespace RefNav

/-! ## Settings that no variable overrides -/

namespace Block

/-- Is the key one that a variable overrides? -/
def isOverridable (key : Json) : Bool :=
  connectionVariables.any fun entry => sameKey key (.str entry.2.1)

/-- The settings that no variable overrides, in their order. -/
def untouched (block : Block) : Block :=
  block.filter fun p => !isOverridable p.1

theorem untouched_set {key : String} (h : isOverridable (.str key) = true) (value : Json)
    (block : Block) : untouched (set (.str key) value block) = untouched block := by
  induction block with
  | nil => simp [set, untouched, h]
  | cons p rest ih =>
      unfold untouched at ih ⊢
      by_cases same : p.1 = .str key
      · simp [set, sameKey_str_iff, same, h]
      · simp [set, sameKey_str_iff, same, List.filter_cons, ih]

end Block

namespace Settings

theorem untouched_foldl_overrideBy (env : Environment)
    {entries : List (String × String × Conversion)} (known : entries ⊆ connectionVariables)
    (block : Block) :
    (entries.foldl (overrideBy env) block).untouched = block.untouched := by
  induction entries generalizing block with
  | nil => rfl
  | cons entry rest ih =>
      obtain ⟨here, later⟩ := List.cons_subset.mp known
      have overridable : Block.isOverridable (.str entry.2.1) = true :=
        List.any_eq_true.mpr ⟨entry, here, (Block.sameKey_str_iff _ _).mpr rfl⟩
      rw [List.foldl_cons, ih later, overrideBy]
      split
      · exact Block.untouched_set overridable _ block
      · rfl

/-! ## Settings that a variable overrides -/

theorem get?_foldl_overrideBy_of_not_mem (env : Environment) {key : String}
    {entries : List (String × String × Conversion)} (other : key ∉ entries.map (·.2.1))
    (block : Block) :
    Block.get? key (entries.foldl (overrideBy env) block) = Block.get? key block := by
  induction entries generalizing block with
  | nil => rfl
  | cons entry rest ih =>
      rw [List.map_cons, List.mem_cons, not_or] at other
      rw [List.foldl_cons, ih other.2, get?_overrideBy, if_neg (Ne.symm other.1)]

/-- Where every key has one variable, the variable decides about the key. -/
theorem get?_foldl_overrideBy (env : Environment) {entry : String × String × Conversion}
    {entries : List (String × String × Conversion)} (distinct : (entries.map (·.2.1)).Nodup)
    (known : entry ∈ entries) (block : Block) :
    Block.get? entry.2.1 (entries.foldl (overrideBy env) block) =
      (overriding? env entry).or (Block.get? entry.2.1 block) := by
  induction entries generalizing block with
  | nil => cases known
  | cons first rest ih =>
      rw [List.map_cons, List.nodup_cons] at distinct
      rw [List.foldl_cons]
      rcases List.mem_cons.mp known with rfl | later
      · rw [get?_foldl_overrideBy_of_not_mem env distinct.1, get?_overrideBy, if_pos rfl]
      · have differs : first.2.1 ≠ entry.2.1 := fun same =>
          distinct.1 (same ▸ List.mem_map_of_mem later)
        rw [ih distinct.2 later, get?_overrideBy, if_neg differs]

theorem get?_overridden (env : Environment) {entry : String × String × Conversion}
    (known : entry ∈ connectionVariables) (block : Block) :
    Block.get? entry.2.1 (connectionVariables.foldl (overrideBy env) block) =
      (overriding? env entry).or (Block.get? entry.2.1 block) :=
  get?_foldl_overrideBy env (by decide) known block

end Settings

/-! ## Changing one variable -/

/-- The environments are the same but for one variable. -/
def Environment.SameBut (name : String) (env env' : Environment) : Prop :=
  ∀ other, other ≠ name → List.lookup other env' = List.lookup other env

theorem Environment.SameBut.value?_eq {name other : String} {env env' : Environment}
    (h : env.SameBut name env') (differs : other ≠ name) :
    env'.value? other = env.value? other := by
  rw [value?, value?, h other differs]

namespace Settings

/-- The settings are the same but for the one that a variable overrides. -/
structure SameBut (name : String) (s s' : Settings) : Prop where
  requestTimeoutMs : name ≠ timeoutVariable → s'.requestTimeoutMs = s.requestTimeoutMs
  maxAttempts : s'.maxAttempts = s.maxAttempts
  strictSsl : s'.strictSsl = s.strictSsl
  debugResolver : name ≠ debugVariable → s'.debugResolver = s.debugResolver
  connection : ∀ entry ∈ connectionVariables, entry.1 ≠ name →
    Block.get? entry.2.1 s'.connection = Block.get? entry.2.1 s.connection
  untouched : s'.connection.untouched = s.connection.untouched

variable {t : FileTree} {root : PathName} {env env' : Environment} {data : Members}
  {timeout : Except Fault Int} {s s' : Settings} {name : String}

theorem timeoutOf_congr (h : env.SameBut name env') (differs : name ≠ timeoutVariable) :
    timeoutOf env' data = timeoutOf env data := by
  unfold timeoutOf timeoutValue valueOf
  rw [h.value?_eq (Ne.symm differs)]

/-- Only the variable of the time-out can make a difference to whether there are settings. -/
theorem exists_settingsOf (h : settingsOf env data timeout = .ok s) (env' : Environment) :
    ∃ s', settingsOf env' data timeout = .ok s' := by
  obtain ⟨block, taken, rfl, attempts, -⟩ := exists_of_settingsOf h
  unfold settingsOf
  rw [taken, attempts]
  exact ⟨_, rfl⟩

theorem sameBut_of_settingsOf (h : settingsOf env data (timeoutOf env data) = .ok s)
    (h' : settingsOf env' data (timeoutOf env' data) = .ok s') (envs : env.SameBut name env') :
    SameBut name s s' := by
  obtain ⟨block, taken, timeout, attempts, connection, ssl, debug⟩ := exists_of_settingsOf h
  obtain ⟨block', taken', timeout', attempts', connection', ssl', debug'⟩ :=
    exists_of_settingsOf h'
  cases taken.symm.trans taken'
  exact {
    requestTimeoutMs := fun differs => by
      rw [timeoutOf_congr envs differs, timeout] at timeout'
      exact (Except.ok.inj timeout').symm
    maxAttempts := Except.ok.inj (attempts'.symm.trans attempts)
    strictSsl := ssl'.trans ssl.symm
    debugResolver := fun differs => by
      rw [debug', debug, valueOf, valueOf, envs.value?_eq (Ne.symm differs)]
    connection := fun entry known differs => by
      rw [connection', connection, get?_overridden env' known, get?_overridden env known,
        overriding?, overriding?, envs.value?_eq differs]
    untouched := by
      rw [connection', connection, untouched_foldl_overrideBy env' (List.Subset.refl _),
        untouched_foldl_overrideBy env (List.Subset.refl _)] }

theorem integerOf_eq_ok {default n : Int} {v : Json} (h : integerOf default v = .ok n) :
    n = v.toInteger.toOption.getD default := by
  unfold integerOf at h
  split at h
  · cases h
  · exact (Except.ok.inj h).symm

/-- Settings that are loaded come from the file but for the variables that override them.  Each
connection setting with a variable has the converted value of the variable, if that is set and can
be converted, and otherwise the value of the file; all other connection settings, the number of
attempts and the checking of certificates are those of the file.  Changing one variable changes
no other setting, and unless it is that of the time-out, settings are loaded all the same. -/
theorem load_overrides (t : FileTree) (root : PathName) (env : Environment) (s : Settings)
    (loaded : (load t root env).outcome.1 = .ok s) :
    ∃ data block, (Config.load t root).outcome.1 = .ok data ∧
      Block.ofJson (connectionValue data) = .ok block ∧
      (∀ name key conversion, (name, key, conversion) ∈ connectionVariables →
        Block.get? key s.connection =
          ((env.value? name).bind conversion.apply).or (Block.get? key block)) ∧
      s.connection.untouched = block.untouched ∧
      s.maxAttempts = (attemptsValue data).toInteger.toOption.getD 2 ∧
      s.strictSsl = ((Members.get? "strict_ssl" data).getD (.bool true)).isOn ∧
      ∀ name env', env.SameBut name env' →
        (name ≠ timeoutVariable → ∃ s', (load t root env').outcome.1 = .ok s') ∧
        ∀ s', (load t root env').outcome.1 = .ok s' → SameBut name s s' := by
  rcases Config.yields_load_cases t root with ⟨f, failed⟩ | read
  · rw [(yields_settingsOf failed env).outcome_eq] at loaded
    cases loaded
  · have comes (env : Environment) : (load t root env).outcome.1 =
        settingsOf env (Config.members t root) (timeoutOf env (Config.members t root)) :=
      (yields_settingsOf read env).outcome_eq
    rw [comes] at loaded
    obtain ⟨block, taken, -, attempts, connection, ssl, -⟩ := exists_of_settingsOf loaded
    refine ⟨Config.members t root, block, read.outcome_eq, taken, ?_, ?_, integerOf_eq_ok attempts,
      ssl, ?_⟩
    · intro name key conversion known
      rw [connection]
      exact get?_overridden env known block
    · rw [connection]
      exact untouched_foldl_overrideBy env (List.Subset.refl _) block
    · intro name env' envs
      simp only [comes]
      refine ⟨fun differs => ?_, fun s' loaded' => sameBut_of_settingsOf loaded loaded' envs⟩
      rw [timeoutOf_congr envs differs]
      exact exists_settingsOf loaded env'

/-- The host is overridden, the port cannot be, and a variable that is empty overrides nothing. -/
theorem load_overrides_host :
    let config := "\x7b\"connection\": [[\"host\", \"a\"], [\"port\", 1], [null, 2]], " ++
      "\"max_attempts\": \"3\"\x7d"
    let t : FileTree :=
      { entries := [(["ws"], .directory), (["ws", ".ccsnav"], .directory),
          (["ws", ".ccsnav", "config.json"], .file config.toUTF8.toList)] }
    let root : PathName := ⟨"/", ["ws"]⟩
    let env : Environment :=
      [("CCSNAV_HOST", "b"), ("CCSNAV_PORT", "http"), ("CCSNAV_NAMESPACE", "")]
    ∃ s data block, (load t root env).outcome.1 = .ok s ∧
      (Config.load t root).outcome.1 = .ok data ∧
      Block.ofJson (connectionValue data) = .ok block ∧
      Block.get? "host" s.connection = some (.str "b") ∧
      Block.get? "port" s.connection = Block.get? "port" block ∧
      Block.get? "namespace" s.connection = Block.get? "namespace" block ∧
      s.connection.untouched = block.untouched ∧
      ∃ s', (load t root (env.without "CCSNAV_HOST")).outcome.1 = .ok s' ∧
        SameBut "CCSNAV_HOST" s s' := by
  intro config t root env
  have read : (load t root env).outcome.1.toOption.isSome = true := by decide +kernel
  obtain ⟨s, some_settings⟩ := Option.isSome_iff_exists.mp read
  have loaded := eq_ok_of_toOption some_settings
  obtain ⟨data, block, file, taken, keys, untouched, -, -, change⟩ :=
    load_overrides t root env s loaded
  have host := keys "CCSNAV_HOST" "host" .text (by decide)
  have port := keys "CCSNAV_PORT" "port" .integer (by decide)
  have envs : env.SameBut "CCSNAV_HOST" (env.without "CCSNAV_HOST") := fun other differs => by
    rw [Environment.lookup_without, if_neg differs]
  obtain ⟨s', loaded'⟩ := (change "CCSNAV_HOST" _ envs).1 (by decide)
  exact ⟨s, data, block, loaded, file, taken, host, port,
    keys "CCSNAV_NAMESPACE" "namespace" .text (by decide), untouched, s', loaded',
    (change "CCSNAV_HOST" _ envs).2 s' loaded'⟩

end Settings

end RefNav
