import RefNav.Proofs.CommandLine.Blotted
import RefNav.Proofs.Settings.BlottedWrite

/-! # The configuration command and the password

Two runs of the configuration command that are the same but for passwords print the same and
end in the same way, wherever the passwords come from and whether settings are saved or shown.
-/

namespace RefNav

open CommandLine Text

theorem Alike.ofLogged {α β : Type} {related : α → β → Prop} {m : Logged α} {n : Logged β}
    (h : Alike related m n) : Alike related (Act.ofLogged m) (Act.ofLogged n) := by
  obtain ⟨outcome, log⟩ := h []
  unfold Act.ofLogged Logged.outcome
  generalize (ExceptT.run m).run [] = done, (ExceptT.run n).run [] = done' at outcome log
  obtain ⟨o, records⟩ := done
  obtain ⟨o', records'⟩ := done'
  obtain rfl : records = records' := log
  exact (Alike.refl _).bind fun _ _ _ => Alike.ofOutcome outcome

/-! ## Settings given on the command line -/

/-- Settings given on the command line that are the same but for a password. -/
inductive ConfigChange.Like : ConfigChange → ConfigChange → Prop where
  | refl (c : ConfigChange) : Like c c
  | password (c : ConfigChange) {s s' : String} : s ≠ "" → s' ≠ "" →
      Like { c with password := some s } { c with password := some s' }

namespace ConfigChange

variable {c c' : ConfigChange}

theorem like_changeOf {b b' : Bindings} (h : b.Like b') :
    Like (Program.changeOf b) (Program.changeOf b') := by
  have others : Program.changeOf b =
      { Program.changeOf b' with password := b.text? "password" } := by
    simp [Program.changeOf, Bindings.text?, Bindings.number?, Bindings.switch?, h.lookup]
  have passwords := h.password
  cases given : b.text? "password" with
  | none =>
      rw [given, Option.map_none, eq_comm, Option.map_eq_none_iff] at passwords
      have same : Program.changeOf b = Program.changeOf b' := by
        rw [others, given, ← passwords]
        rfl
      rw [same]
      exact .refl _
  | some s =>
      rw [given, Option.map_some, eq_comm, Option.map_eq_some_iff] at passwords
      obtain ⟨s', given', same⟩ := passwords
      have same' : Program.changeOf b' = { Program.changeOf b' with password := some s' } := by
        rw [← given']
        rfl
      rw [others, given, same']
      rcases blot_cases same with rfl | ⟨nonempty', nonempty⟩
      · exact .refl _
      · exact .password _ nonempty nonempty'

/-- The connection settings in front of the password. -/
def beforePassword (c : ConfigChange) : Members :=
  member "host" (c.host.map .str) ++ member "port" (c.port.map .int)
    ++ member "namespace" (c.namespaceName.map .str) ++ member "username" (c.username.map .str)

/-- The connection settings behind the password. -/
def behindPassword (c : ConfigChange) : Members :=
  member "https" (c.https.map .bool) ++ member "path_prefix" (c.pathPrefix.map .str)

theorem connection_of_password (c : ConfigChange) (s : String) :
    { c with password := some s }.connection =
      c.beforePassword ++ ("password", .str s) :: c.behindPassword := by
  simp only [connection, beforePassword, behindPassword, List.append_assoc]
  rfl

theorem fst_of_mem_member {p : String × Json} {key : String} {value : Option Json}
    (h : p ∈ member key value) : p.1 = key := by
  cases value with
  | none => cases h
  | some v =>
      rw [List.mem_singleton.mp h]

theorem ne_password_of_mem_beforePassword {p : String × Json} (h : p ∈ c.beforePassword) :
    p.1 ≠ "password" := by
  simp only [beforePassword, List.mem_append, or_assoc] at h
  rcases h with h | h | h | h <;> rw [fst_of_mem_member h] <;> decide

theorem ne_connection_of_mem_others {p : String × Json} (h : p ∈ c.others) :
    p.1 ≠ "connection" := by
  simp only [others, List.mem_append, or_assoc] at h
  rcases h with h | h | h <;> rw [fst_of_mem_member h] <;> decide

/-- The password stands behind settings that are not it. -/
theorem ofMembers_connection (c : ConfigChange) (s : String) :
    Block.ofMembers { c with password := some s }.connection = Block.set (.str "password") (.str s)
      (Block.ofMembers (c.beforePassword ++ ("password", .null) :: c.behindPassword)) := by
  have absent : "password" ∉ c.beforePassword.keys := by
    intro found
    obtain ⟨p, before, same⟩ := List.mem_map.mp found
    exact ne_password_of_mem_beforePassword before same
  rw [connection_of_password, Block.set_ofMembers, Members.set_append absent]
  simp [Members.set]

namespace Like

theorem others_eq (h : Like c c') : c.others = c'.others := by
  cases h <;> rfl

theorem isEmpty_connection (h : Like c c') : c.connection.isEmpty = c'.connection.isEmpty := by
  cases h with
  | refl => rfl
  | password c _ _ =>
      rw [connection_of_password, connection_of_password]
      cases c.beforePassword <;> rfl

theorem isEmpty_written (h : Like c c') : c.written.isEmpty = c'.written.isEmpty := by
  unfold written updates
  rw [h.isEmpty_connection, h.others_eq]
  split <;> rfl

theorem block (h : Like c c') :
    Block.Like (Block.ofMembers c.connection) (Block.ofMembers c'.connection) := by
  cases h with
  | refl => exact .refl _
  | password c nonempty nonempty' =>
      rw [ofMembers_connection, ofMembers_connection]
      apply (Block.Like.refl _).set_password
      rw [Json.blotted, Json.blotted, blot_of_ne_empty nonempty, blot_of_ne_empty nonempty']

/-- What is shown of the settings does not tell the password. -/
theorem shown_eq (h : Like c c') : c.shown = c'.shown := by
  unfold shown updates
  rw [h.isEmpty_connection, h.others_eq, h.block.masked]

/-- Whether the settings can be merged and written does not tell the password. -/
theorem sameOutcome_update (h : Like c c') {data data' : Members}
    (config : Config.Like data data') :
    SameOutcome Config.Matched (Config.update data c.written)
      (Config.update data' c'.written) := by
  have others : ∀ p ∈ c'.others, p.1 ≠ "connection" := fun _ => ne_connection_of_mem_others
  unfold written updates
  rw [h.isEmpty_connection, h.others_eq]
  split
  · rw [List.nil_append]
    exact Config.sameOutcome_update_others others config.matched
  · exact Config.sameOutcome_update config h.block others

end Like

end ConfigChange

namespace Invocation

variable {i : Invocation} {t : FileTree} {env : Environment}

theorem alike_showConfig (trees : i.tree.Like t) (envs : i.environment.Like env) :
    Alike Eq i.showConfig { i with tree := t, environment := env }.showConfig := by
  have loaded := Config.alike_load trees
  unfold showConfig projectRoot
  rw [trees.projectRoot_eq]
  refine (Alike.refl _).bind fun root root' same => ?_
  subst same
  refine (loaded root).ofLogged.bind fun current current' config => ?_
  refine (Settings.alike_load envs (loaded root)).ofLogged.bind fun settings settings' alike => ?_
  refine (Settings.alike_connectionOf alike.connection).ofLogged.bind fun c c' ready => ?_
  -- From here on only masked settings are printed.
  have listed : inForce settings = inForce settings' := by
    simp only [inForce, alike.requestTimeoutMs, alike.maxAttempts, alike.strictSsl,
      alike.debugResolver]
  simp only [answerConfig, listed, alike.connection.masked, config.isEmpty, ready]
  exact .refl _

variable {c c' : ConfigChange}

theorem saveConfig_eq (trees : i.tree.Like t) (change : c.Like c') :
    (i.saveConfig c).1 = ({ i with tree := t, environment := env }.saveConfig c').1 := by
  unfold saveConfig projectRoot
  rw [trees.projectRoot_eq]
  cases t.projectRoot (.ofString ".") with
  | error f => rfl
  | ok root =>
      have saved : (Config.write i.tree (PathName.ofPlace root) c.written).1 =
          (Config.write t (PathName.ofPlace root) c'.written).1 :=
        Config.write_eq trees _ fun _ _ => change.sameOutcome_update
      simp only [Except.map, saved, change.shown_eq]
      rfl

/-- The configuration command does the same, but for what it leaves in the files. -/
theorem configure_eq (trees : i.tree.Like t) (envs : i.environment.Like env)
    (change : c.Like c') (showOnly : Bool) :
    (i.configure c showOnly).1 =
      ({ i with tree := t, environment := env }.configure c' showOnly).1 := by
  unfold configure
  rw [change.isEmpty_written]
  split
  · exact saveConfig_eq trees change
  · exact (alike_showConfig trees envs).eq

end Invocation

namespace CommandLine

/-- Runs that are the same but for what they leave in the files. -/
structure Output.Same (o o' : Output) : Prop where
  exitCode : o.exitCode = o'.exitCode
  stdout : o.stdout = o'.stdout
  stderr : o.stderr = o'.stderr
  escaped : o.escaped = o'.escaped
  requests : o.requests = o'.requests
  pauses : o.pauses = o'.pauses

theorem Output.same_of_tree (o : Output) (t : FileTree) : o.Same { o with tree := t } :=
  ⟨rfl, rfl, rfl, rfl, rfl, rfl⟩

namespace Program

variable {p : Program} {t : FileTree} {env : Environment}

theorem same_perform (trees : p.tree.Like t) (envs : p.environment.Like env) {b b' : Bindings}
    (like : b.Like b') (json verbose : Bool) :
    (p.perform .config json verbose b).Same
      ({ p with tree := t, environment := env }.perform .config json verbose b') := by
  have isOn : b.switch? "show" = b'.switch? "show" := by
    rw [Bindings.switch?, Bindings.switch?, like.lookup (by decide)]
  have acts := Invocation.configure_eq
    (i := { tree := p.tree, environment := p.environment, timestamp := p.timestamp, json })
    trees envs (ConfigChange.like_changeOf like) ((b'.switch? "show").getD false)
  unfold perform command
  simp only [isOn, acts]
  exact Output.same_of_tree _ _

theorem same_runCommand (trees : p.tree.Like t) (envs : p.environment.Like env)
    {words words' : List String} (like : blottedWords words = blottedWords words')
    (json verbose : Bool) :
    (p.runCommand .config json verbose words).Same
      ({ p with tree := t, environment := env }.runCommand .config json verbose words') := by
  have scans := sameOutcome_scan like
  unfold configGrammar at scans
  unfold runCommand
  generalize CommandName.config.grammar.scan words = o,
    CommandName.config.grammar.scan words' = o' at scans
  cases scans with
  | error m => exact Output.same_of_tree _ _
  | @ok s s' alike =>
      have asked : information? CommandName.config.help s.given =
          information? CommandName.config.help s'.given := by
        have given : s.given.map blottedSetting = s'.given.map blottedSetting :=
          congrArg Scan.given alike
        rw [← information?_map_blottedSetting, given, information?_map_blottedSetting]
      have bound := sameOutcome_grammar_bind trees CommandName.config.grammar alike
      dsimp only
      rw [asked]
      split
      · exact Output.same_of_tree _ _
      · generalize CommandName.config.grammar.bind p.tree s = o,
          CommandName.config.grammar.bind t s' = o' at bound
        cases bound with
        | error r => cases r <;> exact Output.same_of_tree _ _
        | ok values => exact same_perform trees envs values json verbose

/-- The configuration command never prints the password: two runs with the same options of the
program, on files, in environments and with words that are the same but for passwords, print
the same and end in the same way. -/
theorem config_hides_password {globals : List String} {given : List (OptionRule × Setting)}
    (options : programGrammar.scan globals = .ok { given })
    (trees : p.tree.Like t) (envs : p.environment.Like env)
    {words words' : List String} (like : blottedWords words = blottedWords words') :
    (p.run (globals ++ "config" :: words)).Same
      ({ p with tree := t, environment := env }.run (globals ++ "config" :: words')) := by
  have scans (rest : List String) := scan_append_operand rfl options
    (by decide : ¬ Grammar.isOptionWord "config" = true) (by decide) rest
  have nonempty (rest : List String) : (globals ++ "config" :: rest).isEmpty = false := by
    cases globals <;> rfl
  unfold run
  rw [nonempty, nonempty, scans, scans]
  dsimp only
  cases information? programHelp given with
  | some text => exact Output.same_of_tree _ _
  | none => exact same_runCommand trees envs like _ _

/-- A project and an environment, each with a password for the connection. -/
def lockedProgram (stored exported : String) : Program :=
  { tree :=
      ({ entries := [(["ws"], .directory), (["ws", ".ccsnav"], .directory)]
         current := ["ws"] } : FileTree).put ["ws", ".ccsnav", "config.json"]
        (.file (Utf8.encode (Json.obj
          [("connection", .obj [("host", .str "h"), ("password", .str stored)])]).pretty.toList))
    environment := [("CCSNAV_USERNAME", "dev"), ("CCSNAV_PASSWORD", exported)]
    timestamp := "2024-01-01T00:00:00+00:00"
    server := Server.ofReplies [] [] }

theorem config_hides_password_everywhere :
    let p := lockedProgram "alpha" "beta"
    let p' := lockedProgram "delta" "epsilon"
    (p.run (["--json"] ++ "config" :: ["--port=1", "--password", "gamma"])).Same
      (p'.run (["--json"] ++ "config" :: ["--port=1", "--password", "zeta"])) ∧
    (p.run ([] ++ "config" :: ["--show", "--password=gamma"])).Same
      (p'.run ([] ++ "config" :: ["--show", "--password=zeta"])) := by
  intro p p'
  have storable (stored : String) : Config.Storable
      [("connection", .obj [("host", .str "h"), ("password", .str stored)])] := by
    constructor
    · refine .obj (by decide) (by simp [Members.Distinct, Members.keys])
        (List.forall_mem_singleton.mpr ?_)
      refine .obj (by decide) (by simp [Members.Distinct, Members.keys])
        (List.forall_mem_cons.mpr ⟨.str _, ?_⟩)
      exact List.forall_mem_singleton.mpr (.str _)
    · refine .obj (List.forall_mem_singleton.mpr (.obj (List.forall_mem_cons.mpr ⟨.str _, ?_⟩)))
      exact List.forall_mem_singleton.mpr (.str _)
  have trees : p.tree.Like p'.tree := by
    refine (FileTree.Like.refl _).put _ ?_
    exact .config (Config.ofBytes?_pretty (storable _)) (Config.ofBytes?_pretty (storable _)) rfl
  have envs : p.environment.Like p'.environment := by
    constructor
    · intro name other
      have unnamed : (name == "CCSNAV_PASSWORD") = false := beq_eq_false_iff_ne.mpr other
      simp [p, p', lockedProgram, Environment.value?, List.lookup_cons, unnamed]
    · decide
  have json : programGrammar.scan ["--json"] =
      .ok { given := [(switch "--json" "json" true, .on)] } := rfl
  exact ⟨config_hides_password json trees envs (by decide +kernel),
    config_hides_password rfl trees envs (by decide +kernel)⟩

end Program

end CommandLine

end RefNav
