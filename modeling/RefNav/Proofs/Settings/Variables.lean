import Mathlib.Data.List.Basic
import RefNav.Proofs.Settings.Load

/-! # Variables that cannot be converted

A variable is ignored if settings are loaded with it as they are without it.  A port that is no
integer is ignored.  A time-out that is no integer is not: it stands in front of the time-out of
the file, which is given up together with it, and the default takes the place of both.
-/

namespace RefNav

open RefNav.Text

/-! ## Environments without a variable -/

namespace Environment

/-- The environment with a variable removed. -/
def without (env : Environment) (name : String) : Environment :=
  env.filter fun p => p.1 ≠ name

variable {env : Environment} {name other : String}

theorem lookup_without (env : Environment) (name other : String) :
    List.lookup other (env.without name) =
      if other = name then none else List.lookup other env := by
  unfold without
  induction env with
  | nil => simp
  | cons p rest ih =>
      by_cases removed : p.1 = name
      · rw [List.filter_cons_of_neg (by simpa using removed), ih]
        split
        · rfl
        · next kept => rw [List.lookup_cons, beq_false_of_ne (by rwa [removed])]
      · rw [List.filter_cons_of_pos (by simpa using removed), List.lookup_cons, List.lookup_cons,
          ih]
        by_cases here : other = p.1
        · simp [here, removed]
        · rw [beq_false_of_ne here]

theorem value?_without_self (env : Environment) (name : String) :
    (env.without name).value? name = none := by
  rw [value?, lookup_without, if_pos rfl]

theorem value?_without_of_ne (h : other ≠ name) :
    (env.without name).value? other = env.value? other := by
  rw [value?, value?, lookup_without, if_neg h]

end Environment

/-! ## Settings without their log -/

namespace Logged

variable {α β : Type} {m : Logged α} {next : α → Logged β}

theorem Yields.andThen {first : Except Fault α} {second : α → Except Fault β} (h : Yields m first)
    (goes_on : ∀ a, Yields (next a) (second a)) : Yields (m >>= next) (first >>= second) := by
  cases first with
  | error f => exact h.bind_error
  | ok a => exact h.bind (goes_on a)

end Logged

namespace Settings

open Logged

/-- The integer that a value gives, or a default; an infinite number gives neither. -/
def integerOf (default : Int) (v : Json) : Except Fault Int :=
  if v.isInfinite then .error (.failure .outOfRange "cannot convert float infinity to integer")
  else .ok (v.toInteger.toOption.getD default)

theorem yields_integerOf (what : String) (default : Int) (v : Json) :
    Yields (integerSetting what default v) (integerOf default v) := by
  unfold integerOf
  split
  · next infinite =>
      unfold integerSetting
      rw [(Json.toInteger_outOfRange_iff v).mpr infinite]
      exact yields_throw _
  · next finite => exact yields_integerSetting (Bool.eq_false_iff.mpr finite) what default

/-- The settings that a configuration and an environment give with a time-out. -/
def settingsOf (env : Environment) (data : Members) (timeout : Except Fault Int) :
    Except Fault Settings := do
  let block ← Block.ofJson (connectionValue data)
  let requestTimeoutMs ← timeout
  let maxAttempts ← integerOf 2 (attemptsValue data)
  return {
    requestTimeoutMs, maxAttempts
    connection := connectionVariables.foldl (overrideBy env) block
    strictSsl := ((Members.get? "strict_ssl" data).getD (.bool true)).isOn
    debugResolver := (valueOf env debugVariable data "debug_resolver" (.bool false)).isOn }

/-- The time-out that a configuration and an environment give. -/
def timeoutOf (env : Environment) (data : Members) : Except Fault Int :=
  integerOf 500 (timeoutValue env data)

variable {t : FileTree} {root : PathName} {env : Environment} {data : Members} {name : String}

/-- What settings consist of. -/
theorem exists_of_settingsOf {timeout : Except Fault Int} {s : Settings}
    (h : settingsOf env data timeout = .ok s) :
    ∃ block, Block.ofJson (connectionValue data) = .ok block ∧
      timeout = .ok s.requestTimeoutMs ∧ integerOf 2 (attemptsValue data) = .ok s.maxAttempts ∧
      s.connection = connectionVariables.foldl (overrideBy env) block ∧
      s.strictSsl = ((Members.get? "strict_ssl" data).getD (.bool true)).isOn ∧
      s.debugResolver = (valueOf env debugVariable data "debug_resolver" (.bool false)).isOn := by
  unfold settingsOf at h
  cases taken : Block.ofJson (connectionValue data) with
  | error f =>
      rw [taken] at h
      cases h
  | ok block =>
      cases timeout with
      | error f =>
          rw [taken] at h
          cases h
      | ok n =>
          cases read : integerOf 2 (attemptsValue data) with
          | error f =>
              rw [taken, read] at h
              cases h
          | ok attempts =>
              rw [taken, read] at h
              cases h
              exact ⟨block, rfl, rfl, rfl, rfl, rfl, rfl⟩

theorem yields_settingsOf {file : Except Fault Members} (read : Yields (Config.load t root) file)
    (env : Environment) :
    Yields (load t root env) (file >>= fun data => settingsOf env data (timeoutOf env data)) := by
  refine read.andThen fun data => (yields_ofExcept _).andThen fun block => ?_
  refine (yields_overrideConnection env connectionVariables block).bind ?_
  refine (yields_integerOf _ 500 _).andThen fun timeout => ?_
  exact (yields_integerOf _ 2 _).andThen fun attempts => yields_pure _

/-- In every environment loading fails with the file, or gives the settings of its members. -/
theorem outcome_load_cases (t : FileTree) (root : PathName) :
    (∃ f, ∀ env, (load t root env).outcome.1 = .error f) ∨
      ∀ env, (load t root env).outcome.1 =
        settingsOf env (Config.members t root) (timeoutOf env (Config.members t root)) := by
  rcases Config.yields_load_cases t root with ⟨f, failed⟩ | read
  · exact .inl ⟨f, fun env => (yields_settingsOf failed env).outcome_eq⟩
  · exact .inr fun env => (yields_settingsOf read env).outcome_eq

/-! ## Settings without a variable -/

/-- A variable that overrides nothing can be removed: what is left to it is the time-out. -/
theorem settingsOf_without (debug : debugVariable ≠ name)
    (unused : ∀ entry ∈ connectionVariables, entry.1 = name → overriding? env entry = none) :
    settingsOf (env.without name) data = settingsOf env data := by
  have overrides : ∀ entry ∈ connectionVariables,
      overriding? (env.without name) entry = overriding? env entry := by
    intro entry among
    by_cases removed : entry.1 = name
    · rw [unused entry among removed, overriding?, removed, Environment.value?_without_self]
      rfl
    · rw [overriding?, overriding?, Environment.value?_without_of_ne removed]
  have connection : ∀ block, connectionVariables.foldl (overrideBy (env.without name)) block =
      connectionVariables.foldl (overrideBy env) block := by
    intro block
    apply List.foldl_ext
    intro acc entry among
    rw [overrideBy, overrideBy, overrides entry among]
  unfold settingsOf valueOf
  simp only [connection, Environment.value?_without_of_ne debug]

/-- A port that is no integer is ignored. -/
theorem settingsOf_without_port {raw : String} (set : env.value? "CCSNAV_PORT" = some raw)
    (unread : (readInteger raw).toOption = none) :
    settingsOf (env.without "CCSNAV_PORT") data = settingsOf env data := by
  refine settingsOf_without (by decide) fun entry among port => ?_
  have integer : ∀ e ∈ connectionVariables, e.1 = "CCSNAV_PORT" → e.2.2 = .integer := by decide
  rw [overriding?, port, set, integer entry among port]
  simp [Conversion.apply, unread]

theorem timeoutOf_without_port (env : Environment) (data : Members) :
    timeoutOf (env.without "CCSNAV_PORT") data = timeoutOf env data := by
  have differ : timeoutVariable ≠ "CCSNAV_PORT" := by decide
  unfold timeoutOf timeoutValue valueOf
  rw [Environment.value?_without_of_ne differ]

/-- The value that a configuration gives for the time-out. -/
def fileTimeout (data : Members) : Json :=
  (Members.get? "request_timeout_ms" data).getD (.int 500)

theorem timeoutOf_without_timeout (env : Environment) (data : Members) :
    timeoutOf (env.without timeoutVariable) data = integerOf 500 (fileTimeout data) := by
  unfold timeoutOf timeoutValue valueOf
  rw [Environment.value?_without_self]
  rfl

/-- A time-out that is no integer is replaced by the default, whatever the file gives. -/
theorem timeoutOf_of_unread {raw : String} (set : env.value? timeoutVariable = some raw)
    (unread : (readInteger raw).toOption = none) : timeoutOf env data = .ok 500 := by
  unfold timeoutOf timeoutValue valueOf
  rw [set]
  cases read : readInteger raw with
  | ok n => simp [read, Except.toOption] at unread
  | error fault => simp [integerOf, Json.isInfinite, Json.toInteger, read, Except.toOption]

/-- Settings with the time-out of a value are settings with the default in which the time-out is
exchanged, if there is one. -/
theorem settingsOf_integerOf (env : Environment) (data : Members) (v : Json) :
    settingsOf env data (integerOf 500 v) =
      settingsOf env data (.ok 500) >>= fun s =>
        (integerOf 500 v).map fun n => { s with requestTimeoutMs := n } := by
  unfold settingsOf
  cases Block.ofJson (connectionValue data) with
  | error f => rfl
  | ok block =>
      -- Both numbers fail in the same way, so that it does not matter which is read first.
      unfold integerOf
      cases v.isInfinite <;> cases (attemptsValue data).isInfinite <;> rfl

theorem requestTimeoutMs_of_settingsOf {n : Int} {s : Settings}
    (h : settingsOf env data (.ok n) = .ok s) : s.requestTimeoutMs = n := by
  obtain ⟨block, -, timeout, -⟩ := exists_of_settingsOf h
  exact (Except.ok.inj timeout).symm

/-- Exchanging the time-out of settings for that of a value changes nothing exactly if the value
gives the time-out that they have. -/
theorem exchange_eq_iff (s : Settings) (v : Json) :
    (integerOf 500 v).map (fun n => { s with requestTimeoutMs := n }) = .ok s ↔
      v.isInfinite = false ∧ v.toInteger.toOption.getD 500 = s.requestTimeoutMs := by
  unfold integerOf
  cases v.isInfinite with
  | true => exact iff_of_false nofun nofun
  | false =>
      obtain ⟨timeout, attempts, ssl, debug, connection⟩ := s
      simp [Except.map]

/-- A port that is no integer is ignored.  A time-out that is no integer is replaced by the
default; without the variable, settings that are loaded have the time-out of the file instead,
or fail if it is infinite, so that they are the same exactly if the file gives the default. -/
theorem load_without_unread (t : FileTree) (root : PathName) (env : Environment) (raw : String)
    (unread : (readInteger raw).toOption = none) :
    (env.value? "CCSNAV_PORT" = some raw →
      (load t root (env.without "CCSNAV_PORT")).outcome.1 = (load t root env).outcome.1) ∧
    (env.value? timeoutVariable = some raw →
      let without := (load t root (env.without timeoutVariable)).outcome.1
      let v := fileTimeout (Config.members t root)
      without = ((load t root env).outcome.1 >>= fun s =>
        (integerOf 500 v).map fun n => { s with requestTimeoutMs := n }) ∧
      ∀ s, (load t root env).outcome.1 = .ok s →
        s.requestTimeoutMs = 500 ∧
        (without = .ok s ↔ v.isInfinite = false ∧ v.toInteger.toOption.getD 500 = 500)) := by
  rcases outcome_load_cases t root with ⟨f, failed⟩ | loaded
  · refine ⟨fun _ => (failed _).trans (failed env).symm, fun _ => ?_⟩
    rw [failed env]
    exact ⟨failed _, nofun⟩
  · constructor
    · intro set
      rw [loaded, loaded, settingsOf_without_port set unread, timeoutOf_without_port]
    · intro set without v
      have unused : ∀ entry ∈ connectionVariables, entry.1 ≠ timeoutVariable := by decide
      have exchanged : without = ((load t root env).outcome.1 >>= fun s =>
          (integerOf 500 v).map fun n => { s with requestTimeoutMs := n }) := by
        have same : settingsOf (env.without timeoutVariable) (Config.members t root) = _ :=
          settingsOf_without (by decide) fun entry among removed =>
            absurd removed (unused entry among)
        rw [loaded, timeoutOf_of_unread set unread, ← settingsOf_integerOf, ← same,
          ← timeoutOf_without_timeout env]
        exact loaded _
      refine ⟨exchanged, fun s found => ?_⟩
      have default : s.requestTimeoutMs = 500 := by
        rw [loaded, timeoutOf_of_unread set unread] at found
        exact requestTimeoutMs_of_settingsOf found
      have unchanged := exchange_eq_iff s v
      rw [default] at unchanged
      rw [exchanged, found]
      exact ⟨default, unchanged⟩

/-- Both variables are ignored where the file spells out the default. -/
theorem load_without_unread_soon :
    let config := "\x7b\"request_timeout_ms\": \" 5_00\", \"connection\": [[\"port\", 1]]\x7d"
    let t : FileTree :=
      { entries := [(["ws"], .directory), (["ws", ".ccsnav"], .directory),
          (["ws", ".ccsnav", "config.json"], .file config.toUTF8.toList)] }
    let root : PathName := ⟨"/", ["ws"]⟩
    let env : Environment := [("CCSNAV_PORT", "soon"), ("CCSNAV_TIMEOUT_MS", "soon")]
    (readInteger "soon").toOption = none ∧
      ∃ s, (load t root env).outcome.1 = .ok s ∧
        (load t root (env.without "CCSNAV_PORT")).outcome.1 = .ok s ∧
        (load t root (env.without timeoutVariable)).outcome.1 = .ok s := by
  intro config t root env
  have unread : (readInteger "soon").toOption = none := by decide +kernel
  have read : (load t root env).outcome.1.toOption.isSome = true := by decide +kernel
  have file : (fileTimeout (Config.members t root)).isInfinite = false ∧
      (fileTimeout (Config.members t root)).toInteger.toOption.getD 500 = 500 := by
    decide +kernel
  obtain ⟨s, some_settings⟩ := Option.isSome_iff_exists.mp read
  have loaded := eq_ok_of_toOption some_settings
  obtain ⟨port, timeout⟩ := load_without_unread t root env "soon" unread
  obtain ⟨-, exchanged⟩ := timeout (by decide)
  exact ⟨unread, s, loaded, (port (by decide)).trans loaded, (exchanged s loaded).2.mpr file⟩

/-- The time-out of the file is lost to a variable that is no integer. -/
theorem load_unread_timeout_hides_file :
    let config := "\x7b\"request_timeout_ms\": 900\x7d"
    let t : FileTree :=
      { entries := [(["ws"], .directory), (["ws", ".ccsnav"], .directory),
          (["ws", ".ccsnav", "config.json"], .file config.toUTF8.toList)] }
    let root : PathName := ⟨"/", ["ws"]⟩
    let env : Environment := [("CCSNAV_TIMEOUT_MS", "soon")]
    (readInteger "soon").toOption = none ∧
      (load t root env).outcome.1.toOption.map requestTimeoutMs = some 500 ∧
      (load t root (env.without timeoutVariable)).outcome.1.toOption.map requestTimeoutMs =
        some 900 := by
  decide +kernel

end Settings

end RefNav
