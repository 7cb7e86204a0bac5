import RefNav.Proofs.Settings.Combine
import RefNav.Proofs.Settings.Load

/-! # Settings with the password blotted out

Settings are alike if they are the same once a password that is a text, and not the empty
one, is blotted out.  Reading, merging and overriding make alike settings of alike settings,
with the same warnings and the same failures, and masked they are the same.
-/

namespace RefNav

open RefNav.Text

/-! ## Computations that come to alike results -/

/-- Both succeed, with related results, or both fail in the same way. -/
inductive SameOutcome {ε α β : Type} (related : α → β → Prop) : Except ε α → Except ε β → Prop where
  | ok {a : α} {b : β} : related a b → SameOutcome related (.ok a) (.ok b)
  | error (e : ε) : SameOutcome related (.error e) (.error e)

namespace SameOutcome

variable {ε α β : Type}

theorem eq {o o' : Except ε α} (h : SameOutcome Eq o o') : o = o' := by
  cases h with
  | ok same => rw [same]
  | error e => rfl

theorem refl {related : α → α → Prop} (self : ∀ a, related a a) (o : Except ε α) :
    SameOutcome related o o := by
  cases o with
  | ok a => exact .ok (self a)
  | error e => exact .error e

theorem mono {related weaker : α → β → Prop} {o : Except ε α} {o' : Except ε β}
    (h : SameOutcome related o o') (weaken : ∀ a b, related a b → weaker a b) :
    SameOutcome weaker o o' := by
  cases h with
  | ok same => exact .ok (weaken _ _ same)
  | error e => exact .error e

variable {view : α → β} {o o' o'' : Except ε α}

theorem symm (h : SameOutcome (fun a b => view a = view b) o o') :
    SameOutcome (fun a b => view a = view b) o' o := by
  cases h with
  | ok same => exact .ok same.symm
  | error e => exact .error e

theorem trans (h : SameOutcome (fun a b => view a = view b) o o')
    (h' : SameOutcome (fun a b => view a = view b) o' o'') :
    SameOutcome (fun a b => view a = view b) o o'' := by
  cases h with
  | ok same =>
      cases h' with
      | ok same' => exact .ok (same.trans same')
  | error e => exact h'

end SameOutcome

/-- From the same state both computations come to the same state, and to outcomes with related
results. -/
def Alike {σ α β : Type} (related : α → β → Prop) (m : ExceptT Fault (StateM σ) α)
    (n : ExceptT Fault (StateM σ) β) : Prop :=
  ∀ s, SameOutcome related ((ExceptT.run m).run s).1 ((ExceptT.run n).run s).1 ∧
    ((ExceptT.run m).run s).2 = ((ExceptT.run n).run s).2

namespace Alike

variable {σ α β γ δ : Type} {related : α → β → Prop} {related' : γ → δ → Prop}
  {m : ExceptT Fault (StateM σ) α} {n : ExceptT Fault (StateM σ) β}
  {f : α → ExceptT Fault (StateM σ) γ} {g : β → ExceptT Fault (StateM σ) δ}

theorem run_bind (m : ExceptT Fault (StateM σ) α) (f : α → ExceptT Fault (StateM σ) γ) (s : σ) :
    (ExceptT.run (m >>= f)).run s =
      match (ExceptT.run m).run s with
      | (.ok a, later) => (ExceptT.run (f a)).run later
      | (.error e, later) => (.error e, later) := by
  rw [ExceptT.run_bind, StateT.run_bind]
  rcases StateT.run (ExceptT.run m) s with ⟨_ | _, _⟩ <;> rfl

theorem bind (h : Alike related m n) (next : ∀ a b, related a b → Alike related' (f a) (g b)) :
    Alike related' (m >>= f) (n >>= g) := by
  intro s
  obtain ⟨outcome, state⟩ := h s
  rw [run_bind, run_bind]
  rcases hm : (ExceptT.run m).run s with ⟨o, later⟩
  rcases hn : (ExceptT.run n).run s with ⟨o', later'⟩
  rw [hm, hn] at outcome state
  dsimp only at outcome state
  subst state
  cases outcome with
  | ok same => exact next _ _ same later
  | error e => exact ⟨.error e, rfl⟩

theorem ofOutcome {o : Except Fault α} {o' : Except Fault β} (h : SameOutcome related o o') :
    Alike related (ExceptT.mk (Pure.pure o) : ExceptT Fault (StateM σ) α)
      (ExceptT.mk (Pure.pure o')) :=
  fun _ => ⟨h, rfl⟩

theorem pure {a : α} {b : β} (h : related a b) :
    Alike related (Pure.pure a : ExceptT Fault (StateM σ) α) (Pure.pure b) :=
  ofOutcome (.ok h)

theorem refl (m : ExceptT Fault (StateM σ) α) : Alike Eq m m :=
  fun _ => ⟨.refl (fun _ => rfl) _, rfl⟩

theorem mono {weaker : α → β → Prop} (h : Alike related m n)
    (weaken : ∀ a b, related a b → weaker a b) : Alike weaker m n := by
  intro s
  obtain ⟨outcome, state⟩ := h s
  exact ⟨outcome.mono weaken, state⟩

/-- Computations that come to the same result are the same. -/
theorem eq {m n : ExceptT Fault (StateM σ) α} (h : Alike Eq m n) : m = n := by
  funext s
  obtain ⟨outcome, state⟩ := h s
  exact Prod.ext outcome.eq state

end Alike

/-! ## Passwords in blocks -/

/-- A text blotted out, unless it is empty. -/
def blot (text : String) : String :=
  if text = "" then text else "***"

theorem blot_cases {s s' : String} (h : blot s = blot s') : s = s' ∨ s ≠ "" ∧ s' ≠ "" := by
  unfold blot at h
  by_cases empty : s = "" <;> by_cases empty' : s' = "" <;> simp_all

theorem blot_of_ne_empty {s : String} (h : s ≠ "") : blot s = "***" := by
  simp [blot, h]

/-- A value blotted out if it is a text. -/
def Json.blotted : Json → Json
  | .str s => .str (blot s)
  | .unpaired _ => .str "***"
  | v => v

theorem Json.truthy_blotted (v : Json) : v.blotted.truthy = v.truthy := by
  cases v with
  | str s => by_cases empty : s = "" <;> simp [blotted, blot, truthy, empty]
  | unpaired u => simp [blotted, truthy]
  | _ => rfl

theorem Json.blotted_blotted (v : Json) : v.blotted.blotted = v.blotted := by
  cases v with
  | str s => by_cases empty : s = "" <;> simp [blotted, blot, empty]
  | _ => rfl

theorem Json.blotted_of_not_truthy {v : Json} (h : v.truthy = false) : v.blotted = v := by
  cases v with
  | str s => simp_all [blotted, blot, truthy]
  | unpaired u => cases h
  | _ => rfl

namespace Block

variable {b b' : Block} {k v w : Json} {key : String}

theorem sameKey_str_left_iff (key : String) (k : Json) :
    sameKey (.str key) k = true ↔ k = .str key := by
  cases k with
  | str s => simp [sameKey, eq_comm]
  | float x => cases x <;> simp [sameKey, ratio?]
  | _ => simp [sameKey, ratio?]

theorem get?_set_of_other (other : k ≠ .str key) (w : Json) (b : Block) :
    get? key (set k w b) = get? key b := by
  induction b with
  | nil => simp [set, get?, sameKey_str_iff, other]
  | cons p rest ih =>
      by_cases here : sameKey p.1 k = true
      · have elsewhere : ¬ sameKey p.1 (.str key) = true := by
          rw [sameKey_str_iff]
          intro same
          rw [same, sameKey_str_left_iff] at here
          exact other here
        simp [set, get?, here, elsewhere]
      · simp [set, get?, here, ih]

/-- Only the last value given to a key counts. -/
theorem set_set (key : String) (v w : Json) (b : Block) :
    set (.str key) v (set (.str key) w b) = set (.str key) v b := by
  induction b with
  | nil => simp [set, sameKey_str_iff]
  | cons p rest ih =>
      by_cases same : sameKey p.1 (.str key) = true
      · simp [set, same]
      · simp [set, same, ih]

theorem set_of_get? (h : get? key b = some v) : set (.str key) v b = b := by
  induction b with
  | nil => cases h
  | cons p rest ih =>
      by_cases same : sameKey p.1 (.str key) = true
      · simp only [get?, same, if_true, Option.some.injEq] at h
        simp [set, same, ← h]
      · simp only [get?, same] at h
        simp [set, same, ih h]

/-- A key that is present keeps its place. -/
theorem set_comm (other : k ≠ .str key) (present : get? key b = some v) (w z : Json) :
    set (.str key) w (set k z b) = set k z (set (.str key) w b) := by
  induction b with
  | nil => cases present
  | cons p rest ih =>
      by_cases here : p.1 = .str key
      · have elsewhere : ¬ sameKey p.1 k = true := by
          rw [here, sameKey_str_left_iff]
          exact other
        simp [set, sameKey_str_iff, here, here ▸ elsewhere]
      · have later : get? key rest = some v := by
          simpa [get?, sameKey_str_iff, here] using present
        by_cases found : sameKey p.1 k = true
        · simp [set, sameKey_str_iff, here, found]
        · simp [set, sameKey_str_iff, here, found, ih later]

/-! ## Blotting out the password -/

/-- The block with its password blotted out. -/
def blotted (b : Block) : Block :=
  match get? "password" b with
  | some v => set (.str "password") v.blotted b
  | none => b

theorem get?_blotted (h : key ≠ "password") (b : Block) : get? key (blotted b) = get? key b := by
  unfold blotted
  split
  · exact get?_set_of_ne h _ b
  · rfl

theorem get?_password_blotted (b : Block) :
    get? "password" (blotted b) = (get? "password" b).map Json.blotted := by
  unfold blotted
  split
  · next found => rw [get?_set_self, found, Option.map_some]
  · next absent => rw [absent, Option.map_none]

/-- A new password takes the place of the old one. -/
theorem set_password_blotted (v : Json) (b : Block) :
    set (.str "password") v (blotted b) = set (.str "password") v b := by
  unfold blotted
  split
  · rw [set_set]
  · rfl

theorem blotted_set_password (v : Json) (b : Block) :
    blotted (set (.str "password") v b) = set (.str "password") v.blotted b := by
  unfold blotted
  rw [get?_set_self]
  exact set_set _ _ _ b

theorem blotted_set_of_other (other : k ≠ .str "password") (v : Json) (b : Block) :
    blotted (set k v b) = set k v (blotted b) := by
  unfold blotted
  rw [get?_set_of_other other]
  split
  · next found => exact set_comm other found _ v
  · rfl

/-- Masking leaves nothing of a password. -/
theorem masked_blotted (b : Block) : masked (blotted b) = masked b := by
  unfold masked
  rw [get?_password_blotted]
  cases found : get? "password" b with
  | none =>
      rw [blotted, found]
      rfl
  | some v =>
      simp only [Option.map_some, Json.truthy_blotted]
      split
      · exact set_password_blotted _ b
      · next unset =>
          rw [blotted, found]
          dsimp only
          rw [Json.blotted_of_not_truthy (Bool.eq_false_iff.mpr unset), set_of_get? found]

/-- Blocks that are the same but for a password. -/
def Like (b b' : Block) : Prop :=
  blotted b = blotted b'

theorem Like.refl (b : Block) : Like b b := rfl

theorem like_blotted (b : Block) : Like b (blotted b) := by
  unfold Like
  cases found : Block.get? "password" b with
  | none =>
      have unchanged : blotted b = b := by rw [blotted, found]
      rw [unchanged, unchanged]
  | some v =>
      have changed : blotted b = set (.str "password") v.blotted b := by rw [blotted, found]
      rw [changed, blotted_set_password, Json.blotted_blotted]

theorem Like.masked (h : Like b b') : masked b = masked b' := by
  rw [← masked_blotted b, h, masked_blotted]

theorem Like.get? (h : Like b b') (other : key ≠ "password") : get? key b = get? key b' := by
  rw [← get?_blotted other, h, get?_blotted other]

/-- Whether there is a password to use is no secret. -/
theorem Like.truthy_password (h : Like b b') :
    ((Block.get? "password" b).getD .null).truthy =
      ((Block.get? "password" b').getD .null).truthy := by
  have seen (c : Block) : ((Block.get? "password" c).getD .null).truthy =
      ((Block.get? "password" (blotted c)).getD .null).truthy := by
    rw [get?_password_blotted]
    cases Block.get? "password" c with
    | none => rfl
    | some v => exact (Json.truthy_blotted v).symm
  rw [seen b, h, ← seen b']

theorem Like.set_password (h : Like b b') {v w : Json} (alike : v.blotted = w.blotted) :
    Like (set (.str "password") v b) (set (.str "password") w b') := by
  unfold Like at h ⊢
  rw [blotted_set_password, blotted_set_password, ← set_password_blotted _ b,
    ← set_password_blotted _ b', h, alike]

theorem Like.set (h : Like b b') (k v : Json) : Like (set k v b) (set k v b') := by
  by_cases password : k = .str "password"
  · rw [password]
    exact h.set_password rfl
  · unfold Like at h ⊢
    rw [blotted_set_of_other password, blotted_set_of_other password, h]

end Block

/-! ## Passwords in configurations -/

/-- The members of an object with a password blotted out. -/
def Members.blotted (c : Members) : Members :=
  match Members.get? "password" c with
  | some v => Members.set "password" v.blotted c
  | none => c

/-- A pair of a list with a password blotted out. -/
def Json.veilPair : Json → Json
  | .arr [.str key, v] =>
      if key = "password" then .arr [.str key, v.blotted] else .arr [.str key, v]
  | item => item

/-- Connection settings, as an object or as a list of pairs, with the passwords blotted out. -/
def Json.veiled : Json → Json
  | .obj c => .obj (Members.blotted c)
  | .arr items => .arr (items.map veilPair)
  | v => v

namespace Block

variable {b b' : Block} {v w : Json}

theorem get?_ofMembers (key : String) (c : Members) :
    get? key (ofMembers c) = Members.get? key c := by
  induction c with
  | nil => rfl
  | cons p rest ih =>
      have step : ofMembers (p :: rest) = (.str p.1, p.2) :: ofMembers rest := rfl
      rw [step, get?, Members.get?, ih]
      by_cases here : p.1 = key
      · simp [sameKey, here]
      · simp [sameKey, here]

theorem blotted_ofMembers (c : Members) :
    blotted (ofMembers c) = ofMembers (Members.blotted c) := by
  unfold blotted Members.blotted
  rw [get?_ofMembers]
  split
  · rw [set_ofMembers]
  · rfl

theorem pair?_veilPair (item : Json) :
    (∃ v, pair? item = .ok (.str "password", v) ∧
      pair? item.veilPair = .ok (.str "password", v.blotted)) ∨
    pair? item.veilPair = pair? item := by
  unfold Json.veilPair
  split
  · split
    · next password =>
        rw [password]
        exact .inl ⟨_, rfl, rfl⟩
    · exact .inr rfl
  · exact .inr rfl

theorem Like.addPairs (h : Like b b') (items : List Json) :
    SameOutcome Like (addPairs b items) (addPairs b' (items.map Json.veilPair)) := by
  induction items generalizing b b' with
  | nil => exact .ok h
  | cons item rest ih =>
      simp only [Block.addPairs, List.map_cons]
      rcases pair?_veilPair item with ⟨v, pair, veiled⟩ | same
      · rw [pair, veiled]
        exact ih (h.set_password v.blotted_blotted.symm)
      · rw [same]
        cases pair? item with
        | ok p => exact ih (h.set p.1 p.2)
        | error f => exact .error f

theorem ofJson_obj (c : Members) : ofJson (.obj c) = .ok (ofMembers c) := by
  cases c <;> rfl

theorem ofJson_arr (items : List Json) : ofJson (.arr items) = Block.addPairs [] items := by
  cases items <;> rfl

theorem sameOutcome_ofJson_veiled (v : Json) : SameOutcome Like (ofJson v) (ofJson v.veiled) := by
  cases v with
  | obj c =>
      rw [Json.veiled, ofJson_obj, ofJson_obj, ← blotted_ofMembers]
      exact .ok (like_blotted _)
  | arr items =>
      rw [Json.veiled, ofJson_arr, ofJson_arr]
      exact Like.addPairs rfl items
  | _ => exact .refl Like.refl _

/-- Connection settings that are the same but for passwords make alike blocks. -/
theorem sameOutcome_ofJson (h : v.veiled = w.veiled) :
    SameOutcome Like (ofJson v) (ofJson w) := by
  have first := sameOutcome_ofJson_veiled v
  have second := sameOutcome_ofJson_veiled w
  rw [h] at first
  exact first.trans second.symm

end Block

namespace Config

/-- A configuration with the passwords of its connection settings blotted out. -/
def blotted (data : Members) : Members :=
  match Members.get? "connection" data with
  | some v => Members.set "connection" v.veiled data
  | none => data

/-- Configurations that are the same but for passwords. -/
def Like (data data' : Members) : Prop :=
  blotted data = blotted data'

variable {data data' : Members} {key : String}

theorem get?_blotted (h : key ≠ "connection") (data : Members) :
    Members.get? key (blotted data) = Members.get? key data := by
  unfold blotted
  split
  · exact Members.get?_set_of_ne h _ data
  · rfl

theorem get?_connection_blotted (data : Members) :
    Members.get? "connection" (blotted data) =
      (Members.get? "connection" data).map Json.veiled := by
  unfold blotted
  split
  · next found => rw [Members.get?_set_self, found, Option.map_some]
  · next absent => rw [absent, Option.map_none]

theorem isEmpty_blotted (data : Members) : (blotted data).isEmpty = data.isEmpty := by
  unfold blotted
  split
  · next found =>
      cases data with
      | nil => cases found
      | cons p rest =>
          unfold Members.set
          split <;> rfl
  · rfl

theorem Like.get? (h : Like data data') (other : key ≠ "connection") :
    Members.get? key data = Members.get? key data' := by
  rw [← get?_blotted other, h, get?_blotted other]

theorem Like.isEmpty (h : Like data data') : data.isEmpty = data'.isEmpty := by
  rw [← isEmpty_blotted, h, isEmpty_blotted]

theorem Like.ofJson (h : Like data data') :
    SameOutcome Block.Like (Block.ofJson ((Members.get? "connection" data).getD .null))
      (Block.ofJson ((Members.get? "connection" data').getD .null)) := by
  have seen (c : Members) : ((Members.get? "connection" c).getD .null).veiled =
      (Members.get? "connection" (blotted c)).getD .null := by
    rw [get?_connection_blotted]
    cases Members.get? "connection" c <;> rfl
  apply Block.sameOutcome_ofJson
  rw [seen, h, ← seen]

end Config

/-! ## Settings in an environment -/

/-- The variable with the password. -/
def passwordVariable : String := "CCSNAV_PASSWORD"

/-- Environments that are the same but for a password that is set in both. -/
structure Environment.Like (env env' : Environment) : Prop where
  others : ∀ name, name ≠ passwordVariable → env.value? name = env'.value? name
  password : (env.value? passwordVariable).isSome = (env'.value? passwordVariable).isSome

/-- Settings that are the same but for passwords. -/
structure Settings.Like (s s' : Settings) : Prop where
  requestTimeoutMs : s.requestTimeoutMs = s'.requestTimeoutMs
  maxAttempts : s.maxAttempts = s'.maxAttempts
  strictSsl : s.strictSsl = s'.strictSsl
  debugResolver : s.debugResolver = s'.debugResolver
  connection : s.connection.Like s'.connection

theorem Environment.ne_empty_of_value? {env : Environment} {name raw : String}
    (h : env.value? name = some raw) : raw ≠ "" := by
  unfold value? at h
  split at h
  · cases h
  · next nonempty =>
      rintro rfl
      exact nonempty h

namespace Settings

variable {env env' : Environment} {b b' : Block}

theorem alike_overrideConnection (envs : env.Like env')
    {entries : List (String × String × Conversion)}
    (known : ∀ e ∈ entries, e.1 = passwordVariable → e.2 = ("password", .text))
    (h : b.Like b') :
    Alike Block.Like (overrideConnection env entries b) (overrideConnection env' entries b') := by
  induction entries generalizing b b' with
  | nil => exact .pure h
  | cons entry rest ih =>
      obtain ⟨name, key, conversion⟩ := entry
      have later := fun {c c' : Block} => @ih c c' fun e he => known e (List.mem_cons_of_mem _ he)
      unfold overrideConnection
      by_cases password : name = passwordVariable
      · obtain ⟨rfl, rfl⟩ := Prod.ext_iff.mp (known _ List.mem_cons_self password)
        rw [password]
        have set := envs.password
        cases here : env.value? passwordVariable with
        | none =>
            rw [here, Option.isSome_none, eq_comm, Option.isSome_eq_false_iff] at set
            rw [Option.isNone_iff_eq_none.mp set]
            exact later h
        | some raw =>
            rw [here, Option.isSome_some, eq_comm, Option.isSome_iff_exists] at set
            obtain ⟨raw', there⟩ := set
            rw [there]
            refine later (h.set_password ?_)
            simp only [Json.blotted, blot_of_ne_empty (Environment.ne_empty_of_value? here),
              blot_of_ne_empty (Environment.ne_empty_of_value? there)]
      · rw [envs.others name password]
        cases env'.value? name with
        | none => exact later h
        | some raw =>
            dsimp only
            cases conversion.apply raw with
            | some v => exact later (h.set (.str key) v)
            | none => exact (Alike.refl _).bind fun _ _ _ => later h

theorem valueOf_eq (envs : env.Like env') {data data' : Members} (h : Config.Like data data')
    {name key : String} (plain : name ≠ passwordVariable) (other : key ≠ "connection")
    (default : Json) : valueOf env name data key default = valueOf env' name data' key default := by
  unfold valueOf
  rw [envs.others name plain, h.get? other]

/-- Settings that are loaded from configurations that are the same but for passwords, in
environments that are, are the same but for passwords. -/
theorem alike_load (envs : env.Like env') {t t' : FileTree} {root : PathName}
    (file : Alike Config.Like (Config.load t root) (Config.load t' root)) :
    Alike Like (load t root env) (load t' root env') := by
  unfold load
  refine file.bind fun data data' h => (Alike.ofOutcome h.ofJson).bind fun b b' like => ?_
  refine (alike_overrideConnection envs (by decide) like).bind fun c c' connection => ?_
  rw [valueOf_eq envs h (by decide) (by decide), valueOf_eq envs h (by decide) (by decide),
    h.get? (by decide), h.get? (by decide)]
  refine (Alike.refl _).bind fun timeout timeout' sameTimeout => ?_
  refine (Alike.refl _).bind fun attempts attempts' sameAttempts => .pure ?_
  exact ⟨sameTimeout, sameAttempts, rfl, rfl, connection⟩

/-- Whether a connection is complete does not tell the password. -/
theorem alike_connectionOf (h : b.Like b') :
    Alike (fun c c' => c.isComplete = c'.isComplete) (connectionOf b) (connectionOf b') := by
  have orNull (v : Json) : (v.orElse .null).truthy = v.truthy := by
    unfold Json.orElse
    split
    · rfl
    · next unset => exact (Bool.eq_false_iff.mpr unset).symm
  unfold connectionOf
  dsimp only
  rw [h.get? (by decide : "port" ≠ "password"), h.get? (by decide : "active" ≠ "password"),
    h.get? (by decide : "namespace" ≠ "password"), h.get? (by decide : "host" ≠ "password"),
    h.get? (by decide : "username" ≠ "password")]
  refine (Alike.refl _).bind fun port port' same => .pure ?_
  simp only [Connection.isComplete, Connection.hasCredentials, orNull, h.truthy_password, same]

end Settings

end RefNav
