import RefNav.Proofs.Json.RoundTrip
import RefNav.Settings.Config

/-! # Configurations, combined

An update gives its keys their values, except that connection settings are merged key by key into
the old ones.  Combining configurations that way is associative, and combining one with itself
changes nothing, so that updates can be repeated and can be gathered into one.
-/

namespace RefNav

/-! ## Blocks with texts for keys -/

namespace Block

theorem set_ofMembers (key : String) (value : Json) (members : Members) :
    set (.str key) value (ofMembers members) = ofMembers (Members.set key value members) := by
  induction members with
  | nil => rfl
  | cons p rest ih =>
      have step : ofMembers (p :: rest) = (.str p.1, p.2) :: ofMembers rest := rfl
      by_cases here : p.1 = key
      · rw [step]
        simp [set, Members.set, sameKey, here, ofMembers]
      · rw [step]
        simp only [set, Members.set, sameKey, here, decide_false, Bool.false_eq_true, if_false, ih]
        rfl

theorem merge_ofMembers (members updates : Members) :
    merge (ofMembers members) updates = ofMembers (Members.merge members updates) := by
  induction updates generalizing members with
  | nil => rfl
  | cons p rest ih =>
      rw [Members.merge_cons, ← ih, ← set_ofMembers]
      rfl

theorem toJson_ofMembers (members : Members) : toJson (ofMembers members) = .obj members := by
  rw [toJson, ofMembers, List.map_map]
  exact congrArg Json.obj (List.map_id members)

end Block

namespace Config

open Members Json

/-- The connection settings of a configuration; none unless they are an object. -/
def connection (data : Members) : Members :=
  match get? "connection" data with
  | some (.obj members) => members
  | _ => []

/-- The connection settings, if there are any, are an object. -/
def ObjectConnection (data : Members) : Prop :=
  ∀ v, get? "connection" data = some v → ∃ members, v = .obj members

/-- The connection settings are absent, null or an object. -/
def PlainConnection (data : Members) : Prop :=
  ∀ v, get? "connection" data = some v → v = .null ∨ ∃ members, v = .obj members

/-- The value that an update gives to a key: connection settings keep what they do not give. -/
def blend (old : Members) (key : String) (value : Json) : Json :=
  match decide (key = "connection"), value with
  | true, .obj members => .obj (merge (connection old) members)
  | _, value => value

/-- The values that an update gives to its keys. -/
def blended (old new : Members) : Members :=
  new.map fun p => (p.1, blend old p.1 p.2)

/-- A configuration with an update. -/
def combine (old new : Members) : Members :=
  merge old (blended old new)

variable {old new a b : Members} {key : String} {v : Json}

/-! ## Updating is combining -/

theorem ofJson_connection (h : PlainConnection old) :
    Block.ofJson ((get? "connection" old).getD .null) = .ok (Block.ofMembers (connection old)) := by
  unfold connection
  cases found : get? "connection" old with
  | none => rfl
  | some v =>
      rcases h v found with rfl | ⟨members, rfl⟩
      · rfl
      · cases members <;> rfl

theorem blend_of_ne (h : key ≠ "connection") (old : Members) (v : Json) : blend old key v = v := by
  simp [blend, h]

theorem blend_connection (old members : Members) :
    blend old "connection" (.obj members) = .obj (merge (connection old) members) := rfl

/-- A key that was set meanwhile makes no difference to the values of the others. -/
theorem blended_set (h : key ∉ new.keys) (v : Json) (old : Members) :
    blended (set key v old) new = blended old new := by
  refine List.map_congr_left fun p known => ?_
  have differs : p.1 ≠ key := fun same => h (same ▸ List.mem_map_of_mem known)
  by_cases isConnection : p.1 = "connection"
  · have same : connection (set key v old) = connection old := by
      rw [connection, get?_set_of_ne (isConnection ▸ differs)]
      rfl
    simp only [blend, same]
  · rw [blend_of_ne isConnection, blend_of_ne isConnection]

theorem update_eq_combine (distinct : new.Distinct) (plain : PlainConnection old)
    (object : ObjectConnection new) : update old new = .ok (combine old new) := by
  induction new generalizing old with
  | nil => rfl
  | cons p rest ih =>
      obtain ⟨key, v⟩ := p
      obtain ⟨fresh, others⟩ := List.nodup_cons.mp distinct
      have later :
          combine old ((key, v) :: rest) = combine (set key (blend old key v) old) rest := by
        rw [combine, combine, blended_set fresh]
        rfl
      rw [later]
      -- Keys are distinct, so at most one of the members gives connection settings, and they are
      -- merged into those of the configuration that the whole update started from.
      by_cases isConnection : key = "connection"
      · subst isConnection
        obtain ⟨members, rfl⟩ := object v (by simp [get?])
        have absent : get? "connection" rest = none := get?_eq_none_iff.mpr fresh
        rw [blend_connection, ← ih others]
        · simp only [update, decide_true]
          rw [ofJson_connection plain]
          simp only [Block.merge_ofMembers, Block.toJson_ofMembers]
        · intro w known
          rw [get?_set_self] at known
          exact .inr ⟨_, (Option.some.inj known).symm⟩
        · intro w known
          rw [absent] at known
          cases known
      · rw [blend_of_ne isConnection, ← ih others]
        · cases v <;> simp [update, isConnection]
        · intro w known
          rw [get?_set_of_ne (Ne.symm isConnection)] at known
          exact plain w known
        · intro w known
          exact object w (by simpa [get?, isConnection] using known)

/-! ## The values of a combined configuration -/

theorem keys_blended (old new : Members) : (blended old new).keys = new.keys := by
  simp [blended, keys]

theorem distinct_blended (old : Members) (distinct : new.Distinct) :
    (blended old new).Distinct := by
  rw [Distinct, keys_blended]
  exact distinct

theorem get?_blended (key : String) (old new : Members) :
    get? key (blended old new) = (get? key new).map (blend old key) := by
  induction new with
  | nil => rfl
  | cons p rest ih =>
      by_cases here : p.1 = key
      · simp [blended, get?, here]
      · simpa [blended, get?, here] using ih

/-- Every key has its new value if there is one, and its old value if not. -/
theorem get?_combine (key : String) (old : Members) (distinct : new.Distinct) :
    get? key (combine old new) = ((get? key new).map (blend old key)).or (get? key old) := by
  rw [combine, get?_merge key old (distinct_blended old distinct), get?_blended]

theorem connection_eq_nil (h : get? "connection" new = none) : connection new = [] := by
  rw [connection, h]

theorem connection_eq {members : Members} (h : get? "connection" new = some (.obj members)) :
    connection new = members := by
  rw [connection, h]

theorem connection_combine (old : Members) (distinct : new.Distinct)
    (object : ObjectConnection new) :
    connection (combine old new) = merge (connection old) (connection new) := by
  have value := get?_combine "connection" old distinct
  cases given : get? "connection" new with
  | none =>
      rw [given] at value
      rw [connection_eq_nil given, connection, value]
      rfl
  | some v =>
      obtain ⟨members, rfl⟩ := object v given
      rw [given] at value
      rw [connection_eq given, connection_eq value]

theorem keys_combine (old new : Members) (distinct : new.Distinct) :
    (combine old new).keys = (merge old new).keys := by
  rw [combine, keys_merge old (distinct_blended old distinct), keys_blended,
    keys_merge old distinct]

theorem distinct_combine (distinct : old.Distinct) (new : Members) : (combine old new).Distinct :=
  distinct.merge _

/-- The connection settings are the old ones, or an object. -/
theorem get?_connection_combine (old : Members) (distinct : new.Distinct)
    (object : ObjectConnection new) :
    get? "connection" (combine old new) = get? "connection" old ∨
      ∃ members, get? "connection" (combine old new) = some (.obj members) := by
  rw [get?_combine "connection" old distinct]
  cases given : get? "connection" new with
  | none => exact .inl rfl
  | some v =>
      obtain ⟨members, rfl⟩ := object v given
      exact .inr ⟨_, rfl⟩

theorem ObjectConnection.combine (old : ObjectConnection a) (distinct : b.Distinct)
    (new : ObjectConnection b) : ObjectConnection (combine a b) := by
  intro v value
  rcases get?_connection_combine a distinct new with same | ⟨members, given⟩
  · exact old v (same ▸ value)
  · exact ⟨members, Option.some.inj (value.symm.trans given)⟩

theorem PlainConnection.combine (old : PlainConnection a) (distinct : b.Distinct)
    (new : ObjectConnection b) : PlainConnection (combine a b) := by
  intro v value
  rcases get?_connection_combine a distinct new with same | ⟨members, given⟩
  · exact old v (same ▸ value)
  · exact .inr ⟨members, Option.some.inj (value.symm.trans given)⟩

/-! ## The laws of combining -/

/-- Keys are distinct, those of the connection settings too. -/
structure Regular (data : Members) : Prop where
  distinct : data.Distinct
  connection : (connection data).Distinct

theorem Regular.combine (old : Regular a) (new : Regular b) (object : ObjectConnection b) :
    Regular (combine a b) where
  distinct := distinct_combine old.distinct b
  connection := by
    rw [connection_combine a new.distinct object]
    exact old.connection.merge _

theorem combine_assoc (old_regular : Regular old) (ha : Regular a) (hb : Regular b)
    (object : ObjectConnection a) (object' : ObjectConnection b) :
    combine (combine old a) b = combine old (combine a b) := by
  have hab := ha.combine hb object'
  have keys : (combine (combine old a) b).keys = (combine old (combine a b)).keys := by
    rw [keys_combine _ b hb.distinct, keys_combine old _ hab.distinct,
      keys_merge _ hb.distinct, keys_combine old a ha.distinct, ← keys_merge _ hb.distinct,
      merge_assoc old_regular.distinct ha.distinct hb.distinct,
      keys_merge old (ha.distinct.merge b), keys_merge old hab.distinct,
      keys_combine a b hb.distinct]
  refine ext (distinct_combine (distinct_combine old_regular.distinct a) b)
    (distinct_combine old_regular.distinct _) keys fun key => ?_
  rw [get?_combine key _ hb.distinct, get?_combine key _ ha.distinct,
    get?_combine key _ hab.distinct, get?_combine key _ hb.distinct]
  by_cases isConnection : key = "connection"
  · subst isConnection
    -- Where the last update gives no connection settings, both sides take those of the others.
    cases given : get? "connection" b with
    | none => rfl
    | some v =>
        obtain ⟨members, rfl⟩ := object' v given
        have inner := connection_eq given ▸ hb.connection
        simp only [Option.map_some, Option.some_or, blend_connection,
          connection_combine old ha.distinct object,
          merge_assoc old_regular.connection ha.connection inner]
  · have same : ∀ data, blend data key = id := fun data => funext (blend_of_ne isConnection data)
    simp only [same, Option.map_id, id_eq, Option.or_assoc]

theorem combine_self (h : Regular a) : combine a a = a := by
  refine ext (distinct_combine h.distinct a) h.distinct ?_ fun key => ?_
  · rw [keys_combine a a h.distinct, merge_self h.distinct]
  · rw [get?_combine key a h.distinct]
    cases given : get? key a with
    | none => rfl
    | some v =>
        have same : blend a key v = v := by
          by_cases isConnection : key = "connection"
          · subst isConnection
            cases v with
            | obj members =>
                rw [blend_connection, connection_eq given,
                  merge_self (connection_eq given ▸ h.connection)]
            | _ => rfl
          · exact blend_of_ne isConnection a v
        rw [Option.map_some, same, Option.some_or]

/-- What an update makes of a configuration, key by key. -/
structure Updated (old u new : Members) : Prop where
  distinct : new.Distinct
  kept : ∀ key, get? key u = none → get? key new = get? key old
  given : ∀ key v, key ≠ "connection" → get? key u = some v → get? key new = some v
  merged : ∀ settings, get? "connection" u = some (.obj settings) →
    ∃ merged : Members, get? "connection" new = some (.obj merged) ∧ merged.Distinct ∧
      ∀ key, get? key merged = (get? key settings).or (get? key (connection old))

theorem updated_combine (ho : Regular old) (hn : Regular new) :
    Updated old new (combine old new) where
  distinct := distinct_combine ho.distinct new
  kept := by
    intro key absent
    rw [get?_combine key old hn.distinct, absent]
    rfl
  given := by
    intro key v other value
    rw [get?_combine key old hn.distinct, value, Option.map_some, blend_of_ne other]
    rfl
  merged := by
    intro settings value
    have inner : Distinct settings := connection_eq value ▸ hn.connection
    refine ⟨merge (connection old) settings, ?_, ho.connection.merge settings, fun key =>
      get?_merge key _ inner⟩
    rw [get?_combine "connection" old hn.distinct, value, Option.map_some, blend_connection]
    rfl

/-! ## What a combined configuration holds -/

theorem mem_combine {p : String × Json} (h : p ∈ combine old new) :
    p ∈ old ∨ ∃ v, (p.1, v) ∈ new ∧ p.2 = blend old p.1 v := by
  rcases mem_merge h with given | kept
  · obtain ⟨q, known, rfl⟩ := List.mem_map.mp given
    exact .inr ⟨q.2, known, rfl⟩
  · exact .inl kept

/-- A given value is used as it is, unless it is an object. -/
theorem blend_cases (old : Members) (key : String) (v : Json) :
    blend old key v = v ∨
      ∃ members, v = .obj members ∧ blend old key v = .obj (merge (connection old) members) := by
  by_cases isConnection : key = "connection"
  · subst isConnection
    cases v with
    | obj members => exact .inr ⟨members, rfl, rfl⟩
    | _ => exact .inl rfl
  · exact .inl (blend_of_ne isConnection old v)

variable {depth : Nat}

theorem readable_merge (ha : Readable depth (.obj a)) (hb : Readable depth (.obj b)) :
    Readable depth (.obj (merge a b)) := by
  obtain ⟨shallow, distinct, here⟩ := readable_obj.mp ha
  obtain ⟨-, -, there⟩ := readable_obj.mp hb
  exact .obj shallow (distinct.merge b) fun p known => (mem_merge known).elim (there p) (here p)

theorem ordinary_merge (ha : Ordinary (.obj a)) (hb : Ordinary (.obj b)) :
    Ordinary (.obj (merge a b)) :=
  .obj fun p known => (mem_merge known).elim (ordinary_obj.mp hb p) (ordinary_obj.mp ha p)

theorem readable_connection (h : Readable depth (.obj old)) (shallow : depth + 1 < maxDepth) :
    Readable (depth + 1) (.obj (connection old)) := by
  unfold connection
  split
  next members found => exact (readable_obj.mp h).2.2 _ (mem_of_get? found)
  next => exact .obj shallow distinct_nil nofun

theorem ordinary_connection (h : Ordinary (.obj old)) : Ordinary (.obj (connection old)) := by
  unfold connection
  split
  next members found => exact ordinary_obj.mp h _ (mem_of_get? found)
  next => exact .obj nofun

theorem readable_blend (h : Readable depth (.obj old)) (given : Readable (depth + 1) v)
    (key : String) : Readable (depth + 1) (blend old key v) := by
  rcases blend_cases old key v with same | ⟨members, rfl, merged⟩
  · rw [same]
    exact given
  · rw [merged]
    exact readable_merge (readable_connection h (readable_obj.mp given).1) given

theorem ordinary_blend (h : Ordinary (.obj old)) (given : Ordinary v) (key : String) :
    Ordinary (blend old key v) := by
  rcases blend_cases old key v with same | ⟨members, rfl, merged⟩
  · rw [same]
    exact given
  · rw [merged]
    exact ordinary_merge (ordinary_connection h) given

/-- A configuration that is read back once it is written. -/
structure Storable (data : Members) : Prop where
  readable : Readable 0 (.obj data)
  ordinary : Ordinary (.obj data)

theorem Storable.regular (h : Storable old) : Regular old := by
  obtain ⟨-, distinct, -⟩ := readable_obj.mp h.readable
  obtain ⟨-, inner, -⟩ := readable_obj.mp (readable_connection h.readable (by decide))
  exact ⟨distinct, inner⟩

theorem Storable.combine (ho : Storable old) (hn : Storable new) : Storable (combine old new) where
  readable := by
    obtain ⟨shallow, distinct, kept⟩ := readable_obj.mp ho.readable
    obtain ⟨-, -, given⟩ := readable_obj.mp hn.readable
    refine .obj shallow (distinct_combine distinct new) fun p known => ?_
    rcases mem_combine known with inOld | ⟨v, inNew, value⟩
    · exact kept p inOld
    · rw [value]
      exact readable_blend ho.readable (given _ inNew) p.1
  ordinary := by
    refine .obj fun p known => ?_
    rcases mem_combine known with inOld | ⟨v, inNew, value⟩
    · exact ordinary_obj.mp ho.ordinary p inOld
    · rw [value]
      exact ordinary_blend ho.ordinary (ordinary_obj.mp hn.ordinary _ inNew) p.1

end Config

end RefNav
