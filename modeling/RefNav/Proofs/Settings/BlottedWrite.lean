import RefNav.Proofs.Settings.BlottedFile

/-! # Writing configurations with the password blotted out

A password is a text, and no text stands in the way of writing a configuration.  Where one of two
configurations that are the same but for passwords is refused, the other one is refused for the
same reason, and so is the place to write it to.
-/

namespace RefNav

open RefNav.Text

/-! ## What stands in the way of writing settings -/

/-- The keys of settings, each with what stands in the way of writing its value at any depth. -/
def Block.hindrances (b : Block) : List (Json × (Nat → Option Json.WriteFault)) :=
  b.map fun p => (p.1, fun depth => p.2.obstacle? depth)

theorem Json.obstacle?_blotted (depth : Nat) (v : Json) :
    obstacle? depth v.blotted = obstacle? depth v := by
  cases v <;> simp only [blotted, obstacle?]

namespace Block

variable {b b' : Block} {k v w : Json} {m m' : Members}

theorem memberObstacle?_eq_findSome? (depth : Nat) (b : Block) :
    Json.memberObstacle? depth (b.map fun p => (keyText p.1, p.2)) =
      b.hindrances.findSome? fun p => p.2 depth := by
  induction b with
  | nil => rfl
  | cons p rest ih =>
      simp only [List.map_cons, Json.memberObstacle?, ih, hindrances, List.findSome?_cons]
      cases p.2.obstacle? depth <;> rfl

theorem obstacle?_toJson (same : b.hindrances = b'.hindrances) (depth : Nat) :
    b.toJson.obstacle? depth = b'.toJson.obstacle? depth := by
  simp only [toJson, Json.obstacle?, memberObstacle?_eq_findSome?, same]

theorem obstacle?_obj (same : (ofMembers m).hindrances = (ofMembers m').hindrances)
    (depth : Nat) : (Json.obj m).obstacle? depth = (Json.obj m').obstacle? depth := by
  rw [← toJson_ofMembers m, ← toJson_ofMembers m', obstacle?_toJson same]

theorem hindrances_set (same : b.hindrances = b'.hindrances) (k : Json)
    (alike : ∀ depth, v.obstacle? depth = w.obstacle? depth) :
    (set k v b).hindrances = (set k w b').hindrances := by
  have value : (fun depth => v.obstacle? depth) = fun depth => w.obstacle? depth := funext alike
  induction b generalizing b' with
  | nil =>
      obtain rfl : b' = [] := List.map_eq_nil_iff.mp same.symm
      simp only [set, hindrances, List.map_cons, List.map_nil, value]
  | cons p rest ih =>
      obtain ⟨q, rest', rfl, first, later⟩ := List.map_eq_cons_iff.mp same.symm
      obtain ⟨key, here⟩ := Prod.mk.inj first
      unfold set
      rw [key]
      split
      · simp only [hindrances, List.map_cons, value]
        exact congrArg _ later.symm
      · have tail := ih later.symm
        simp only [hindrances, List.map_cons, here] at tail ⊢
        rw [tail]

/-- Settings are written under the same conditions with one of their values replaced, if it is by a
value that is. -/
theorem hindrances_set_of_get? {key : String} (found : get? key b = some v)
    (alike : ∀ depth, w.obstacle? depth = v.obstacle? depth) :
    (set (.str key) w b).hindrances = b.hindrances := by
  rw [hindrances_set rfl (.str key) alike, set_of_get? found]

theorem hindrances_blotted (b : Block) : (blotted b).hindrances = b.hindrances := by
  unfold blotted
  split
  · next found => exact hindrances_set_of_get? found fun depth => Json.obstacle?_blotted depth _
  · rfl

theorem Like.hindrances_eq (h : Like b b') : b.hindrances = b'.hindrances := by
  rw [← hindrances_blotted b, h, hindrances_blotted]

theorem hindrances_merge (same : b.hindrances = b'.hindrances)
    (given : (ofMembers m).hindrances = (ofMembers m').hindrances) :
    (merge b m).hindrances = (merge b' m').hindrances := by
  induction m generalizing m' b b' with
  | nil =>
      cases m' with
      | nil => exact same
      | cons q rest => cases given
  | cons p rest ih =>
      cases m' with
      | nil => cases given
      | cons q rest' =>
          obtain ⟨first, later⟩ := List.cons.inj given
          obtain ⟨key, here⟩ := Prod.mk.inj first
          have step := hindrances_set same (.str p.1) (congrFun here)
          rw [merge, merge, List.foldl_cons, List.foldl_cons, ← Json.str.inj key]
          exact ih step later

end Block

theorem Json.obstacle?_veilPair (depth : Nat) (item : Json) :
    obstacle? depth item.veilPair = obstacle? depth item := by
  unfold veilPair
  split
  · split
    · simp only [obstacle?, itemObstacle?, obstacle?_blotted]
    · rfl
  · rfl

theorem Json.itemObstacle?_veilPair (depth : Nat) (items : List Json) :
    itemObstacle? depth (items.map veilPair) = itemObstacle? depth items := by
  induction items with
  | nil => rfl
  | cons item rest ih => rw [List.map_cons, itemObstacle?, itemObstacle?, obstacle?_veilPair, ih]

theorem Json.obstacle?_veiled (depth : Nat) (v : Json) :
    obstacle? depth v.veiled = obstacle? depth v := by
  cases v with
  | obj c =>
      refine Block.obstacle?_obj ?_ depth
      rw [← Block.blotted_ofMembers, Block.hindrances_blotted]
  | arr items => simp only [veiled, obstacle?, itemObstacle?_veilPair]
  | _ => rfl

namespace Config

variable {t t' : FileTree} {data data' : Members}

theorem hindrances_blotted (data : Members) :
    (Block.ofMembers (blotted data)).hindrances = (Block.ofMembers data).hindrances := by
  unfold blotted
  split
  · next found =>
      rw [← Block.set_ofMembers]
      exact Block.hindrances_set_of_get? (Block.get?_ofMembers _ data ▸ found)
        fun depth => Json.obstacle?_veiled depth _
  · rfl

/-- Configurations that are written under the same conditions. -/
def Matched (data data' : Members) : Prop :=
  (Block.ofMembers data).hindrances = (Block.ofMembers data').hindrances

theorem Like.matched (h : Like data data') : Matched data data' := by
  rw [Matched, ← hindrances_blotted data, h, hindrances_blotted]

theorem Matched.set (h : Matched data data') (key : String) {v w : Json}
    (alike : ∀ depth, v.obstacle? depth = w.obstacle? depth) :
    Matched (Members.set key v data) (Members.set key w data') := by
  unfold Matched at h ⊢
  rw [← Block.set_ofMembers, ← Block.set_ofMembers]
  exact Block.hindrances_set h _ alike

theorem Matched.textOf (h : Matched data data') :
    SameOutcome (fun _ _ => True) (textOf data) (textOf data') := by
  unfold Config.textOf Json.serialise
  rw [Block.obstacle?_obj h]
  cases Json.obstacle? 0 (.obj data') with
  | none => exact .ok trivial
  | some f => cases f <;> exact .error _

/-! ## Merging -/

/-- Settings besides those of the connection are always taken. -/
theorem sameOutcome_update_others {updates : Members}
    (others : ∀ p ∈ updates, p.1 ≠ "connection") (h : Matched data data') :
    SameOutcome Matched (update data updates) (update data' updates) := by
  induction updates generalizing data data' with
  | nil => exact .ok h
  | cons p rest ih =>
      obtain ⟨key, value⟩ := p
      obtain ⟨other, later⟩ := List.forall_mem_cons.mp others
      simp only [update, other, decide_false]
      exact ih later (h.set key fun _ => rfl)

/-- Whether connection settings can be merged, and written then, does not depend on passwords. -/
theorem sameOutcome_update (h : Like data data') {given given' rest : Members}
    (like : Block.Like (Block.ofMembers given) (Block.ofMembers given'))
    (others : ∀ p ∈ rest, p.1 ≠ "connection") :
    SameOutcome Matched (update data (("connection", .obj given) :: rest))
      (update data' (("connection", .obj given') :: rest)) := by
  have blocks := h.ofJson
  simp only [update, decide_true]
  generalize Block.ofJson ((Members.get? "connection" data).getD .null) = o,
    Block.ofJson ((Members.get? "connection" data').getD .null) = o' at blocks
  cases blocks with
  | error f => exact .error f
  | ok alike =>
      have merged := Block.hindrances_merge alike.hindrances_eq like.hindrances_eq
      exact sameOutcome_update_others others (h.matched.set _ (Block.obstacle?_toJson merged))

/-! ## Writing -/

/-- Something is put into the directory that a path leads to, in both trees or in neither. -/
theorem sameOutcome_into {α : Type} (h : t.Like t') (path : String) (f : Fault)
    {related : α → α → Prop} {into into' : Place → α}
    (like : ∀ place, related (into place) (into' place)) :
    SameOutcome related
      (match t.find path with
        | .ok (place, .directory) => .ok (into place)
        | _ => .error f)
      (match t'.find path with
        | .ok (place, .directory) => .ok (into' place)
        | _ => .error f) := by
  rcases h.find_kinds path with
    ⟨place, found, found'⟩ | ⟨place, bytes, bytes', found, found'⟩ | ⟨g, failed, failed'⟩
  · rw [found, found']
    exact .ok (like place)
  · rw [found, found']
    exact .error f
  · rw [failed, failed']
    exact .error f

/-- The directory of the configuration is made in both trees or in neither. -/
theorem sameOutcome_makeDirectory (h : t.Like t') (root : PathName) :
    SameOutcome FileTree.Like (makeDirectory t root) (makeDirectory t' root) := by
  unfold makeDirectory
  rcases h.find_kinds (root.join [directory]).toString with
    ⟨place, found, found'⟩ | ⟨place, bytes, bytes', found, found'⟩ | ⟨f, failed, failed'⟩
  · simp only [found, found']
    exact .ok h
  · simp only [found, found']
    exact .error _
  · simp only [failed, failed']
    split
    · contradiction
    · contradiction
    · exact sameOutcome_into h _ _ fun place => h.put _ (.refl .directory)
    · exact .error _

/-- Whether the file can be opened does not depend on passwords. -/
theorem sameOutcome_openFile (h : t.Like t') (root : PathName) :
    SameOutcome (fun _ _ => True) (openFile t root) (openFile t' root) := by
  unfold openFile
  rcases h.find_kinds (path root).toString with
    ⟨place, found, found'⟩ | ⟨place, bytes, bytes', found, found'⟩ | ⟨f, failed, failed'⟩
  · simp only [found, found']
    exact .error _
  · simp only [found, found']
    exact .ok trivial
  · simp only [failed, failed']
    split
    · contradiction
    · contradiction
    · exact sameOutcome_into h _ _ fun _ => trivial
    · exact .error _

/-- Writing leaves the same warnings and fails in the same way if merging does. -/
theorem write_eq (h : t.Like t') (root : PathName) {updates updates' : Members}
    (merge : ∀ data data', Like data data' →
      SameOutcome Matched (update data updates) (update data' updates')) :
    (write t root updates).1 = (write t' root updates').1 := by
  have made := sameOutcome_makeDirectory h root
  unfold write
  generalize makeDirectory t root = o, makeDirectory t' root = o' at made
  cases made with
  | error f => rfl
  | @ok made made' like =>
      dsimp only
      obtain ⟨loaded, log⟩ := alike_load like root []
      have outcome (u : FileTree) : Logged.outcome (load u root) =
          (((ExceptT.run (load u root)).run []).1, ((ExceptT.run (load u root)).run []).2) := rfl
      rw [outcome made, outcome made', log]
      generalize ((ExceptT.run (load made root)).run []).1 = o,
        ((ExceptT.run (load made' root)).run []).1 = o' at loaded
      cases loaded with
      | error f => rfl
      | @ok data data' alike =>
          dsimp only
          have merged := merge data data' alike
          generalize update data updates = o, update data' updates' = o' at merged
          cases merged with
          | error f => rfl
          | @ok merged merged' matched =>
              dsimp only
              have texts := matched.textOf
              generalize textOf merged = o, textOf merged' = o' at texts
              cases texts with
              | error f => rfl
              | ok _ =>
                  dsimp only
                  have opened := sameOutcome_openFile like root
                  generalize openFile made root = o, openFile made' root = o' at opened
                  cases opened <;> rfl

end Config

end RefNav
