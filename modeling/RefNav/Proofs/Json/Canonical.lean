import Mathlib.Data.List.Sort
import Mathlib.Data.String.Basic
import RefNav.Proofs.Exchange
import RefNav.Proofs.Json.Limits
import RefNav.Remote.Post

/-! # Canonical texts

Values are alike if they differ in nothing but the order of keys.  A value is read back from its
canonical text up to that order, and alike values have one canonical text, so the text decides
whether values are alike.
-/

namespace RefNav

/-! ## Members in the order of their keys -/

namespace Members

open Json (sortMembers)

variable {key : String} {m n : Members}

theorem perm_sortMembers (m : Members) : (sortMembers m).Perm m :=
  List.mergeSort_perm m _

theorem mem_sortMembers {p : String × Json} : p ∈ sortMembers m ↔ p ∈ m :=
  (perm_sortMembers m).mem_iff

theorem perm_keys_sortMembers (m : Members) : (keys (sortMembers m)).Perm m.keys :=
  (perm_sortMembers m).map Prod.fst

theorem Distinct.sortMembers (distinct : m.Distinct) : Distinct (sortMembers m) :=
  (perm_keys_sortMembers m).nodup_iff.mpr distinct

theorem pairwise_keys_sortMembers (m : Members) : (keys (sortMembers m)).Pairwise (· ≤ ·) := by
  have le_iff (a b : String × Json) : (!decide (b.1 < a.1)) = true ↔ a.1 ≤ b.1 := by
    simp only [Bool.not_eq_true', decide_eq_false_iff_not, not_lt]
  refine List.pairwise_map.mpr ((@List.pairwise_mergeSort _
    (fun a b : String × Json => !(b.1 < a.1)) ?_ ?_ m).imp fun {a b} => (le_iff a b).mp)
  · intro a b c
    simp only [le_iff]
    exact le_trans
  · intro a b
    simp only [Bool.or_eq_true, le_iff]
    exact le_total a.1 b.1

theorem get?_sortMembers (distinct : m.Distinct) (key : String) :
    get? key (sortMembers m) = get? key m := by
  refine Option.ext fun v => ?_
  constructor
  · intro h
    exact get?_of_mem distinct (mem_sortMembers.mp (mem_of_get? h))
  · intro h
    exact get?_of_mem distinct.sortMembers (mem_sortMembers.mpr (mem_of_get? h))

theorem get?_sortedMembers (key : String) (m : Members) :
    get? key (Json.sortedMembers m) = (get? key m).map Json.sorted := by
  induction m with
  | nil => rfl
  | cons p rest ih =>
      rw [Json.sortedMembers, get?, get?, ih]
      split <;> rfl

theorem keys_sortedMembers (m : Members) : keys (Json.sortedMembers m) = m.keys := by
  rw [Json.sortedMembers_eq_map, keys, List.map_map]
  rfl

theorem Distinct.sortedMembers (distinct : m.Distinct) : Distinct (Json.sortedMembers m) := by
  rw [Distinct, keys_sortedMembers]
  exact distinct

/-- Members with the same values are the same in the order of their keys. -/
theorem sortMembers_congr (distinct : m.Distinct) (distinct' : n.Distinct)
    (same : ∀ key, get? key m = get? key n) : sortMembers m = sortMembers n := by
  -- Both lists of keys are ordered, and the same keys stand in them.
  have mem_keys : ∀ key, key ∈ m.keys ↔ key ∈ n.keys := by
    intro key
    rw [← not_iff_not, ← get?_eq_none_iff, ← get?_eq_none_iff, same]
  have perm : (keys (sortMembers m)).Perm (keys (sortMembers n)) :=
    ((perm_keys_sortMembers m).trans
      ((List.perm_ext_iff_of_nodup distinct distinct').mpr mem_keys)).trans
        (perm_keys_sortMembers n).symm
  refine ext distinct.sortMembers distinct'.sortMembers ?_ fun key => ?_
  · exact List.Perm.eq_of_pairwise (fun _ _ _ _ => le_antisymm) (pairwise_keys_sortMembers m)
      (pairwise_keys_sortMembers n) perm
  · rw [get?_sortMembers distinct, get?_sortMembers distinct', same]

end Members

namespace Json

variable {v w : Json} {depth : Nat}

/-! ## Equality up to the order of keys -/

/-- The values are the same, but for the order of keys. -/
inductive Alike : Json → Json → Prop where
  | null : Alike .null .null
  | bool (b : Bool) : Alike (.bool b) (.bool b)
  | int (n : Int) : Alike (.int n) (.int n)
  | float (x : Number.Binary64) : Alike (.float x) (.float x)
  | str (s : String) : Alike (.str s) (.str s)
  | unpaired (u : Text.Unpaired) : Alike (.unpaired u) (.unpaired u)
  | arr {items others : List Json} (length : items.length = others.length)
      (all : ∀ (k : Nat) v w, items[k]? = some v → others[k]? = some w → Alike v w) :
      Alike (.arr items) (.arr others)
  | obj {members others : Members}
      (keys : ∀ key, (members.get? key).isSome = (others.get? key).isSome)
      (all : ∀ key v w, members.get? key = some v → others.get? key = some w → Alike v w) :
      Alike (.obj members) (.obj others)

theorem Alike.symm (h : Alike v w) : Alike w v := by
  induction h with
  | null => exact .null
  | bool b => exact .bool b
  | int n => exact .int n
  | float x => exact .float x
  | str s => exact .str s
  | unpaired u => exact .unpaired u
  | arr length _ ih => exact .arr length.symm fun k v w here there => ih k w v there here
  | obj keys _ ih =>
      exact .obj (fun key => (keys key).symm) fun key v w here there => ih key w v there here

theorem Alike.trans {u : Json} (h : Alike u v) (h' : Alike v w) : Alike u w := by
  induction h generalizing w with
  | null => exact h'
  | bool b => exact h'
  | int n => exact h'
  | float x => exact h'
  | str s => exact h'
  | unpaired u => exact h'
  | arr length _ ih =>
      cases h' with
      | arr length' all' =>
          refine .arr (length.trans length') fun k a c here there => ?_
          have inside := length ▸ (List.getElem?_eq_some_iff.mp here).1
          have between := List.getElem?_eq_getElem inside
          exact ih k a _ here between (all' k _ c between there)
  | obj keys _ ih =>
      cases h' with
      | obj keys' all' =>
          refine .obj (fun key => (keys key).trans (keys' key)) fun key a c here there => ?_
          obtain ⟨b, between⟩ :=
            Option.isSome_iff_exists.mp ((keys key).symm.trans (by simp [here]))
          exact ih key a b here between (all' key b c between there)

/-- Putting the keys in order changes nothing else. -/
theorem alike_sorted (readable : Readable depth v) : Alike v v.sorted := by
  induction readable with
  | null => exact .null
  | bool b => exact .bool b
  | int short => exact .int _
  | float x => exact .float x
  | str s => exact .str s
  | unpaired u => exact .unpaired u
  | arr _ _ ih =>
      rw [sorted, sortedItems_eq_map]
      refine .arr (List.length_map _).symm fun k v w here there => ?_
      rw [List.getElem?_map, here] at there
      obtain rfl : v.sorted = w := by simpa using there
      exact ih v (List.mem_of_getElem? here)
  | @obj _ members _ distinct _ ih =>
      have values key : Members.get? key (sortMembers (sortedMembers members)) =
          (Members.get? key members).map sorted := by
        rw [Members.get?_sortMembers distinct.sortedMembers, Members.get?_sortedMembers]
      rw [sorted]
      refine .obj (fun key => ?_) fun key v w here there => ?_
      · rw [values, Option.isSome_map]
      · rw [values, here] at there
        obtain rfl : v.sorted = w := by simpa using there
        exact ih _ (Members.mem_of_get? here)

theorem Alike.refl (readable : Readable depth v) : Alike v v :=
  (alike_sorted readable).trans (alike_sorted readable).symm

/-- Values that are alike are the same once their keys are in order. -/
theorem sorted_eq_of_alike (alike : Alike v w) (readable : Readable depth v)
    (readable' : Readable depth w) : v.sorted = w.sorted := by
  induction alike generalizing depth with
  | null => rfl
  | bool b => rfl
  | int n => rfl
  | float x => rfl
  | str s => rfl
  | unpaired u => rfl
  | @arr items others length _ ih =>
      cases readable with
      | arr _ all =>
          cases readable' with
          | arr _ all' =>
              rw [sorted, sorted, sortedItems_eq_map, sortedItems_eq_map]
              refine congrArg arr
                (List.ext_getElem (by simpa using length) fun k inside there => ?_)
              rw [List.getElem_map, List.getElem_map]
              rw [List.length_map] at inside there
              exact ih k _ _ (List.getElem?_eq_getElem inside) (List.getElem?_eq_getElem there)
                (all _ (List.getElem_mem inside)) (all' _ (List.getElem_mem there))
  | @obj members others keys _ ih =>
      obtain ⟨-, distinct, all⟩ := readable_obj.mp readable
      obtain ⟨-, distinct', all'⟩ := readable_obj.mp readable'
      rw [sorted, sorted]
      refine congrArg obj (Members.sortMembers_congr distinct.sortedMembers
        distinct'.sortedMembers fun key => ?_)
      rw [Members.get?_sortedMembers, Members.get?_sortedMembers]
      have known := keys key
      cases here : members.get? key with
      | none =>
          have there : others.get? key = none := by simpa [here] using known.symm
          rw [there]
      | some v =>
          obtain ⟨w, there⟩ := Option.isSome_iff_exists.mp (known.symm.trans (by simp [here]))
          rw [there, Option.map_some, Option.map_some, ih key v w here there
            (all _ (Members.mem_of_get? here)) (all' _ (Members.mem_of_get? there))]

theorem readable_sorted (readable : Readable depth v) : Readable depth v.sorted := by
  induction readable with
  | null => exact .null
  | bool b => exact .bool b
  | int short => exact .int short
  | float x => exact .float x
  | str s => exact .str s
  | unpaired u => exact .unpaired u
  | arr shallow _ ih =>
      rw [sorted, sortedItems_eq_map]
      refine .arr shallow fun w known => ?_
      obtain ⟨v, among, rfl⟩ := List.mem_map.mp known
      exact ih v among
  | obj shallow distinct _ ih =>
      rw [sorted]
      refine .obj shallow distinct.sortedMembers.sortMembers fun q known => ?_
      rw [Members.mem_sortMembers, sortedMembers_eq_map] at known
      obtain ⟨p, among, rfl⟩ := List.mem_map.mp known
      exact ih p among

/-! ## Reading canonical texts -/

/-- The canonical text is read as the value with its keys in order. -/
theorem read_canonical (free : Ordinary v) (readable : Readable 0 v) :
    read v.canonical = .ok v.sorted := by
  rw [read, canonical, pretty, String.toList_ofList]
  exact readText_indented (readable_sorted readable) (ordinary_sorted free) 0

theorem canonical_eq_iff (free : Ordinary v) (readable : Readable 0 v) (free' : Ordinary w)
    (readable' : Readable 0 w) : v.canonical = w.canonical ↔ Alike v w := by
  constructor
  · intro same
    -- One text is read as one value.
    have sorted : v.sorted = w.sorted := by
      have reads := read_canonical free readable
      rw [same, read_canonical free' readable'] at reads
      exact (Except.ok.inj reads).symm
    exact (alike_sorted readable).trans (sorted ▸ (alike_sorted readable').symm)
  · intro alike
    rw [canonical, canonical, sorted_eq_of_alike alike readable readable']

/-- A text that is read as a value is a body with that value, and leaves no record. -/
theorem runOn_readBody_of_read {text : String} (h : read text = .ok v) (x : Exchange) :
    (Act.readBody text).runOn x = (.ok (.ok v), x) := by
  have some_text : text ≠ "" := by
    rintro rfl
    cases h
  unfold Act.readBody
  rw [if_neg some_text, h]
  rfl

/-- A canonical text is pure ASCII, and as a body it gives the value back, up to the order of keys.
Values have the same canonical text exactly if they differ in nothing else. -/
theorem canonical_faithful :
    (∀ v, Ordinary v → Readable 0 v →
      (∀ x, ∃ w, (Act.readBody v.canonical).runOn x = (.ok (.ok w), x) ∧ Alike v w) ∧
        ∀ c ∈ v.canonical.toList, c.toNat < 128) ∧
    ∀ v w, Ordinary v → Readable 0 v → Ordinary w → Readable 0 w →
      (v.canonical = w.canonical ↔ Alike v w) := by
  refine ⟨fun v free readable => ⟨fun x => ?_, fun c known => ?_⟩,
    fun v w free readable free' readable' => canonical_eq_iff free readable free' readable'⟩
  · exact ⟨v.sorted, runOn_readBody_of_read (read_canonical free readable) x,
      alike_sorted readable⟩
  · have written := written_canonical free c known
    simp only [isWritten, Bool.or_eq_true, decide_eq_true_eq, Bool.and_eq_true] at written
    rcases written with rfl | ⟨-, low⟩
    · decide
    · omega

/-- Two orders of the same keys, with characters outside ASCII inside. -/
theorem canonical_faithful_reordered :
    let v : Json := .obj [("b", .arr [.int (-1), .null]), ("a", .str "é😀")]
    let w : Json := .obj [("a", .str "é😀"), ("b", .arr [.int (-1), .null])]
    (Ordinary v ∧ Readable 0 v) ∧ (Ordinary w ∧ Readable 0 w) ∧ Alike v w ∧
      v.canonical = w.canonical ∧ (∀ c ∈ v.canonical.toList, c.toNat < 128) ∧
      ∀ x, ∃ u, (Act.readBody v.canonical).runOn x = (.ok (.ok u), x) ∧ Alike v u := by
  intro v w
  have item : ∀ u ∈ [Json.int (-1), .null], Ordinary u ∧ Readable 2 u := by
    simp only [List.forall_mem_cons, List.not_mem_nil, false_imp_iff, implies_true, and_true]
    exact ⟨⟨.int _, .int (by decide)⟩, .null, .null⟩
  have member : ∀ p ∈ [("b", Json.arr [.int (-1), .null]), ("a", .str "é😀")],
      Ordinary p.2 ∧ Readable 1 p.2 := by
    simp only [List.forall_mem_cons, List.not_mem_nil, false_imp_iff, implies_true, and_true]
    exact ⟨⟨.arr fun u known => (item u known).1, .arr (by decide) fun u known => (item u known).2⟩,
      .str _, .str _⟩
  have first : Ordinary v ∧ Readable 0 v :=
    ⟨.obj fun p known => (member p known).1,
      .obj (by decide) (by decide) fun p known => (member p known).2⟩
  have swapped : ∀ p ∈ [("a", Json.str "é😀"), ("b", .arr [.int (-1), .null])],
      Ordinary p.2 ∧ Readable 1 p.2 :=
    fun p known => member p ((List.Perm.swap _ _ _).mem_iff.mp known)
  have second : Ordinary w ∧ Readable 0 w :=
    ⟨.obj fun p known => (swapped p known).1,
      .obj (by decide) (by decide) fun p known => (swapped p known).2⟩
  have same : ∀ key, Members.get? key [("b", .arr [.int (-1), .null]), ("a", .str "é😀")] =
      Members.get? key [("a", .str "é😀"), ("b", .arr [.int (-1), .null])] := by
    intro key
    by_cases a : key = "a"
    · subst a
      rfl
    · simp [Members.get?, Ne.symm a]
  have alike : Alike v w := by
    refine .obj (fun key => by rw [same]) fun key u u' here there => ?_
    obtain rfl : u = u' := Option.some.inj (here.symm.trans ((same key).trans there))
    exact .refl (member _ (Members.mem_of_get? here)).2
  obtain ⟨single, pair⟩ := canonical_faithful
  obtain ⟨reads, ascii⟩ := single v first.1 first.2
  exact ⟨first, second, alike, (pair v w first.1 first.2 second.1 second.2).mpr alike, ascii, reads⟩

theorem sorted_nest (n : Nat) : (nest n).sorted = nest n := by
  induction n with
  | zero => rfl
  | succ n ih => rw [nest_succ, sorted, sortedItems, sortedItems, ih]

theorem read_canonical_nest {n : Nat} (deep : maxDepth ≤ n) :
    read (nest n).canonical = .error (.tooDeep "array") := by
  have long := length_nest 0 n
  have value := readValue_nest (by omega : maxDepth ≤ 0 + n) 0 0 []
    (by omega : 2 * n < 2 * (indented 0 (nest n)).length + 2)
  rw [List.append_nil] at value
  rw [read, canonical, pretty, String.toList_ofList, sorted_nest, readText_eq (ordinary_nest n),
    value]

/-- Lists inside each other, too many of them, are no body with a value. -/
theorem readBody_canonical_nested :
    Ordinary (nest 1199) ∧
      ∀ x v, ((Act.readBody (nest 1199).canonical).runOn x).1 ≠ .ok (.ok v) := by
  refine ⟨ordinary_nest 1199, fun x v => ?_⟩
  have deep := read_canonical_nest (show maxDepth ≤ 1199 by decide)
  have some_text : (nest 1199).canonical ≠ "" := by
    intro empty
    rw [empty] at deep
    cases deep
  unfold Act.readBody
  rw [if_neg some_text, deep]
  intro read
  cases read

end Json

end RefNav
