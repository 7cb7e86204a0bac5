import Mathlib.Data.List.Induction
import RefNav.Proofs.FileTree.Probe
import RefNav.Settings.Config

/-! # The root of a project

The root of a project is searched upward, from a directory to the one around it.  The search is a
climb that loses one name of the place with each move, so it is over after at most as many moves
as the place has names; where it stops at a checkout, that is the nearest one.
-/

namespace RefNav

namespace FileTree

open PathName

variable {t : FileTree} {place origin dir last : Place} {name : String} {n : Nat}

/-! ## The climb -/

/-- Does a directory hold an entry that makes it a checkout? -/
def holdsCheckout (t : FileTree) (dir : Place) : Bool :=
  (t.get? (dir ++ [".git"])).isSome

/-- A search upward that is over after some moves: it stops at a checkout, and at the top of the
tree, which has no directory around it. -/
inductive Climb (t : FileTree) : Place → Nat → Place → Prop
  | found {place : Place} : t.holdsCheckout place = true → Climb t place 0 place
  | top : Climb t [] 0 []
  | up {place : Place} {name : String} {n : Nat} {last : Place} :
      t.holdsCheckout (place ++ [name]) = false → Climb t place n last →
        Climb t (place ++ [name]) (n + 1) last

/-- The nearest checkout around a directory, itself included. -/
structure Nearest (t : FileTree) (origin root : Place) : Prop where
  around : root <+: origin
  holds : t.holdsCheckout root = true
  deepest : ∀ dir, dir <+: origin → t.holdsCheckout dir = true → dir <+: root

theorem exists_climb (t : FileTree) (place : Place) :
    ∃ n last, n ≤ place.length ∧ t.Climb place n last := by
  induction place using List.reverseRecOn with
  | nil => exact ⟨0, [], Nat.le_refl 0, .top⟩
  | append_singleton place name ih =>
      cases here : t.holdsCheckout (place ++ [name]) with
      | true => exact ⟨0, _, Nat.zero_le _, .found here⟩
      | false =>
          obtain ⟨n, last, le, climb⟩ := ih
          refine ⟨n + 1, last, ?_, .up here climb⟩
          rw [List.length_append]
          exact Nat.succ_le_succ le

theorem Climb.around (h : t.Climb place n last) : last <+: place := by
  induction h with
  | found => exact List.prefix_rfl
  | top => exact List.prefix_rfl
  | up _ _ ih => exact ih.trans (List.prefix_append _ _)

theorem Climb.holds (h : t.Climb place n last) : last = [] ∨ t.holdsCheckout last = true := by
  induction h with
  | found here => exact .inr here
  | top => exact .inl rfl
  | up _ _ ih => exact ih

/-- Nothing on the way up to where the climb stops is a checkout. -/
theorem Climb.deepest (h : t.Climb place n last) (around : dir <+: place)
    (here : t.holdsCheckout dir = true) : dir <+: last := by
  induction h with
  | found => exact around
  | top => exact around
  | up passed _ ih =>
      rcases List.prefix_concat_iff.mp around with rfl | below
      · rw [passed] at here
        cases here
      · exact ih below

/-- A climb ends at the nearest checkout, unless the top of the tree is the only one around another
directory. -/
theorem Climb.nearest (climb : t.Climb origin n last)
    (elsewhere : t.holdsCheckout [] = true → origin = [] ∨
      ∃ dir, dir <+: origin ∧ dir ≠ [] ∧ t.holdsCheckout dir = true)
    (exists_checkout : ∃ dir, dir <+: origin ∧ t.holdsCheckout dir = true) :
    t.Nearest origin (if last = [] then origin else last) := by
  by_cases top : last = []
  · subst top
    have only {dir : Place} (around : dir <+: origin) (here : t.holdsCheckout dir = true) :
        dir = [] := List.prefix_nil.mp (climb.deepest around here)
    obtain ⟨dir, around, here⟩ := exists_checkout
    obtain rfl := only around here
    rcases elsewhere here with rfl | ⟨dir, around, below, holds⟩
    · exact ⟨List.prefix_rfl, here, fun _ around _ => around⟩
    · exact absurd (only around holds) below
  · rw [if_neg top]
    exact ⟨climb.around, climb.holds.resolve_left top, fun _ => climb.deepest⟩

theorem Climb.eq_nil_of_none (climb : t.Climb origin n last)
    (none : ∀ dir, dir <+: origin → t.holdsCheckout dir = false) : last = [] := by
  rcases climb.holds with top | here
  · exact top
  · rw [none last climb.around] at here
    cases here

/-! ## The search for a checkout -/

theorem ancestors_concat (place : Place) (name : String) :
    Place.ancestors (place ++ [name]) = (place ++ [name]) :: Place.ancestors place := by
  rw [Place.ancestors, List.length_append, List.length_singleton, List.range_succ_eq_map,
    List.map_cons, List.map_map, Place.ancestors]
  congr 1
  · exact List.take_of_length_le (by simp)
  · refine List.map_congr_left fun k _ => ?_
    have bound : place.length - k ≤ place.length := Nat.sub_le _ _
    simp [List.take_append_of_le_length bound]

theorem firstCheckout?_of_climb
    (asks : ∀ dir, dir <+: place → t.isCheckout dir = .ok (t.holdsCheckout dir))
    (climb : t.Climb place n last) :
    t.firstCheckout? (Place.ancestors place) = .ok (if last = [] then none else some last) := by
  induction climb with
  | top => rfl
  | @found place here =>
      rcases List.eq_nil_or_concat place with rfl | ⟨place, name, rfl⟩
      · rfl
      · rw [List.concat_eq_append] at *
        rw [ancestors_concat, firstCheckout?, asks _ List.prefix_rfl, here]
        simp [bind, Except.bind, pure, Except.pure]
  | up passed _ ih =>
      rw [ancestors_concat, firstCheckout?, asks _ List.prefix_rfl, passed]
      exact ih fun dir around => asks dir (around.trans (List.prefix_append _ _))

/-! ## Asking for checkouts -/

theorem spelled_git (spelled : ∀ name ∈ dir, PlaceName name) :
    ∀ name ∈ dir ++ [".git"], PlaceName name := by
  refine List.forall_mem_append.mpr ⟨spelled, List.forall_mem_singleton.mpr ?_⟩
  constructor <;> decide

theorem isCheckout_of_askable (sound : t.Sound) (spelled : ∀ name ∈ dir, PlaceName name)
    (askable : t.Askable (dir ++ [".git"])) : t.isCheckout dir = .ok (t.holdsCheckout dir) := by
  rw [isCheckout, leadsSomewhere, probe_of_askable sound (spelled_git spelled) askable]
  rfl

theorem askable_top (t : FileTree) : t.Askable ([] ++ [".git"]) where
  path := by decide
  names := fits_of_short (by decide)

/-- What can be asked for in a directory can be asked for in all directories around it. -/
theorem Askable.around (h : t.Askable (origin ++ [".git"])) (around : dir <+: origin) :
    t.Askable (dir ++ [".git"]) := by
  obtain ⟨rest, rfl⟩ := around
  constructor
  · have long := h.path
    rw [utf8ByteSize_toString (by simp)] at long ⊢
    simp only [List.map_append, List.sum_append] at long ⊢
    omega
  · intro before name after split directory
    rcases List.eq_nil_or_concat after with rfl | ⟨more, final, rfl⟩
    · obtain ⟨-, same⟩ := List.append_inj' split rfl
      cases same
      decide
    · rw [List.concat_eq_append, ← List.cons_append, ← List.append_assoc] at split
      obtain ⟨rfl, -⟩ := List.append_inj' split rfl
      exact h.names before name (more ++ rest ++ [".git"]) (by simp) directory

/-! ## The start of the search -/

/-- The directory in which a search starts: the one around a file, or else the place itself. -/
def startDirectory (t : FileTree) (place : Place) : Place :=
  match t.get? place with
  | some (.file _) => place.dropLast
  | _ => place

theorem mem_of_mem_startDirectory (known : name ∈ t.startDirectory place) : name ∈ place := by
  unfold startDirectory at known
  split at known
  · exact List.dropLast_subset _ known
  · exact known

/-- A search that has a place to start from: a path that can be resolved in an existing
directory. -/
structure Starts (t : FileTree) (s : String) (place origin : Place) : Prop where
  sound : t.Sound
  home : t.isDirectory t.current = true
  text : isPathText s = true
  place_eq : (ofString s).resolve t.current = place
  origin_eq : t.startDirectory place = origin

variable {s : String}

theorem Starts.resolve_eq (h : t.Starts s place origin) : t.resolve (.ofString s) = .ok place := by
  rw [resolve, isPathText_parts_ofString, if_pos h.text, h.place_eq]

theorem Starts.spelled (h : t.Starts s place origin) : ∀ name ∈ place, PlaceName name :=
  fun _ known => placeName_of_mem_resolve h.sound h.home h.text (h.place_eq ▸ known)

theorem Starts.spelled_origin (h : t.Starts s place origin) : ∀ name ∈ origin, PlaceName name :=
  fun name known => h.spelled name (mem_of_mem_startDirectory (h.origin_eq ▸ known))

/-- Once the start can be asked for, the search begins in its directory. -/
theorem Starts.projectRoot_eq (h : t.Starts s place origin) (askable : t.Askable place) :
    t.projectRoot (.ofString s) =
      (t.firstCheckout? (Place.ancestors origin)).map fun found => found.getD origin := by
  have begun : t.projectRoot (.ofString s) =
      (t.firstCheckout? (Place.ancestors origin)).bind fun found => .ok (found.getD origin) := by
    rw [projectRoot, h.resolve_eq]
    dsimp only [bind, Except.bind, leadsToFile]
    rw [probe_of_askable h.sound h.spelled askable, ← h.origin_eq, startDirectory]
    rcases t.get? place with _ | _ | bytes <;> rfl
  rw [begun]
  cases t.firstCheckout? (Place.ancestors origin) <;> rfl

theorem Starts.projectRoot_of_climb (h : t.Starts s place origin) (askable : t.Askable place)
    (git : t.Askable (origin ++ [".git"])) (climb : t.Climb origin n last) :
    t.projectRoot (.ofString s) = .ok (if last = [] then origin else last) := by
  have asks : ∀ dir, dir <+: origin → t.isCheckout dir = .ok (t.holdsCheckout dir) := by
    intro dir around
    refine isCheckout_of_askable h.sound (fun name known => ?_) (git.around around)
    exact h.spelled_origin name (around.subset known)
  rw [h.projectRoot_eq askable, firstCheckout?_of_climb asks climb]
  split <;> rfl

/-- A start, or a checkout in its directory, that cannot be asked for is a fault. -/
theorem Starts.projectRoot_of_refused (h : t.Starts s place origin)
    (refused : t.Askable place → ¬ t.Askable (origin ++ [".git"])) :
    ∃ message, t.projectRoot (.ofString s) = .error (.file .nameTooLong message) := by
  by_cases askable : t.Askable place
  · have far := refused askable
    have spelled := spelled_git h.spelled_origin
    rw [h.projectRoot_eq askable]
    rcases List.eq_nil_or_concat origin with rfl | ⟨dir, name, rfl⟩
    · exact absurd (askable_top t) far
    · rw [List.concat_eq_append] at *
      rw [ancestors_concat, firstCheckout?, isCheckout, leadsSomewhere,
        probe_of_not_askable h.sound spelled far]
      exact ⟨_, rfl⟩
  · rw [projectRoot, h.resolve_eq]
    dsimp only [bind, Except.bind, leadsToFile]
    rw [probe_of_not_askable h.sound h.spelled askable]
    exact ⟨_, rfl⟩

/-- The root of a project is the nearest checkout around the start, and the start's own directory
if there is none; the climb to it has an end.  Where the top of the tree is the only checkout
around another directory, nothing is said of the root. -/
theorem projectRoot_nearest (t : FileTree) (sound : t.Sound)
    (home : t.isDirectory t.current = true) (s : String) :
    let place := (ofString s).resolve t.current
    let origin := t.startDirectory place
    (isPathText s = false → t.projectRoot (.ofString s) = .error .brokenPath) ∧
    (isPathText s = true → (t.Askable place → ¬ t.Askable (origin ++ [".git"])) →
      ∃ message, t.projectRoot (.ofString s) = .error (.file .nameTooLong message)) ∧
    (isPathText s = true → t.Askable place → t.Askable (origin ++ [".git"]) →
      ∃ root n last, t.projectRoot (.ofString s) = .ok root ∧
        n ≤ origin.length ∧ t.Climb origin n last ∧ (last ≠ [] → root = last) ∧
        ((t.holdsCheckout [] = true → origin = [] ∨
            ∃ dir, dir <+: origin ∧ dir ≠ [] ∧ t.holdsCheckout dir = true) →
          ((∃ dir, dir <+: origin ∧ t.holdsCheckout dir = true) → t.Nearest origin root) ∧
          (root = origin ↔ t.holdsCheckout origin = true ∨
            ∀ dir, dir <+: origin → t.holdsCheckout dir = false))) := by
  intro place origin
  have starts (text : isPathText s = true) : t.Starts s place origin :=
    ⟨sound, home, text, rfl, rfl⟩
  refine ⟨fun broken => ?_, fun text refused => (starts text).projectRoot_of_refused refused,
    fun text askable git => ?_⟩
  · rw [projectRoot, resolve, isPathText_parts_ofString, broken]
    rfl
  · obtain ⟨n, last, le, climb⟩ := exists_climb t origin
    refine ⟨_, n, last, (starts text).projectRoot_of_climb askable git climb, le, climb,
      fun below => if_neg below, fun elsewhere => ⟨climb.nearest elsewhere, ?_⟩⟩
    constructor
    · intro same
      by_cases checkout : ∃ dir, dir <+: origin ∧ t.holdsCheckout dir = true
      · have nearest := climb.nearest elsewhere checkout
        rw [same] at nearest
        exact .inl nearest.holds
      · refine .inr fun dir around => ?_
        simpa using fun here => checkout ⟨dir, around, here⟩
    · rintro (here | none)
      · have nearest := climb.nearest elsewhere ⟨origin, List.prefix_rfl, here⟩
        exact nearest.around.eq_of_length_le
          (nearest.deepest origin List.prefix_rfl here).length_le
      · exact if_pos (climb.eq_nil_of_none none)

/-- A file below two checkouts, one inside the other. -/
theorem projectRoot_nearest_nested :
    let t : FileTree :=
      { entries := [(["r"], .directory), (["r", ".git"], .directory), (["r", "s"], .directory),
          (["r", "s", ".git"], .file []), (["r", "s", "x"], .directory),
          (["r", "s", "x", "A.mac"], .file [])]
        current := ["r"] }
    t.Sound ∧ t.isDirectory t.current = true ∧ isPathText "s/x/A.mac" = true ∧
      t.Askable ["r", "s", "x", "A.mac"] ∧ t.Askable ["r", "s", "x", ".git"] ∧
      t.holdsCheckout [] = false ∧
      ∃ root, t.projectRoot (.ofString "s/x/A.mac") = .ok root ∧
        t.Nearest ["r", "s", "x"] root ∧ root ≠ ["r", "s", "x"] := by
  intro t
  have sound : t.Sound := by constructor <;> decide
  have file : t.Askable ["r", "s", "x", "A.mac"] := ⟨by decide, fits_of_short (by decide)⟩
  have git : t.Askable ["r", "s", "x", ".git"] := ⟨by decide, fits_of_short (by decide)⟩
  have bare : t.holdsCheckout [] = false := by decide
  have text : isPathText "s/x/A.mac" = true := by decide
  have place : (ofString "s/x/A.mac").resolve t.current = ["r", "s", "x", "A.mac"] := by
    decide +kernel
  obtain ⟨-, -, finds⟩ := projectRoot_nearest t sound (by decide) "s/x/A.mac"
  rw [place] at finds
  obtain ⟨root, n, last, found, -, -, -, nearest⟩ := finds text file git
  obtain ⟨nearest, -⟩ := nearest fun top => absurd top (by simp [bare])
  have around := nearest ⟨["r"], by decide, by decide⟩
  refine ⟨sound, by decide, text, file, git, bare, root, found, around, ?_⟩
  rintro rfl
  have here := around.holds
  revert here
  decide

/-- The search fails for a start whose name is too long, although there is no checkout anywhere, and
passes over a checkout at the top of the tree. -/
theorem projectRoot_limits :
    let bare : FileTree := { entries := [] }
    let t : FileTree := { entries := [([".git"], .directory), (["a"], .directory)] }
    bare.Sound ∧ (∃ f, bare.projectRoot (.ofString (Place.toString overlong)) = .error f) ∧
      t.Sound ∧ t.holdsCheckout [] = true ∧ t.holdsCheckout ["a"] = false ∧
      t.projectRoot (.ofString "/a") = .ok ["a"] := by
  intro bare t
  have sound : bare.Sound := by constructor <;> decide
  have spelled : ∀ name ∈ overlong, PlaceName name := fun _ => placeName_of_mem_overlong
  have reread := (plain_of_spelled spelled).ofString_toString
  have text : isPathText (Place.toString overlong) = true :=
    (isPathText_toString (plain_of_spelled spelled)).trans (isPathText_of_spelled spelled)
  have place : (ofString (Place.toString overlong)).resolve bare.current = overlong := by
    rw [Place.toString, reread]
    exact follow_downward fun parent => (spelled _ parent).notParent rfl
  have starts : bare.Starts (Place.toString overlong) overlong _ :=
    ⟨sound, rfl, text, place, rfl⟩
  obtain ⟨message, failed⟩ := starts.projectRoot_of_refused
    fun askable => absurd askable (not_askable_overlong bare)
  exact ⟨sound, ⟨_, failed⟩, by constructor <;> decide, by decide, by decide, by decide +kernel⟩

end FileTree

end RefNav
