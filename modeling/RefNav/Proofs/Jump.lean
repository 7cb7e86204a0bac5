import RefNav.FileTree.Basic
import RefNav.Jump.Resolve
import RefNav.Proofs.Dialogue
import RefNav.Proofs.Remote.Cancellation
import RefNav.Proofs.Text.Lines

/-! # Jumps

A jump looks up the label first.  If it is found, its document is opened and one line
of it is shown, or one warning says that it cannot be opened.  If it is not found, a
lookup of the routine decides between the two warnings that explain why.
-/

namespace RefNav

/-! ## Lines that exist -/

/-- The document was made from a text or read from a file. -/
def Document.Made (d : Document) : Prop :=
  (∃ uri text, d = Document.ofText uri text) ∨
    ∃ (t : FileTree) (path : PathName), t.document path = .ok d

theorem Document.Made.lines_ne_nil {d : Document} (made : d.Made) : d.lines ≠ [] := by
  rcases made with ⟨uri, text, rfl⟩ | ⟨t, path, read⟩
  · exact lines_ofText_ne_nil uri text
  · unfold FileTree.document at read
    split at read
    · cases read
      exact lines_ofText_ne_nil _ _
    · cases read

theorem clampLine_lastLine (line : Int) (d : Document) :
    clampLine line d.lastLine = min (d.lastLine : Int) (max 0 line) := by
  unfold clampLine
  omega

/-- A line kept within a document is a line of it. -/
theorem Document.exists_lineAt {d : Document} (nonempty : d.lines ≠ []) (line : Int) :
    ∃ text, d.lineAt (min (d.lastLine : Int) (max 0 line)) = .ok text := by
  have some_line : 0 < d.lines.length := List.length_pos_iff.mpr nonempty
  obtain ⟨n, hn⟩ : ∃ n : Nat, min (d.lastLine : Int) (max 0 line) = n :=
    Int.eq_ofNat_of_zero_le (by omega)
  have inside : n < d.lines.length := by
    unfold lastLine at hn
    omega
  rw [hn]
  exact ⟨d.lines[n], lineAt_of_getElem? (List.getElem?_eq_getElem inside)⟩

namespace Jumper

open Exchange

/-! ## Watched callbacks -/

/-- A jumper whose callbacks tell of each call what they were called with. -/
def watched (resolver : Resolver) (connection : Document → Connection)
    (opens : String → Except Fault Document) (reveals notifies : Bool) : Jumper :=
  { resolver
    connectionFor := fun d => return connection d
    openDocument := fun uri => do
      Act.tell (.opened uri)
      Act.ofExcept (opens uri)
    reveal := if reveals then some fun l => Act.tell (.revealed l) else none
    notify := if notifies then some fun message => Act.tell (.warned message) else none }

/-- What comes of showing a place. -/
def shown (reveals : Bool) (l : Location) : List Notice :=
  if reveals then [.revealed l] else []

/-- What comes of a warning. -/
def warning (notifies : Bool) (message : String) : List Notice :=
  if notifies then [.warned message] else []

/-- Log records aside, a run comes to an outcome and to `x` with its caller told some
notices. -/
def EndsWith {α : Type} (run : Except Fault α × Exchange) (outcome : Except Fault α)
    (x : Exchange) (notices : List Notice) : Prop :=
  run.1 = outcome ∧ run.2.unlogged = (x.told notices).unlogged

variable {resolver : Resolver} {connection : Document → Connection}
  {opens : String → Except Fault Document} {reveals notifies bound : Bool}
  {a : Address} {d target : Document} {l : Location} {f : Fault} {x y z : Exchange}

theorem EndsWith.steps_eq {α : Type} {run : Except Fault α × Exchange}
    {outcome : Except Fault α} {notices : List Notice} (h : EndsWith run outcome x notices) :
    run.2.steps = x.steps := by
  rw [steps_congr h.2, steps_told]

theorem EndsWith.notices_eq {α : Type} {run : Except Fault α × Exchange}
    {outcome : Except Fault α} {notices : List Notice} (h : EndsWith run outcome x notices) :
    run.2.notices = x.notices ++ notices := by
  rw [notices_congr h.2, notices_told]

theorem EndsWith.of_unlogged {α : Type} {outcome : Except Fault α} {notices : List Notice}
    (same : y.unlogged = x.unlogged) : EndsWith (outcome, y.told notices) outcome x notices := by
  refine ⟨rfl, ?_⟩
  rw [unlogged_told, unlogged_told, same]

theorem EndsWith.of_told {α : Type} {run : Except Fault α × Exchange} {outcome : Except Fault α}
    {first second : List Notice} (h : EndsWith run outcome (x.told first) second) :
    EndsWith run outcome x (first ++ second) := by
  unfold EndsWith at h ⊢
  rwa [told_told] at h

theorem runOn_warn_watched (message : String) (x : Exchange) :
    ((watched resolver connection opens reveals notifies).warn message).runOn x =
      (.ok (), (x.add (.log ⟨.debug, .jump, "Jump warning: " ++ message⟩)).told
        (warning notifies message)) := by
  cases notifies with
  | false =>
      change (Except.ok (), x.add _) = _
      simp [warning, told]
  | true => rfl

/-! ## The document of a label that was found -/

theorem runOn_outcome_open (uri : String) (x : Exchange) :
    (Act.outcome ((watched resolver connection opens reveals notifies).openDocument uri)).runOn x =
      (.ok (opens uri), x.told [.opened uri]) := rfl

theorem endsWith_land_of_opened (opened : opens l.uri = .ok target) (x : Exchange) :
    let place : Location :=
      { uri := l.uri, line := min (target.lastLine : Int) (max 0 (l.line + a.offset)) }
    EndsWith (((watched resolver connection opens reveals notifies).land a l).runOn x)
      (.ok (some (.resolved place))) x (.opened l.uri :: shown reveals place) := by
  intro place
  unfold land
  rw [Act.runOn_bind_of_ok (runOn_outcome_open l.uri x), opened]
  dsimp only
  rw [clampLine_lastLine]
  cases reveals with
  | false => exact .of_unlogged rfl
  | true =>
      have shows : EndsWith (.ok (some (JumpOutcome.resolved place)),
          (x.told [.opened l.uri]).told [.revealed place]) _ _ [.revealed place] :=
        .of_unlogged rfl
      exact shows.of_told

theorem endsWith_land_of_refused (refused : opens l.uri = .error f) (system : f.isSystem = true)
    (x : Exchange) :
    EndsWith (((watched resolver connection opens reveals notifies).land a l).runOn x)
      (.ok none) x
      (.opened l.uri :: warning notifies ("Could not open routine '" ++ a.routine ++ "'.")) := by
  unfold land
  rw [Act.runOn_bind_of_ok (runOn_outcome_open l.uri x), refused]
  simp only [system, if_true]
  rw [Act.runOn_bind_of_ok (Act.runOn_debug _ _ _), Act.runOn_bind_of_ok (runOn_warn_watched _ _)]
  refine EndsWith.of_told (?_ : EndsWith _ _ (x.told [.opened l.uri]) _)
  refine EndsWith.of_unlogged ?_
  rw [unlogged_add_log, unlogged_add_log]

theorem runOn_land_of_failed (failed : opens l.uri = .error f) (other : f.isSystem = false)
    (x : Exchange) :
    ((watched resolver connection opens reveals notifies).land a l).runOn x =
      (.error f, x.told [.opened l.uri]) := by
  unfold land
  rw [Act.runOn_bind_of_ok (runOn_outcome_open l.uri x), failed]
  simp only [other]
  rfl

theorem steps_land (a : Address) (l : Location) (x : Exchange) :
    (((watched resolver connection opens reveals notifies).land a l).runOn x).2.steps =
      x.steps := by
  cases opened : opens l.uri with
  | ok target => exact (endsWith_land_of_opened opened x).steps_eq
  | error f =>
      cases system : f.isSystem with
      | true => exact (endsWith_land_of_refused opened system x).steps_eq
      | false => rw [runOn_land_of_failed opened system, steps_told]

/-! ## The two lookups -/

/-- Why a label was not found, from what the lookup of its routine gave. -/
def explanation (a : Address) : Option Location → JumpOutcome
  | some _ => .labelNotFound a.routine a.label
  | none => .routineNotFound a.routine

theorem runOn_jump_of_found
    (found : (resolver.lookup a.query (connection d) bound none).runOn x = (.ok (some l), y)) :
    ((watched resolver connection opens reveals notifies).jump a (some d) bound).runOn x =
      ((watched resolver connection opens reveals notifies).land a l).runOn y :=
  Act.runOn_bind_of_ok found _

theorem runOn_explainMiss {found : Option Location}
    (looked : (resolver.lookup ("^" ++ a.routine) (connection d) false none).runOn y =
      (.ok found, z)) :
    ((watched resolver connection opens reveals notifies).explainMiss a (connection d)).runOn y =
      (.ok (explanation a found), z) := by
  cases found <;> exact Act.runOn_bind_of_ok looked _

theorem endsWith_jump_of_missed {found : Option Location}
    (missed : (resolver.lookup a.query (connection d) bound none).runOn x = (.ok none, y))
    (looked : (resolver.lookup ("^" ++ a.routine) (connection d) false none).runOn y =
      (.ok found, z)) :
    EndsWith
      (((watched resolver connection opens reveals notifies).jump a (some d) bound).runOn x)
      (.ok (some (explanation a found))) z
      (warning notifies (explanation a found).message) := by
  have second : ((watched resolver connection opens reveals notifies).jump a (some d) bound).runOn
      x = _ := Act.runOn_bind_of_ok missed _
  rw [second]
  dsimp only
  rw [Act.runOn_bind_of_ok (runOn_explainMiss looked),
    Act.runOn_bind_of_ok (runOn_warn_watched _ _)]
  exact .of_unlogged (unlogged_add_log _ _)

/-- A jump looks up the label of its address first and the routine exactly if that gives
nothing.  A label that is found is shown within its document, opened once; a document
that the system cannot open and a label that is not found are worth one warning. -/
theorem jump_two_phase (resolver : Resolver) (connection : Document → Connection)
    (opens : String → Except Fault Document) (reveals notifies : Bool) (a : Address)
    (bound : Bool) (x : Exchange) :
    let jump (source : Option Document) :=
      ((watched resolver connection opens reveals notifies).jump a source bound).runOn x
    jump none = (.ok none, x) ∧
    ∀ d,
      let run := jump (some d)
      let first :=
        (resolver.lookup (a.label ++ "^" ++ a.routine) (connection d) bound none).runOn x
      let lookupRoutine := resolver.lookup ("^" ++ a.routine) (connection d) false none
      let second := lookupRoutine.runOn first.2
      (∃ sent, first.2.requests = x.requests ++ sent ∧
        ∀ q ∈ sent, q.Asks (a.label ++ "^" ++ a.routine)) ∧
      (∀ l, first.1 = .ok (some l) →
        run.2.steps = first.2.steps ∧
        (∀ target, opens l.uri = .ok target →
          let line := min (target.lastLine : Int) (max 0 (l.line + a.offset))
          run.1 = .ok (some (.resolved ⟨l.uri, line, 0⟩)) ∧
          run.2.notices = x.notices ++ .opened l.uri :: shown reveals ⟨l.uri, line, 0⟩ ∧
          (target.Made → ∃ text, target.lineAt line = .ok text)) ∧
        (∀ f, opens l.uri = .error f → f.isSystem = true →
          run.1 = .ok none ∧
          run.2.notices = x.notices ++ .opened l.uri ::
            warning notifies ("Could not open routine '" ++ a.routine ++ "'.")) ∧
        (∀ f, opens l.uri = .error f → f.isSystem = false →
          run.1 = .error f ∧ run.2.notices = x.notices ++ [.opened l.uri])) ∧
      (first.1 = .ok none →
        (∃ sent, second.2.requests = first.2.requests ++ sent ∧
          ∀ q ∈ sent, q.Asks ("^" ++ a.routine)) ∧
        second.1 = (lookupRoutine.runOn (Resolver.calmed first.2)).1 ∧
        ∀ found, second.1 = .ok found →
          run.2.steps = second.2.steps ∧
          run.1 = .ok (some (explanation a found)) ∧
          run.2.notices = x.notices ++ warning notifies (explanation a found).message) := by
  intro jump
  refine ⟨rfl, fun d => ?_⟩
  intro run first lookupRoutine second
  have saidFirst : x.Speaks (Request.Asks (a.label ++ "^" ++ a.routine)) first.2 :=
    (resolver.dialogue_lookup _ (connection d) bound none).speaks x
  have saidSecond : first.2.Speaks (Request.Asks ("^" ++ a.routine)) second.2 :=
    (resolver.dialogue_lookup _ (connection d) false none).speaks first.2
  refine ⟨saidFirst.exists_requests, fun l found => ?_, fun missed => ?_⟩
  · have landed : run = ((watched resolver connection opens reveals notifies).land a l).runOn
        first.2 := runOn_jump_of_found (Prod.ext found rfl)
    rw [← saidFirst.notices_eq, landed]
    refine ⟨steps_land a l first.2, fun target opened => ?_, fun f refused system => ?_,
      fun f failed other => ?_⟩
    · intro line
      have ends : EndsWith (((watched resolver connection opens reveals notifies).land a l).runOn
          first.2) _ _ _ := endsWith_land_of_opened opened first.2
      exact ⟨ends.1, ends.notices_eq, fun made => target.exists_lineAt made.lines_ne_nil _⟩
    · have ends : EndsWith (((watched resolver connection opens reveals notifies).land a l).runOn
          first.2) _ _ _ := endsWith_land_of_refused refused system first.2
      exact ⟨ends.1, ends.notices_eq⟩
    · rw [runOn_land_of_failed failed other, notices_told]
      exact ⟨rfl, rfl⟩
  · refine ⟨saidSecond.exists_requests, ?_, fun found looked => ?_⟩
    · exact (resolver.lookup_unbound _ (connection d) none first.2).1
    · have ends : EndsWith run _ second.2 _ :=
        endsWith_jump_of_missed (Prod.ext missed rfl) (Prod.ext looked rfl)
      rw [← saidFirst.notices_eq, ← saidSecond.notices_eq]
      exact ⟨ends.steps_eq, ends.1, ends.notices_eq⟩

theorem jump_two_phase_clamped :
    let connection : Connection :=
      { active := .bool true, namespaceName := .str "USER", host := .str "iris.local",
        port := .int 52773, username := .str "dev", password := .str "secret" }
    let d := Document.ofText "/ws/Caller.mac" "Caller"
    let target := Document.ofText "/ws/Foo.mac" "Foo\n quit\nStart\n quit"
    let answer := Reply.response 200 "\x7b\"uri\": \"/ws/Foo.mac\", \"line\": 3\x7d"
    let x : Exchange := { server := Server.ofReplies [] [.timeout, answer] }
    let run := ((watched {} (fun _ => connection) (fun _ => .ok target) true true).jump
      ⟨"Foo", "Start", 7⟩ (some d) true).runOn x
    run.1 = .ok (some (.resolved ⟨"/ws/Foo.mac", 3, 0⟩)) ∧
      run.2.notices = [.opened "/ws/Foo.mac", .revealed ⟨"/ws/Foo.mac", 3, 0⟩] ∧
      ∃ text, target.lineAt 3 = .ok text := by
  intro connection d target answer x run
  obtain ⟨_, found, _⟩ := (jump_two_phase {} (fun _ => connection) (fun _ => .ok target) true true
    ⟨"Foo", "Start", 7⟩ true x).2 d
  have answered : ((Resolver.lookup {} "Start^Foo" connection true none).runOn x).1.toOption =
      some (some ⟨"/ws/Foo.mac", 2, 0⟩) := by
    decide +kernel
  obtain ⟨outcome, told, exists_line⟩ :=
    (found ⟨"/ws/Foo.mac", 2, 0⟩ (eq_ok_of_toOption answered)).2.1 target rfl
  exact ⟨outcome, told, exists_line (.inl ⟨_, _, rfl⟩)⟩

end Jumper

end RefNav
