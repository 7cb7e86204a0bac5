import RefNav.Chain
import RefNav.Proofs.Exchange

/-! # The course of a chain

A chain asks its strategies one after another.  Of each that names no location the caller is told
before the next one is asked; the first that names a location ends the chain.
-/

namespace RefNav

theorem Answer.isHit_iff {answer : Answer} : answer.isHit = true ↔ answer.locations ≠ [] := by
  cases answer <;> simp [isHit, locations]

/-- Whenever it is asked, the strategy gives an answer. -/
def Strategy.Answers (s : Strategy) : Prop :=
  ∀ x, ∃ answer y, s.ask.runOn x = (.ok answer, y)

namespace Chain

/-! ## Moves -/

/-- One thing that a chain does. -/
inductive Move where
  /-- A strategy is asked and gives an answer. -/
  | ask (s : Strategy) (answer : Answer)
  /-- The caller is told of a strategy. -/
  | tell (s : Strategy)

/-- The move leads from one exchange to another. -/
def Move.Leads (onMiss : Strategy → Act Unit) : Move → Exchange → Exchange → Prop
  | .ask s answer, x, y => s.ask.runOn x = (.ok answer, y)
  | .tell s, x, y => (onMiss s).runOn x = (.ok (), y)

/-- The moves lead from one exchange to another, one after the other. -/
inductive Course (onMiss : Strategy → Act Unit) : Exchange → List Move → Exchange → Prop where
  | nil (x : Exchange) : Course onMiss x [] x
  | cons {x y z : Exchange} {move : Move} {moves : List Move} :
      move.Leads onMiss x y → Course onMiss y moves z → Course onMiss x (move :: moves) z

/-- What a chain does about the strategies that it passes over: each is asked, and the caller is
told of it. -/
def passing (passed : List (Strategy × Answer)) : List Move :=
  passed.flatMap fun p => [.ask p.1 p.2, .tell p.1]

/-- How a chain ends: with the first answer that names a location, or behind its last strategy
with the answer of that one, if there is one.  The strategies in front were passed over, and those
behind were not asked. -/
inductive Ends (onMiss : Strategy → Act Unit) (before : Answer) (strategies : List Strategy)
    (x : Exchange) : Answer → Exchange → Prop where
  | hit (passed : List (Strategy × Answer)) {s : Strategy} {rest : List Strategy}
      {answer : Answer} {y : Exchange} (split : strategies = passed.map Prod.fst ++ s :: rest)
      (missed : ∀ p ∈ passed, p.2.locations = []) (found : answer.locations ≠ [])
      (course : Course onMiss x (passing passed ++ [.ask s answer]) y) :
      Ends onMiss before strategies x answer y
  | miss (passed : List (Strategy × Answer)) {y : Exchange}
      (split : strategies = passed.map Prod.fst) (missed : ∀ p ∈ passed, p.2.locations = [])
      (course : Course onMiss x (passing passed) y) :
      Ends onMiss before strategies x ((passed.map Prod.snd).getLastD before) y

variable {onMiss : Strategy → Act Unit} {s : Strategy} {answer result : Answer}
  {rest : List Strategy} {w x y z : Exchange}

/-! ## Steps -/

theorem runFrom_of_hit (asked : s.ask.runOn x = (.ok answer, y)) (hit : answer.locations ≠ [])
    (before : Answer) : (runFrom onMiss before (s :: rest)).runOn x = (.ok answer, y) := by
  rw [runFrom, Act.runOn_bind_of_ok asked, if_pos (Answer.isHit_iff.mpr hit)]
  rfl

theorem runFrom_of_miss (asked : s.ask.runOn x = (.ok answer, y)) (miss : answer.locations = [])
    (told : (onMiss s).runOn y = (.ok (), z)) (before : Answer) :
    (runFrom onMiss before (s :: rest)).runOn x = (runFrom onMiss answer rest).runOn z := by
  have noHit : ¬ answer.isHit = true := fun hit => Answer.isHit_iff.mp hit miss
  rw [runFrom, Act.runOn_bind_of_ok asked, if_neg noHit]
  exact Act.runOn_bind_of_ok told _

/-- A strategy that was passed over is one more in front. -/
theorem Ends.cons (asked : s.ask.runOn x = (.ok answer, y)) (none : answer.locations = [])
    (told : (onMiss s).runOn y = (.ok (), z)) (h : Ends onMiss answer rest z result w)
    (before : Answer) : Ends onMiss before (s :: rest) x result w := by
  have passes {moves : List Move} (course : Course onMiss z moves w) :
      Course onMiss x (.ask s answer :: .tell s :: moves) w := .cons asked (.cons told course)
  cases h with
  | hit passed split missed found course =>
      exact .hit ((s, answer) :: passed) (by rw [split]; rfl)
        (List.forall_mem_cons.mpr ⟨none, missed⟩) found (passes course)
  | miss passed split missed course =>
      have last : (passed.map Prod.snd).getLastD answer =
          (((s, answer) :: passed).map Prod.snd).getLastD before := List.getLastD_cons.symm
      rw [last]
      exact .miss ((s, answer) :: passed) (by rw [split]; rfl)
        (List.forall_mem_cons.mpr ⟨none, missed⟩) (passes course)

/-! ## Runs -/

theorem runFrom_ends {strategies : List Strategy} (answering : ∀ s ∈ strategies, s.Answers)
    (returning : ∀ s ∈ strategies, ∀ x, ∃ y, (onMiss s).runOn x = (.ok (), y))
    (before : Answer) (x : Exchange) :
    ∃ result y, (runFrom onMiss before strategies).runOn x = (.ok result, y) ∧
      Ends onMiss before strategies x result y := by
  induction strategies generalizing before x with
  | nil => exact ⟨before, x, rfl, .miss [] rfl nofun (.nil x)⟩
  | cons s rest ih =>
      obtain ⟨answers, later⟩ := List.forall_mem_cons.mp answering
      obtain ⟨returns, laterReturns⟩ := List.forall_mem_cons.mp returning
      obtain ⟨answer, y, asked⟩ := answers x
      by_cases none : answer.locations = []
      · obtain ⟨z, told⟩ := returns y
        obtain ⟨result, w, runs, ends⟩ := ih later laterReturns answer z
        exact ⟨result, w, (runFrom_of_miss asked none told before).trans runs,
          ends.cons asked none told before⟩
      · exact ⟨answer, y, runFrom_of_hit asked none before,
          .hit [] rfl nofun none (.cons asked (.nil y))⟩

/-- A chain of strategies that always answer asks them in order, up to and with the first that
names a location, and its answer is the result.  Before a next one is asked, the caller is told of
the one that was asked in vain.  If all were, the answer of the last one stands as it is; without
strategies there is nothing. -/
theorem run_asks_until_hit (onMiss : Strategy → Act Unit) (strategies : List Strategy)
    (answering : ∀ s ∈ strategies, s.Answers)
    (returning : ∀ s ∈ strategies, ∀ x, ∃ y, (onMiss s).runOn x = (.ok (), y)) (x : Exchange) :
    ∃ result y, (run onMiss strategies).runOn x = (.ok result, y) ∧
      Ends onMiss .nothing strategies x result y :=
  runFrom_ends answering returning .nothing x

/-- The first strategy has nothing, the second an empty list, and the fourth is not asked. -/
theorem run_asks_until_hit_third :
    let strategy (name : String) (answer : Answer) : Strategy :=
      { name, ask := do Act.tell (.asked name); return answer }
    let found : Answer := .many [⟨"/ws/A.mac", 3, 0⟩]
    let strategies := [strategy "a" .nothing, strategy "b" (.many []), strategy "c" found,
      strategy "d" found]
    let onMiss (s : Strategy) : Act Unit := Act.tell (.passed s.name)
    let x : Exchange := { server := Server.ofReplies [] [] }
    ∃ y, (run onMiss strategies).runOn x = (.ok found, y) ∧
      Ends onMiss .nothing strategies x found y ∧
        y.notices = [.asked "a", .passed "a", .asked "b", .passed "b", .asked "c"] := by
  intro strategy found strategies onMiss x
  have answers (name : String) (answer : Answer) : (strategy name answer).Answers :=
    fun x => ⟨answer, x.add (.notice (.asked name)), rfl⟩
  obtain ⟨result, y, runs, ends⟩ := run_asks_until_hit onMiss strategies
    (by simp [strategies, answers]) (fun s _ x => ⟨x.add (.notice (.passed s.name)), rfl⟩) x
  cases runs
  exact ⟨_, rfl, ends, rfl⟩

end Chain

end RefNav
