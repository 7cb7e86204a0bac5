import RefNav.Command.Invocation
import RefNav.Proofs.Provider

/-! # The search for a definition

Log records aside, what a provider of the command line does is a plain search: it finds out the
settings and the root of the local search, asks the server for the reference at the place if
there is one, and scans the workspace if that gave nothing.
-/

namespace RefNav

/-! ## Operations that only log -/

@[simp]
theorem Exchange.told_nil (x : Exchange) : x.told [] = x := by
  simp [told]

namespace Act

variable {α β : Type}

theorem runOn_tell (n : Notice) (x : Exchange) : (tell n).runOn x = (.ok (), x.told [n]) := rfl

/-- What comes to an end did so step by step. -/
theorem of_runOn_bind {act : Act α} {f : α → Act β} {x z : Exchange} {b : β}
    (h : (act >>= f).runOn x = (.ok b, z)) :
    ∃ a y, act.runOn x = (.ok a, y) ∧ (f a).runOn y = (.ok b, z) := by
  rw [runOn_bind] at h
  rcases first : act.runOn x with ⟨outcome, y⟩
  rw [first] at h
  cases outcome with
  | ok a => exact ⟨a, y, rfl, h⟩
  | error fault => cases h

theorem Agrees.ofExcept (outcome : Except Fault α) :
    Agrees (Act.ofExcept outcome) (Act.ofExcept outcome) :=
  AgreesUpTo.of_outcome outcome

theorem Agrees.writeAll (records : List LogRecord) :
    Agrees (Act.writeAll records) (Pure.pure ()) := by
  intro x y hxy
  refine ⟨rfl, ?_⟩
  have logs : (records.map Event.log).filter (fun e => !e.isLog) = [] := by
    simp [Event.isLog, Event.log?]
  have grown : ((Act.writeAll records).runOn x).2.unlogged = x.unlogged := by
    change Exchange.unlogged { x with trace := x.trace ++ records.map Event.log } = _
    simp [Exchange.unlogged, logs]
  rw [grown, hxy]
  rfl

/-- Log records aside, a computation that logs comes down to its outcome. -/
theorem Agrees.ofLogged (m : Logged α) : Agrees (Act.ofLogged m) (Act.ofExcept m.outcome.1) := by
  have agreed : Agrees (Act.writeAll m.outcome.2 >>= fun _ => Act.ofExcept m.outcome.1)
      (Pure.pure () >>= fun _ => Act.ofExcept m.outcome.1) :=
    (Agrees.writeAll m.outcome.2).bind fun _ => .ofExcept _
  rwa [pure_bind] at agreed

theorem Agrees.tell (n : Notice) : Agrees (Act.tell n) (Act.tell n) := by
  intro x y hxy
  refine ⟨rfl, ?_⟩
  rw [runOn_tell, runOn_tell, Exchange.unlogged_told, Exchange.unlogged_told, hxy]

/-- What agrees with something agrees with itself. -/
theorem Agrees.self {a b : Act α} (h : Agrees a b) : Agrees a a :=
  h.trans h.symm

end Act

/-! ## The search for a definition -/

/-- What was found for a place: the server's answer, or what the workspace has. -/
inductive Findings where
  | server (l : Location)
  | workspace (found : List Location)
deriving Repr, DecidableEq

namespace Findings

def locations : Findings → List Location
  | .server l => [l]
  | .workspace found => found

/-- Who the locations are from. -/
def source : Findings → Json
  | .server _ => .str "remote"
  | .workspace [] => .null
  | .workspace (_ :: _) => .str "fallback"

/-- The findings as an answer. -/
def answer : Findings → Answer
  | .server l => .one l
  | .workspace found => .many found

@[simp]
theorem locations_answer (found : Findings) : found.answer.locations = found.locations := by
  cases found <;> rfl

end Findings

namespace Invocation

open Act (Agrees)

/-- Find out where to search locally, and ask the server for the reference at a place if there
is one. -/
def ask (i : Invocation) (path : String) (workspace : Option String) (d : Document)
    (position : Position) : Act (PathName × Option Location) := do
  let settings ← i.settingsFor path
  let root ← Act.ofExcept (i.searchRoot workspace)
  match Provider.referenceAt d position with
  | none => return (root, none)
  | some r =>
      let connection ← i.connectionFor d
      return (root, ← settings.resolver.lookup r.query connection false none)

/-- Search for the definition at a place: on the server, then in the workspace. -/
def search (i : Invocation) (path : String) (workspace : Option String) (d : Document)
    (position : Position) : Act Findings := do
  match ← i.ask path workspace d position with
  | (_, some l) => return .server l
  | (root, none) =>
      let (found, _) ← Act.ofExcept (localDefinitions i.tree root d position)
      return .workspace found

/-- Search for the definition at a place as a provider does that is told of a miss. -/
def provide (i : Invocation) (told : Option (Reference → Act Unit)) (path : String)
    (workspace : Option String) (d : Document) (position : Position) : Act Answer := do
  let settings ← i.settingsFor path
  let provider ← i.provider settings workspace true
  { provider with onNoResult := told }.define d position false

/-- Tell of a miss if there was something to ask for. -/
def tellMiss (told : Option (Reference → Act Unit)) (reference : Option Reference) : Act Unit :=
  match told, reference with
  | some told, some r => told r
  | _, _ => return ()

variable {i : Invocation} {told : Option (Reference → Act Unit)} {path : String}
  {workspace : Option String} {d : Document} {position : Position}

theorem settingsFor_agrees (i : Invocation) (path : String) :
    Agrees (i.settingsFor path) (i.settingsFor path) :=
  (Agrees.ofExcept _).bind fun _ => (Agrees.ofExcept _).bind fun _ => (Agrees.ofLogged _).self

theorem connectionFor_agrees (i : Invocation) (d : Document) :
    Agrees (i.connectionFor d) (i.connectionFor d) :=
  (Agrees.ofLogged _).self

/-- The local search of an operation that is not bound to the caller's token. -/
theorem localFallback_agrees (t : FileTree) (root : PathName) (d : Document)
    (position : Position) :
    Agrees (localFallback t root d position false) (do
      let (found, _) ← Act.ofExcept (localDefinitions t root d position)
      return .many found) := by
  refine (Agrees.ofExcept (localDefinitions t root d position)).bind fun ⟨found, log⟩ => ?_
  have agreed : Agrees (Act.writeAll log >>= fun _ => pure (Answer.many found))
      (pure () >>= fun _ => pure (Answer.many found)) :=
    (Agrees.writeAll log).bind fun _ => .pure _
  rwa [pure_bind] at agreed

/-- Bound to a token, the local search is not begun once the token is cancelled. -/
theorem runOn_localFallback_bound (t : FileTree) (root : PathName) (d : Document)
    (position : Position) (x : Exchange) :
    (localFallback t root d position true).runOn x =
      if x.token.cancelled then (.ok (.many []), x)
      else (localFallback t root d position false).runOn x := by
  unfold localFallback
  simp only [Bool.true_and, Bool.false_and, Bool.false_eq_true, if_false]
  rw [Act.runOn_bind, Act.runOn_bind, Act.runOn_get]
  dsimp only
  split <;> rfl

theorem localFallback_blind (t : FileTree) (root : PathName) (d : Document)
    (position : Position) (bound : Bool) :
    Agrees (localFallback t root d position bound) (localFallback t root d position bound) := by
  have unbound := (localFallback_agrees t root d position).self
  cases bound with
  | false => exact unbound
  | true =>
      intro x y hxy
      have token : x.token = y.token := (congrArg Exchange.token hxy :)
      rw [runOn_localFallback_bound, runOn_localFallback_bound, token]
      split
      · exact ⟨rfl, hxy⟩
      · exact unbound x y hxy

/-- The provider of an invocation whose local search starts at a root. -/
def providerAt (i : Invocation) (told : Option (Reference → Act Unit)) (settings : Settings)
    (root : PathName) : Provider :=
  { resolver := settings.resolver
    connectionFor := i.connectionFor
    fallback := some (localFallback i.tree root)
    onNoResult := told
    traced := settings.debugResolver }

theorem provide_eq : i.provide told path workspace d position = (do
    let settings ← i.settingsFor path
    let root ← Act.ofExcept (i.searchRoot workspace)
    (i.providerAt told settings root).define d position false) := by
  unfold provide provider fallback
  cases i.searchRoot workspace <;> rfl

theorem logBlind_providerAt (i : Invocation)
    (blind : ∀ r, Agrees (tellMiss told (some r)) (tellMiss told (some r))) (settings : Settings)
    (root : PathName) : (i.providerAt told settings root).LogBlind where
  connectionFor := i.connectionFor_agrees
  fallBack := localFallback_blind i.tree root
  tellMissed r := by
    have agreed := blind r
    cases told <;> exact agreed

/-- Log records aside, providing a definition is asking the server, and searching locally where
it has nothing. -/
theorem provide_agrees (blind : ∀ r, Agrees (tellMiss told (some r)) (tellMiss told (some r))) :
    Agrees (i.provide told path workspace d position) (do
      match ← i.ask path workspace d position with
      | (_, some l) => return .one l
      | (root, none) => do
          tellMiss told (Provider.referenceAt d position)
          let (found, _) ← Act.ofExcept (localDefinitions i.tree root d position)
          return .many found) := by
  rw [provide_eq]
  unfold ask
  simp only [bind_assoc]
  refine (i.settingsFor_agrees path).bind fun settings => (Agrees.ofExcept _).bind fun root => ?_
  have followed := (i.logBlind_providerAt blind settings root).define_agrees d position false
  refine followed.trans ?_
  unfold Provider.course
  cases Provider.referenceAt d position with
  | none =>
      have silent : tellMiss told none = pure () := by cases told <;> rfl
      simp only [pure_bind, silent]
      exact localFallback_agrees i.tree root d position
  | some r =>
      simp only [bind_assoc, pure_bind, Provider.askServer]
      refine (i.connectionFor_agrees d).bind fun connection => ?_
      refine (settings.resolver.dialogue_lookup r.query connection false none).agrees.bind
        fun found => ?_
      cases found with
      | some l => exact .pure _
      | none =>
          have telling : (i.providerAt told settings root).tellMissed r =
              tellMiss told (some r) := by
            cases told <;> rfl
          rw [telling]
          exact (blind r).bind fun _ => localFallback_agrees i.tree root d position

end Invocation

/-! ## What a search comes to -/

/-- The operation tells its caller nothing. -/
def Act.Untold {α : Type} (act : Act α) : Prop :=
  ∀ x, (act.runOn x).2.notices = x.notices

namespace Act.Untold

variable {α β : Type}

theorem of_agrees {act : Act α} {outcome : Except Fault α}
    (h : Act.Agrees act (Act.ofExcept outcome)) : act.Untold := by
  intro x
  exact Exchange.notices_congr (h x x rfl).2

theorem bind {act : Act α} {f : α → Act β} (first : act.Untold) (next : ∀ v, (f v).Untold) :
    (act >>= f).Untold := by
  intro x
  rw [Act.runOn_bind]
  have same := first x
  rcases h : act.runOn x with ⟨outcome, y⟩
  rw [h] at same
  cases outcome with
  | ok v => exact (next v y).trans same
  | error f => exact same

theorem pure (v : α) : (Pure.pure v : Act α).Untold := fun _ => rfl

theorem ofExcept (outcome : Except Fault α) : (Act.ofExcept outcome).Untold := fun _ => rfl

theorem ofLogged (m : Logged α) : (Act.ofLogged m).Untold :=
  of_agrees (.ofLogged m)

theorem lookup (r : Resolver) (query : String) (connection : Connection) (bound : Bool)
    (timeoutMs : Option Int) : (r.lookup query connection bound timeoutMs).Untold :=
  fun x => ((r.dialogue_lookup query connection bound timeoutMs).speaks x).notices_eq

end Act.Untold

namespace Invocation

variable {i : Invocation} {path : String} {workspace : Option String} {d : Document}
  {position : Position}

theorem untold_ask (i : Invocation) (path : String) (workspace : Option String) (d : Document)
    (position : Position) : (i.ask path workspace d position).Untold := by
  unfold ask
  refine .bind (.bind (.ofExcept _) fun _ => .bind (.ofExcept _) fun _ => .ofLogged _)
    fun settings =>
    .bind (.ofExcept _) fun root => ?_
  cases Provider.referenceAt d position with
  | none => exact .pure _
  | some r =>
      exact .bind (.ofLogged _) fun connection => .bind (.lookup _ _ _ _ _) fun _ => .pure _

/-- Telling of a miss by a notice. -/
def telling (mark : Option (Reference → Notice)) : Option (Reference → Act Unit) :=
  mark.map fun mark r => Act.tell (mark r)

/-- What is told of a miss. -/
def missNotices (mark : Option (Reference → Notice)) (reference : Option Reference) :
    List Notice :=
  match mark, reference with
  | some mark, some r => [mark r]
  | _, _ => []

theorem runOn_tellMiss (mark : Option (Reference → Notice)) (reference : Option Reference)
    (x : Exchange) :
    (tellMiss (telling mark) reference).runOn x =
      (.ok (), x.told (missNotices mark reference)) := by
  cases mark with
  | none => exact Prod.ext rfl x.told_nil.symm
  | some mark =>
      cases reference with
      | none => exact Prod.ext rfl x.told_nil.symm
      | some r => rfl

theorem tellMiss_blind (mark : Option (Reference → Notice)) (r : Reference) :
    Act.Agrees (tellMiss (telling mark) (some r)) (tellMiss (telling mark) (some r)) := by
  cases mark with
  | none => exact .pure ()
  | some mark => exact .tell _

/-- A provider finds what the search finds, with the same requests and pauses, and tells of
nothing but a miss of the server. -/
theorem runOn_provide (mark : Option (Reference → Notice)) (x : Exchange) :
    let found := (i.search path workspace d position).runOn x
    let run := (i.provide (telling mark) path workspace d position).runOn x
    run.1 = found.1.map Findings.answer ∧ run.2.steps = found.2.steps ∧
      (∀ l, found.1 = .ok (.server l) → run.2.notices = x.notices) ∧
      ∀ ls, found.1 = .ok (.workspace ls) →
        run.2.notices = x.notices ++ missNotices mark (Provider.referenceAt d position) := by
  intro found run
  have untold := i.untold_ask path workspace d position x
  have searched : found = _ := Act.runOn_bind _ _ x
  obtain ⟨outcome, rest⟩ : run.1 = _ ∧ run.2.unlogged = _ :=
    provide_agrees (tellMiss_blind mark) x x rfl
  rw [Act.runOn_bind] at outcome rest
  rcases asked : (i.ask path workspace d position).runOn x with ⟨o, y⟩
  rw [asked] at searched untold outcome rest
  rcases o with f | ⟨root, _ | l⟩
  · rw [searched, outcome, Exchange.steps_congr rest]
    exact ⟨rfl, rfl, nofun, nofun⟩
  · have missed := runOn_tellMiss mark (Provider.referenceAt d position) y
    dsimp only at searched outcome rest untold
    rw [Act.runOn_bind_of_ok missed] at outcome rest
    cases scanned : localDefinitions i.tree root d position with
    | error f =>
        rw [scanned] at searched outcome rest
        rw [searched, outcome, Exchange.steps_congr rest]
        exact ⟨rfl, Exchange.steps_told _ _, nofun, nofun⟩
    | ok found =>
        rw [scanned] at searched outcome rest
        rw [searched, outcome, Exchange.steps_congr rest, Exchange.notices_congr rest, ← untold]
        exact ⟨rfl, Exchange.steps_told _ _, nofun, fun _ _ => Exchange.notices_told _ _⟩
  · rw [searched, outcome, Exchange.steps_congr rest, Exchange.notices_congr rest]
    exact ⟨rfl, rfl, fun _ _ => untold, nofun⟩

/-- Only a reference is asked for on the server. -/
theorem reference_of_server {l : Location} {x y : Exchange}
    (h : (i.search path workspace d position).runOn x = (.ok (.server l), y)) :
    (Provider.referenceAt d position).isSome = true := by
  obtain ⟨⟨root, found⟩, z, asked, settled⟩ := Act.of_runOn_bind h
  cases found with
  | none =>
      obtain ⟨_, _, _, ended⟩ := Act.of_runOn_bind settled
      cases ended
  | some found =>
      obtain ⟨settings, _, _, asked⟩ := Act.of_runOn_bind asked
      obtain ⟨root, _, _, asked⟩ := Act.of_runOn_bind asked
      cases reference : Provider.referenceAt d position with
      | some r => rfl
      | none =>
          rw [reference] at asked
          cases asked

theorem length_localDefinitions {t : FileTree} {root : PathName} {found : List Location}
    {log : List LogRecord} (h : localDefinitions t root d position = .ok (found, log)) :
    found.length ≤ 1 := by
  unfold localDefinitions at h
  split at h
  · cases h
    exact Nat.zero_le 1
  · split at h
    · cases h
      unfold labelInDocument
      split
      · exact Nat.zero_le 1
      · split <;> simp
    · cases scanned : Index.scan t root with
      | error f =>
          rw [scanned] at h
          cases h
      | ok index =>
          rw [scanned] at h
          cases h
          exact Option.length_toList_le

/-- A search finds at most one location. -/
theorem length_locations_search {found : Findings} {x y : Exchange}
    (h : (i.search path workspace d position).runOn x = (.ok found, y)) :
    found.locations.length ≤ 1 := by
  obtain ⟨⟨root, asked⟩, z, _, settled⟩ := Act.of_runOn_bind h
  cases asked with
  | some l =>
      cases settled
      exact Nat.le_refl 1
  | none =>
      obtain ⟨⟨local_, log⟩, _, scanned, ended⟩ := Act.of_runOn_bind settled
      cases ended
      exact length_localDefinitions (congrArg Prod.fst scanned)

end Invocation

end RefNav
