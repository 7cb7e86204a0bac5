import RefNav.Proofs.Dialogue
import RefNav.Provider

/-! # Definitions from the server first

Log records aside, providing a definition is a short program: look up the reference
at the place, if there is one, and turn to the fallback if that gives nothing.
-/

namespace RefNav

namespace Provider

/-! ## The course of providing a definition -/

/-- The fallback's own answer; nothing if there is no fallback. -/
def fallBack (p : Provider) (d : Document) (position : Position) (bound : Bool) : Act Answer :=
  match p.fallback with
  | some f => f d position bound
  | none => return .nothing

/-- Tell of a reference for which the server had nothing. -/
def tellMissed (p : Provider) (reference : Reference) : Act Unit :=
  match p.onNoResult with
  | some told => told reference
  | none => return ()

/-- Ask the server for a reference. -/
def askServer (p : Provider) (d : Document) (reference : Reference) (bound : Bool) :
    Act (Option Location) := do
  p.resolver.lookup reference.query (← p.connectionFor d) bound none

/-- What providing a definition comes to, log records aside. -/
def course (p : Provider) (d : Document) (position : Position) (bound : Bool) : Act Answer :=
  match referenceAt d position with
  | none => p.fallBack d position bound
  | some r => do
      match ← p.askServer d r bound with
      | some l => return .one l
      | none => do
          p.tellMissed r
          p.fallBack d position bound

/-- The callbacks of a provider do not read the log. -/
structure LogBlind (p : Provider) : Prop where
  connectionFor (d : Document) : (p.connectionFor d).Agrees (p.connectionFor d)
  fallBack (d : Document) (position : Position) (bound : Bool) :
    (p.fallBack d position bound).Agrees (p.fallBack d position bound)
  tellMissed (r : Reference) : (p.tellMissed r).Agrees (p.tellMissed r)

/-! ## The chain of strategies -/

/-- The last strategy's own answer stands. -/
theorem runFrom_last {onMiss : Strategy → Act Unit} {s : Strategy} (h : onMiss s = pure ())
    (last : Answer) : Chain.runFrom onMiss last [s] = s.ask := by
  have verbatim (answer : Answer) :
      (if answer.isHit then pure answer else onMiss s >>= fun _ => pure answer) =
        (pure answer : Act Answer) := by
    rw [h, pure_bind, ite_self]
  unfold Chain.runFrom
  simp only [Chain.runFrom, verbatim, bind_pure]

/-- What is done about a strategy that has no answer. -/
def missed (p : Provider) (reference : Option Reference) (s : Strategy) : Act Unit :=
  match reference with
  | some r => if s.name = "remote" then p.reportMiss r else return ()
  | none => return ()

variable (p : Provider) (d : Document) (position : Position) (bound : Bool)

/-- Without a reference only the fallback is asked, and what it says stands. -/
theorem chain_of_fallback (reference : Option Reference) :
    Chain.run (p.missed reference) (p.strategies d position none bound) =
      p.fallBack d position bound := by
  have passed (ask : Act Answer) : p.missed reference ⟨"fallback", ask⟩ = pure () := by
    cases reference <;> rfl
  unfold strategies fallBack
  cases p.fallback with
  | none => rfl
  | some f => exact runFrom_last (passed _) .nothing

theorem chain_of_reference (r : Reference) :
    Chain.run (p.missed (some r)) (p.strategies d position (some r) bound) =
      (p.askServer d r bound >>= fun
        | some l => pure (.one l)
        | none => do
            p.reportMiss r
            p.fallBack d position bound) := by
  have rest := p.chain_of_fallback d position bound (some r)
  -- The remote strategy comes first; what is left of the chain is the chain without it.
  change (p.connectionFor d >>= fun connection => do
      return Answer.ofOption (← p.resolver.lookup r.query connection bound none)) >>= (fun answer =>
        if answer.isHit then pure answer else p.reportMiss r >>= fun _ =>
          Chain.runFrom (p.missed (some r)) answer (p.strategies d position none bound)) = _
  unfold askServer
  simp only [bind_assoc, pure_bind]
  congr 1
  funext connection
  congr 1
  funext found
  cases found with
  | some l => rfl
  | none =>
      rw [← rest]
      rfl

/-! ## Log records aside -/

open Act (Agrees)

theorem note_agrees (message : String) : Agrees (p.note message) (pure ()) := by
  unfold note
  split
  · exact .debug _ _
  · exact .pure ()

/-- A note before something makes no difference to it. -/
theorem note_then_agrees {α : Type} {a b : Act α} (h : Agrees a b) (message : String) :
    Agrees (p.note message >>= fun _ => a) b := by
  have agreed : Agrees (p.note message >>= fun _ => a) (pure () >>= fun _ => b) :=
    (p.note_agrees message).bind fun _ => h
  rwa [pure_bind] at agreed

theorem note_if_agrees {α : Type} {a b : Act α} {c : Prop} [Decidable c] (h : Agrees a b)
    (message : String) :
    Agrees (if c then p.note message >>= fun _ => a else a) b := by
  split
  · exact p.note_then_agrees h message
  · exact h

/-- Which of its two messages a miss is noted with does not matter below. -/
theorem reportMiss_eq (r : Reference) :
    ∃ message, p.reportMiss r = p.tellMissed r >>= fun _ => p.note message := by
  unfold reportMiss tellMissed
  cases p.onNoResult with
  | none => exact ⟨_, rfl⟩
  | some told => exact ⟨_, rfl⟩

variable {p}

theorem LogBlind.reportMiss_agrees (h : p.LogBlind) (r : Reference) :
    Agrees (p.reportMiss r) (p.tellMissed r) := by
  obtain ⟨message, report⟩ := p.reportMiss_eq r
  rw [report]
  exact (h.tellMissed r).then_pure fun _ => p.note_agrees message

theorem LogBlind.askServer_agrees (h : p.LogBlind) (r : Reference) :
    Agrees (p.askServer d r bound) (p.askServer d r bound) :=
  (h.connectionFor d).bind fun connection =>
    (p.resolver.dialogue_lookup r.query connection bound none).agrees

theorem LogBlind.chain_agrees (h : p.LogBlind) :
    Agrees (Chain.run (p.missed (referenceAt d position))
      (p.strategies d position (referenceAt d position) bound)) (p.course d position bound) := by
  unfold course
  cases referenceAt d position with
  | none =>
      rw [chain_of_fallback]
      exact h.fallBack d position bound
  | some r =>
      rw [chain_of_reference]
      refine (h.askServer_agrees d bound r).bind fun found => ?_
      cases found with
      | some l => exact .pure _
      | none => exact (h.reportMiss_agrees r).bind fun _ => h.fallBack d position bound

/-- Log records aside, providing a definition follows its course. -/
theorem LogBlind.define_agrees (h : p.LogBlind) :
    Agrees (p.define d position bound) (p.course d position bound) := by
  have chain := h.chain_agrees d position bound
  unfold define
  dsimp only
  refine p.note_if_agrees (chain.then_pure fun answer => ?_) _
  cases answer with
  | one l => exact p.note_then_agrees (.pure _) _
  | nothing => exact .pure _
  | many ls => exact .pure _

end Provider

/-! ## Where the reference stands -/

/-- The reference found on the line of a place; a place outside the document has no line. -/
def Document.ReferenceAt (d : Document) (position : Position) (r : Reference) : Prop :=
  ∃ text, d.lineAt position.line = .ok text ∧ referenceAt text position.character = some r

theorem Provider.referenceAt_eq_some_iff {d : Document} {position : Position} {r : Reference} :
    referenceAt d position = some r ↔ d.ReferenceAt position r := by
  unfold referenceAt Document.ReferenceAt
  cases d.lineAt position.line with
  | ok text => simp
  | error f =>
      have empty : RefNav.referenceAt "" position.character = none := rfl
      simp [empty]

/-! ## Watched callbacks -/

namespace Exchange

/-- The caller's token as a callback gets it: only an operation bound to it passes it on. -/
def tokenFor (x : Exchange) (bound : Bool) : Option (Token Unit) :=
  if bound then some x.token else none

end Exchange

/-- A fallback that tells of each call what it was called with. -/
structure Fallback where
  mark : Document → Position → Option (Token Unit) → Notice
  answer : Document → Position → Option (Token Unit) → Answer

def Fallback.ask (f : Fallback) (d : Document) (position : Position) (bound : Bool) :
    Act Answer := do
  let token := (← get).tokenFor bound
  Act.tell (f.mark d position token)
  return f.answer d position token

namespace Provider

/-- A provider whose callbacks are watched. -/
def watched (resolver : Resolver) (connection : Document → Connection)
    (missed : Option (Reference → Notice)) (fallback : Option Fallback) (traced : Bool) :
    Provider :=
  { resolver
    connectionFor := fun d => return connection d
    fallback := fallback.map Fallback.ask
    onNoResult := missed.map fun mark r => Act.tell (mark r)
    traced }

variable {resolver : Resolver} {connection : Document → Connection}
  {missed : Option (Reference → Notice)} {fallback : Option Fallback} {traced : Bool}

theorem runOn_fallBack_watched (d : Document) (position : Position) (bound : Bool) (x : Exchange) :
    ((watched resolver connection missed fallback traced).fallBack d position bound).runOn x =
      (.ok ((fallback.map fun f => f.answer d position (x.tokenFor bound)).getD .nothing),
        x.told (fallback.map fun f => f.mark d position (x.tokenFor bound)).toList) := by
  cases fallback with
  | none =>
      change (Except.ok Answer.nothing, x) = (Except.ok Answer.nothing, x.told [])
      simp [Exchange.told]
  | some f => rfl

theorem runOn_tellMissed_watched (r : Reference) (x : Exchange) :
    ((watched resolver connection missed fallback traced).tellMissed r).runOn x =
      (.ok (), x.told (missed.map (· r)).toList) := by
  cases missed with
  | none =>
      change (Except.ok (), x) = (Except.ok (), x.told [])
      simp [Exchange.told]
  | some mark => rfl

theorem logBlind_watched : (watched resolver connection missed fallback traced).LogBlind where
  connectionFor d := .pure _
  fallBack d position bound := by
    intro x y hxy
    have token : x.tokenFor bound = y.tokenFor bound :=
      (congrArg (Exchange.tokenFor · bound) hxy :)
    rw [runOn_fallBack_watched, runOn_fallBack_watched, token]
    refine ⟨rfl, ?_⟩
    rw [Exchange.unlogged_told, Exchange.unlogged_told, hxy]
  tellMissed r := by
    intro x y hxy
    rw [runOn_tellMissed_watched, runOn_tellMissed_watched]
    refine ⟨rfl, ?_⟩
    rw [Exchange.unlogged_told, Exchange.unlogged_told, hxy]

theorem course_of_no_reference {d : Document} {position : Position}
    (h : ¬ ∃ r, d.ReferenceAt position r) (p : Provider) (bound : Bool) :
    p.course d position bound = p.fallBack d position bound := by
  have nothing : referenceAt d position = none := by
    rw [Option.eq_none_iff_forall_ne_some]
    exact fun r hr => h ⟨r, referenceAt_eq_some_iff.mp hr⟩
  unfold course
  rw [nothing]

theorem course_of_reference {d : Document} {position : Position} {r : Reference}
    (h : d.ReferenceAt position r) (p : Provider) (bound : Bool) :
    p.course d position bound = (p.askServer d r bound >>= fun
      | some l => pure (.one l)
      | none => do
          p.tellMissed r
          p.fallBack d position bound) := by
  unfold course
  rw [referenceAt_eq_some_iff.mpr h]

theorem runOn_course_watched_of_reference {d : Document} {position : Position} {r : Reference}
    (h : d.ReferenceAt position r) (bound : Bool) (x : Exchange) :
    ((watched resolver connection missed fallback traced).course d position bound).runOn x =
      match (resolver.lookup r.query (connection d) bound none).runOn x with
      | (.ok (some l), y) => (.ok (.one l), y)
      | (.ok none, y) =>
          (.ok ((fallback.map fun f => f.answer d position (y.tokenFor bound)).getD .nothing),
            (y.told (missed.map (· r)).toList).told
              (fallback.map fun f => f.mark d position (y.tokenFor bound)).toList)
      | (.error f, y) => (.error f, y) := by
  have asks : (watched resolver connection missed fallback traced).askServer d r bound =
      resolver.lookup r.query (connection d) bound none := rfl
  rw [course_of_reference h, asks, Act.runOn_bind]
  rcases (resolver.lookup r.query (connection d) bound none).runOn x with ⟨outcome, y⟩
  cases outcome with
  | error f => rfl
  | ok found =>
      cases found with
      | some l => rfl
      | none =>
          dsimp only
          rw [Act.runOn_bind_of_ok (runOn_tellMissed_watched r y), runOn_fallBack_watched]
          rfl

/-- Whatever is asked for is the query of the reference at the place. -/
theorem requests_define_watched (d : Document) (position : Position) (bound : Bool)
    (x : Exchange) :
    ∃ sent,
      (((watched resolver connection missed fallback traced).define d position bound).runOn
        x).2.requests = x.requests ++ sent ∧
      ∀ q ∈ sent, ∃ r, d.ReferenceAt position r ∧ q.Asks r.query := by
  obtain ⟨_, rest⟩ := LogBlind.define_agrees d position bound
    (logBlind_watched : (watched resolver connection missed fallback traced).LogBlind) x x rfl
  rw [Exchange.requests_congr rest]
  by_cases there : ∃ r, d.ReferenceAt position r
  · obtain ⟨r, there⟩ := there
    have said := (resolver.dialogue_lookup r.query (connection d) bound none).speaks x
    obtain ⟨sent, requests, asks⟩ := said.exists_requests
    refine ⟨sent, ?_, fun q hq => ⟨r, there, asks q hq⟩⟩
    rw [← requests, runOn_course_watched_of_reference there]
    split
    · next found => rw [found]
    · next found => rw [found, Exchange.requests_told, Exchange.requests_told]
    · next found => rw [found]
  · refine ⟨[], ?_, nofun⟩
    rw [course_of_no_reference there, runOn_fallBack_watched, Exchange.requests_told,
      List.append_nil]

/-- The server is asked first, for the reference at the place and nothing else.  Its
location stands; if it has none, or there is no reference, the fallback is called once and
its answer stands as it is.  A miss is told once, before the fallback is called.  Whether
steps are logged makes no difference to anything but the log. -/
theorem define_remote_first (resolver : Resolver) (connection : Document → Connection)
    (missed : Option (Reference → Notice)) (fallback : Option Fallback) (d : Document)
    (position : Position) (bound : Bool) (x : Exchange) :
    let run (traced : Bool) :=
      ((watched resolver connection missed fallback traced).define d position bound).runOn x
    let answer (y : Exchange) : Answer :=
      (fallback.map fun f => f.answer d position (y.tokenFor bound)).getD .nothing
    let asked (y : Exchange) : List Notice :=
      (fallback.map fun f => f.mark d position (y.tokenFor bound)).toList
    (∀ traced,
      ((¬ ∃ r, d.ReferenceAt position r) →
        (run traced).1 = .ok (answer x) ∧ (run traced).2.requests = x.requests ∧
          (run traced).2.notices = x.notices ++ asked x) ∧
      ∀ r, d.ReferenceAt position r →
        let found := (resolver.lookup r.query (connection d) bound none).runOn x
        (run traced).2.requests = found.2.requests ∧
        (∃ sent, found.2.requests = x.requests ++ sent ∧ ∀ q ∈ sent, q.Asks r.query) ∧
        (∀ l, found.1 = .ok (some l) →
          (run traced).1 = .ok (.one l) ∧ (run traced).2.notices = x.notices) ∧
        (found.1 = .ok none →
          (run traced).1 = .ok (answer found.2) ∧
            (run traced).2.notices = x.notices ++ (missed.map (· r)).toList ++ asked found.2)) ∧
    (run true).1 = (run false).1 ∧ (run true).2.unlogged = (run false).2.unlogged := by
  intro run answer asked
  have followed (traced : Bool) :=
    LogBlind.define_agrees d position bound
      (logBlind_watched : (watched resolver connection missed fallback traced).LogBlind) x x rfl
  refine ⟨fun traced => ⟨fun none_there => ?_, fun r there => ?_⟩, ?_, ?_⟩
  · obtain ⟨outcome, rest⟩ := followed traced
    rw [course_of_no_reference none_there, runOn_fallBack_watched] at outcome rest
    refine ⟨outcome, ?_, ?_⟩
    · rw [Exchange.requests_congr rest, Exchange.requests_told]
    · rw [Exchange.notices_congr rest, Exchange.notices_told]
  · intro found
    have said : x.Speaks (Request.Asks r.query) found.2 :=
      (resolver.dialogue_lookup r.query (connection d) bound none).speaks x
    obtain ⟨outcome, rest⟩ := followed traced
    rw [runOn_course_watched_of_reference there] at outcome rest
    rcases hfound : found with ⟨result, y⟩
    have looked : (resolver.lookup r.query (connection d) bound none).runOn x = (result, y) :=
      hfound
    rw [looked] at outcome rest
    rw [hfound] at said
    have sent := said.exists_requests
    have untold := said.notices_eq
    cases result with
    | error f =>
        exact ⟨Exchange.requests_congr rest, sent, fun _ => (nomatch ·), (nomatch ·)⟩
    | ok location =>
        cases location with
        | some l =>
            refine ⟨Exchange.requests_congr rest, sent, fun l' same => ?_, (nomatch ·)⟩
            cases same
            exact ⟨outcome, (Exchange.notices_congr rest).trans untold⟩
        | none =>
            refine ⟨?_, sent, fun _ => (nomatch ·), fun _ => ⟨outcome, ?_⟩⟩
            · rw [Exchange.requests_congr rest, Exchange.requests_told, Exchange.requests_told]
            · rw [Exchange.notices_congr rest, Exchange.notices_told, Exchange.notices_told,
                untold]
  · exact (followed true).1.trans (followed false).1.symm
  · exact (followed true).2.trans (followed false).2.symm

theorem define_remote_first_missed :
    let connection : Connection :=
      { active := .bool true, namespaceName := .str "USER", host := .str "iris.local",
        port := .int 52773, username := .str "dev", password := .str "secret" }
    let d := Document.ofText "/ws/A.mac" "^A"
    let own : Fallback := { mark := fun d _ _ => .asked d.uri, answer := fun _ _ _ => .many [] }
    let x : Exchange := { server := Server.ofReplies [] [.network "refused"] }
    let run := ((watched {} (fun _ => connection) (some fun r => .missed r.query) (some own)
      true).define d ⟨0, 1⟩ true).runOn x
    run.1 = .ok (.many []) ∧ run.2.notices = [.missed "^A", .asked "/ws/A.mac"] := by
  intro connection d own x run
  let r : Reference := ⟨"^A", "^A", .routine, "A", ⟨0, 2⟩⟩
  have there : d.ReferenceAt ⟨0, 1⟩ r := ⟨"^A", rfl, by decide⟩
  obtain ⟨_, _, _, missing⟩ :=
    ((define_remote_first {} (fun _ => connection) (some fun r => .missed r.query) (some own) d
      ⟨0, 1⟩ true x).1 true).2 r there
  have silent : ((Resolver.lookup {} r.query connection true none).runOn x).1.toOption =
      some none := by
    decide +kernel
  apply missing
  cases outcome : ((Resolver.lookup {} r.query connection true none).runOn x).1 with
  | error f =>
      rw [outcome] at silent
      cases silent
  | ok found =>
      rw [outcome] at silent
      exact congrArg Except.ok (Option.some.inj silent)

end Provider

end RefNav
