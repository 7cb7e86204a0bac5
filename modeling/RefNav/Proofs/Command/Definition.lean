import RefNav.CommandLine.Run
import RefNav.Proofs.Command.Search
import RefNav.Proofs.FileTree.Proper
import RefNav.Proofs.Json.Members
import RefNav.Proofs.Json.Written
import RefNav.Proofs.Text.Lines

/-! # Finding and following definitions

Finding a definition and following a link are the same search, reached on two ways: one
goes from the document at hand and is told of a miss, the other opens the document again by
its name.  Both ask the server the same and come to the same locations.
-/

namespace RefNav

namespace Invocation

variable {i : Invocation} {path : String} {workspace : Option String} {d : Document}
  {position : Position}

/-! ## The two commands -/

/-- What is reported about the locations found for a definition. -/
def reportDefinition (i : Invocation) (path : String) (line column : Int)
    (reference : Option Reference) (locations : List Location) : Act Ending := do
  let source := origin reference (hasMiss (← get).notices)
  if i.json then i.answerDefinition reference source locations
  else if locations.isEmpty then
    let what :=
      match reference with
      | some r => r.query
      | none => placeText path line column
    return .refused (.notFound ("No definition found for " ++ what))
  else
    printLocations source locations
    return .done

/-- What is reported about the locations found for a link. -/
def reportLink (i : Invocation) (locations : List Location) : Act Ending := do
  if i.json then
    i.answer "follow"
      [("verdict", .str (if locations.isEmpty then "not found" else "found")),
       ("count", .int locations.length)]
      [("locations", locationsJson locations)]
  else if locations.isEmpty then return .refused (.notFound Refusal.notFoundText)
  else
    for l in locations do Act.print l.display
    return .done

theorem define_eq {line column : Int} (loaded : i.tree.loadDocument path = .ok d)
    (positive : 1 ≤ line) (inside : line ≤ d.lineCount) :
    i.define path line column workspace true = (do
      let answer ← i.provide (telling (some fun r => .missed r.query)) path workspace d
        ⟨line - 1, column - 1⟩
      i.reportDefinition path line column (Provider.referenceAt d ⟨line - 1, column - 1⟩)
        answer.locations) := by
  obtain ⟨text, here⟩ : ∃ text, d.lineAt (line - 1) = .ok text := by
    obtain ⟨n, hn⟩ : ∃ n : Nat, line - 1 = n := Int.eq_ofNat_of_zero_le (by omega)
    have within : n < d.lines.length := by
      unfold Document.lineCount at inside
      omega
    rw [hn]
    exact ⟨_, Document.lineAt_of_getElem? (List.getElem?_eq_getElem within)⟩
  have reference : Provider.referenceAt d ⟨line - 1, column - 1⟩ =
      RefNav.referenceAt text (column - 1) := by
    simp [Provider.referenceAt, here]
  have opened : i.load path = pure d := by
    unfold load
    rw [loaded]
    rfl
  have read : lineAt d (line - 1) = pure text := by
    unfold lineAt
    rw [here]
    rfl
  unfold define provide
  rw [opened, pure_bind, if_neg (by omega), reference]
  simp only [bind_assoc, read, pure_bind]
  rfl

/-- A document that was read stands in a file at the place that its name means. -/
theorem get?_of_document {t : FileTree} {p : PathName} (plain : p.Plain)
    (h : t.document p = .ok d) :
    ∃ bytes, t.get? (p.resolve t.current) = some (.file bytes) ∧
      d = Document.ofText (t.absolute p) (String.ofList (Text.Utf8.decodeLenient bytes)) := by
  cases read : t.read p.toString with
  | error f => simp [FileTree.document, FileTree.readText, read, Except.map] at h
  | ok bytes =>
      rw [FileTree.document_of_read read] at h
      cases h
      unfold FileTree.read at read
      split at read
      next found =>
        cases read
        obtain ⟨rfl, file⟩ := FileTree.eq_resolve_of_find plain found
        exact ⟨bytes, file, rfl⟩
      · cases read
      · cases read

/-- In a proper tree a document is found again by its own name. -/
theorem openDocument_of_loadDocument {t : FileTree} (proper : t.Proper)
    (loaded : t.loadDocument path = .ok d) : t.openDocument d.uri = .ok d := by
  have document : t.document (.ofString path) = .ok d := by
    unfold FileTree.loadDocument at loaded
    split at loaded
    · cases loaded
    · exact loaded
  obtain ⟨bytes, file, rfl⟩ := get?_of_document (PathName.plain_ofString path) document
  have reread : PathName.ofString (t.absolute (.ofString path)) =
      .ofPlace ((PathName.ofString path).resolve t.current) :=
    (FileTree.plain_ofPlace (FileTree.entryName_of_get? proper.sound file)).ofString_toString
  have absolute : (PathName.ofString (t.absolute (.ofString path))).isAbsolute = true := by
    rw [reread]
    rfl
  have uri (text : String) : (Document.ofText (t.absolute (.ofString path)) text).uri =
      t.absolute (.ofString path) := rfl
  unfold FileTree.openDocument
  rw [uri]
  simp only [absolute, if_true]
  exact FileTree.document_of_get? proper file

theorem follow_eq {line character : Int} (proper : i.tree.Proper)
    (loaded : i.tree.loadDocument path = .ok d) :
    i.follow path line character workspace = (do
      let answer ← i.provide (telling none) path workspace d ⟨line, character⟩
      i.reportLink answer.locations) := by
  have opened : i.load path = pure d := by
    unfold load
    rw [loaded]
    rfl
  have reopened : i.openDocument d.uri = pure d := by
    unfold openDocument
    rw [openDocument_of_loadDocument proper loaded]
    rfl
  unfold follow provide provider Provider.follow
  simp only [opened, reopened, bind_assoc, pure_bind]
  rfl

/-! ## Reports -/

/-- Whatever is reported in the end, what goes before it is the search. -/
theorem runOn_provide_then (mark : Option (Reference → Notice))
    (report : List Location → Act Ending)
    {x z : Exchange} {found : Findings}
    (searched : (i.search path workspace d position).runOn x = (.ok found, z)) :
    ∃ y, y.steps = z.steps ∧
      (∀ l, found = .server l → y.notices = x.notices) ∧
      (∀ ls, found = .workspace ls →
        y.notices = x.notices ++ missNotices mark (Provider.referenceAt d position)) ∧
      (i.provide (telling mark) path workspace d position >>= fun answer =>
        report answer.locations).runOn x = (report found.locations).runOn y := by
  obtain ⟨outcome, steps, server, workspace⟩ := i.runOn_provide mark x
  rw [searched] at outcome steps server workspace
  refine ⟨_, steps, fun l same => server l (same ▸ rfl),
    fun ls same => workspace ls (same ▸ rfl), ?_⟩
  rw [Act.runOn_bind_of_ok (Prod.ext outcome rfl), Findings.locations_answer]

theorem runOn_provide_failed (mark : Option (Reference → Notice))
    (report : List Location → Act Ending) {x z : Exchange} {f : Fault}
    (searched : (i.search path workspace d position).runOn x = (.error f, z)) :
    ∃ y, y.steps = z.steps ∧
      (i.provide (telling mark) path workspace d position >>= fun answer =>
        report answer.locations).runOn x = (.error f, y) := by
  obtain ⟨outcome, steps, _⟩ := i.runOn_provide mark x
  rw [searched] at outcome steps
  refine ⟨_, steps, ?_⟩
  rw [Act.runOn_bind,
    show (i.provide (telling mark) path workspace d position).runOn x = (.error f, _)
      from Prod.ext outcome rfl]

/-- The end of a command that names locations, or says that there are none. -/
def EndsFor (locations : List Location) (ending : Ending) : Prop :=
  if locations = [] then ∃ message, ending = .refused (.notFound message) else ending = .done

theorem runOn_reportLink_text (text : i.json = false) {locations : List Location}
    (few : locations.length ≤ 1) (y : Exchange) :
    ∃ ending, (i.reportLink locations).runOn y =
      (.ok ending, y.told (locations.map fun l => .printed l.display)) ∧
        EndsFor locations ending := by
  unfold reportLink
  rw [text]
  match locations with
  | [] =>
      rw [List.map_nil, Exchange.told_nil]
      exact ⟨_, rfl, _, rfl⟩
  | [l] => exact ⟨_, rfl, rfl⟩

theorem runOn_reportDefinition_text (text : i.json = false) {locations : List Location}
    (few : locations.length ≤ 1) (line column : Int) (reference : Option Reference)
    (y : Exchange) :
    ∃ ending, (i.reportDefinition path line column reference locations).runOn y =
      (.ok ending, y.told (locations.map fun l => .printed l.display)) ∧
        EndsFor locations ending := by
  unfold reportDefinition
  rw [text]
  match locations with
  | [] =>
      rw [List.map_nil, Exchange.told_nil]
      exact ⟨_, rfl, _, rfl⟩
  | [l] => exact ⟨_, rfl, rfl⟩

/-- An envelope has no doubles of its own. -/
theorem ordinary_envelope {timestamp command : String} {summary payload envelope : Members}
    (enveloped : Envelope.members timestamp command summary payload = .ok envelope)
    (summaryFree : (Json.obj summary).Ordinary) (payloadFree : ∀ p ∈ payload, p.2.Ordinary) :
    (Json.obj envelope).Ordinary := by
  unfold Envelope.members at enveloped
  dsimp only at enveloped
  split at enveloped
  · cases enveloped
  cases enveloped
  refine .obj fun p hp => ?_
  rcases Members.mem_set hp with rfl | hp
  · refine .obj fun q hq => ?_
    obtain rfl := List.mem_singleton.mp hq
    exact .str _
  rcases Members.mem_merge hp with hp | hp
  · exact payloadFree p hp
  · simp only [List.mem_cons, List.not_mem_nil, or_false] at hp
    rcases hp with rfl | rfl | rfl | rfl | rfl
    · exact .str _
    · exact .str _
    · exact .str _
    · exact .str _
    · exact summaryFree

theorem ordinary_locationsJson (locations : List Location) :
    (locationsJson locations).Ordinary := by
  refine .arr fun v hv => ?_
  obtain ⟨l, _, rfl⟩ := List.mem_map.mp hv
  refine .obj fun p hp => ?_
  simp only [List.mem_cons, List.not_mem_nil, or_false] at hp
  rcases hp with rfl | rfl | rfl
  · exact .str _
  · exact .int _
  · exact .int _

/-- Run on an exchange, the operation prints an envelope, which has no doubles, and ends. -/
def Answers (act : Act Ending) (y : Exchange) (envelope : Members) : Prop :=
  (Json.obj envelope).Ordinary ∧
    act.runOn y = (.ok .done, y.told [.printed (Json.obj envelope).canonical])

theorem answers_answer {command : String} {summary payload envelope : Members}
    (enveloped : Envelope.members i.timestamp command summary payload = .ok envelope)
    (summaryFree : (Json.obj summary).Ordinary) (payloadFree : ∀ p ∈ payload, p.2.Ordinary)
    (y : Exchange) : Answers (i.answer command summary payload) y envelope := by
  refine ⟨ordinary_envelope enveloped summaryFree payloadFree, ?_⟩
  unfold answer Envelope.text
  rw [enveloped]
  rfl

theorem answers_reportLink (json : i.json = true) (locations : List Location) (y : Exchange) :
    ∃ envelope, Answers (i.reportLink locations) y envelope ∧
      (Json.obj envelope).field "locations" = locationsJson locations := by
  unfold reportLink
  rw [if_pos json]
  refine ⟨_, answers_answer rfl ?_ ?_ y, rfl⟩
  · simp [Json.ordinary_obj, Json.Ordinary.str, Json.Ordinary.int]
  · simp [ordinary_locationsJson]

theorem answers_reportDefinition (json : i.json = true) (path : String) (line column : Int)
    (reference : Option Reference) (locations : List Location) (y : Exchange) :
    ∃ envelope, Answers (i.reportDefinition path line column reference locations) y envelope ∧
      (Json.obj envelope).field "locations" = locationsJson locations ∧
      ((Json.obj envelope).field "summary").field "source" =
        if locations.isEmpty then .null else .str (origin reference (hasMiss y.notices)) := by
  have reported : (i.reportDefinition path line column reference locations).runOn y =
      (i.answerDefinition reference (origin reference (hasMiss y.notices)) locations).runOn y := by
    unfold reportDefinition
    rw [Act.runOn_bind_of_ok (Act.runOn_get y), if_pos json]
  unfold Answers
  rw [reported]
  refine ⟨_, answers_answer rfl ?_ ?_ y, rfl, rfl⟩
  · simp only [Json.ordinary_obj, List.forall_mem_cons, List.not_mem_nil, false_imp_iff,
      implies_true, and_true]
    refine ⟨.str _, ?_, .int _⟩
    split
    · exact .null
    · exact .str _
  · cases reference <;> simp [ordinary_locationsJson, Json.Ordinary.str, Json.Ordinary.null]

/-- The answer names the source that the findings have. -/
theorem origin_of_findings {found : Findings} {reference : Option Reference} {y : Exchange}
    (asked : ∀ l, found = .server l → reference.isSome = true ∧ y.notices = [])
    (missed : ∀ ls, found = .workspace ls →
      y.notices = missNotices (some fun r => .missed r.query) reference) :
    (if found.locations.isEmpty then Json.null else .str (origin reference (hasMiss y.notices))) =
      found.source := by
  cases found with
  | server l =>
      obtain ⟨some_reference, told⟩ := asked l rfl
      rw [told]
      simp [Findings.locations, Findings.source, origin, some_reference, hasMiss]
  | workspace ls =>
      cases ls with
      | nil => rfl
      | cons l ls =>
          rw [missed _ rfl]
          cases reference <;>
            simp [Findings.locations, Findings.source, origin, missNotices, hasMiss]

end Invocation

/-! ## Text without control sequences -/

namespace Text

theorem dropControls_of_not_mem {cs : List Char} (h : '\x1b' ∉ cs) : dropControls cs = cs := by
  induction cs with
  | nil =>
      unfold dropControls
      rfl
  | cons c cs ih =>
      have plain : afterControl? (c :: cs) = none := by
        unfold afterControl?
        split
        · next same =>
            obtain ⟨rfl, -⟩ := List.cons.inj same
            exact absurd List.mem_cons_self h
        · rfl
      have rest : '\x1b' ∉ cs := fun inside => h (List.mem_cons_of_mem c inside)
      rw [dropControls]
      split
      · next found =>
          rw [plain] at found
          cases found
      · exact congrArg (c :: ·) (ih rest)

theorem withoutControls_of_written {s : String} (h : Json.Written s.toList) :
    withoutControls s = s := by
  have plain : '\x1b' ∉ s.toList := fun inside => by
    have written := h _ inside
    revert written
    decide
  rw [withoutControls, dropControls_of_not_mem plain, String.ofList_toList]

end Text

/-! ## Command lines -/

namespace CommandLine.Program

open Invocation

/-- The words of a command line call a command and give its parameters these values. -/
def Calls (p : Program) (words : List String) (c : CommandName) (json : Bool) (b : Bindings) :
    Prop :=
  ∃ given rest s, programGrammar.scan words = .ok ⟨given, c.name :: rest⟩ ∧
    information? programHelp given = none ∧ isGiven given "json" = json ∧
    c.grammar.scan rest = .ok s ∧ information? c.help s.given = none ∧
    c.grammar.bind p.tree s = .ok b

variable {p : Program} {words : List String} {c : CommandName} {json : Bool} {b : Bindings}

theorem Calls.run_eq (h : p.Calls words c json b) :
    ∃ verbose, p.run words = p.perform c json verbose b := by
  obtain ⟨given, rest, s, scanned, asksNothing, rfl, commandScanned, commandAsksNothing, bound⟩ := h
  refine ⟨isGiven given "verbose", ?_⟩
  have named : CommandName.ofName? c.name = some c := by cases c <;> rfl
  have nonempty : words.isEmpty = false := by
    cases words with
    | nil => cases scanned
    | cons word words => rfl
  simp [run, runCommand, nonempty, scanned, asksNothing, named, commandScanned,
    commandAsksNothing, bound]

/-- What a command leaves behind that reports the outcome of a search, in lines of text or in an
envelope of a certain kind. -/
structure Reports (out : Output) (json : Bool) (searched : Except Fault Findings × Exchange)
    (kind : Findings → Members → Prop) : Prop where
  requests : out.requests = searched.2.requests
  pauses : out.pauses = searched.2.pauses
  failed : ∀ f, searched.1 = .error f →
    out.exitCode = ExitReason.error.code ∧ out.escaped = (conclude programGrammar (.error f)).2.2
  text : ∀ found, searched.1 = .ok found → json = false →
    out.stdout = Text.withoutControls (lines (found.locations.map Location.display)) ∧
      out.exitCode = if found.locations = [] then 3 else 0
  answer : ∀ found, searched.1 = .ok found → json = true → out.exitCode = 0 ∧
    ∃ envelope, out.stdout = (Json.obj envelope).canonical ++ "\n" ∧ kind found envelope

/-- The command with the given parameters, as an operation. -/
def acts (p : Program) (c : CommandName) (json : Bool) (b : Bindings) : Act Ending :=
  (command { tree := p.tree, environment := p.environment, timestamp := p.timestamp, json } c b).1

theorem perform_of_runOn {outcome : Except Fault Ending} {y : Exchange}
    (ran : (p.acts c json b).runOn { server := p.server } = (outcome, y)) (verbose : Bool) :
    let out := p.perform c json verbose b
    out.requests = y.requests ∧ out.pauses = y.pauses ∧
      out.exitCode = (conclude c.grammar outcome).1 ∧
      out.escaped = (conclude c.grammar outcome).2.2 ∧
      out.stdout = Text.withoutControls (lines (printed y.notices)) := by
  unfold perform
  unfold acts at ran
  dsimp only
  rw [ran]
  exact ⟨rfl, rfl, rfl, rfl, rfl⟩

theorem exitCode_of_endsFor {locations : List Location} {ending : Ending}
    (h : EndsFor locations ending) (g : Grammar) :
    (conclude g (.ok ending)).1 = if locations = [] then 3 else 0 := by
  unfold EndsFor at h
  split at h
  · next empty =>
      obtain ⟨message, rfl⟩ := h
      rw [if_pos empty]
      rfl
  · next full =>
      rw [h, if_neg full]
      rfl

theorem conclude_error (g : Grammar) (f : Fault) :
    (conclude g (.error f)).1 = ExitReason.error.code ∧
      (conclude g (.error f)).2.2 = (conclude programGrammar (.error f)).2.2 := by
  cases f <;> exact ⟨rfl, rfl⟩

theorem printed_append (first second : List Notice) :
    printed (first ++ second) = printed first ++ printed second :=
  List.filterMap_append

theorem printed_lines (locations : List Location) :
    printed (locations.map fun l => .printed l.display) = locations.map Location.display := by
  unfold printed
  rw [List.filterMap_map]
  exact congrFun List.filterMap_eq_map locations

theorem withoutControls_canonical {v : Json} (free : v.Ordinary) :
    Text.withoutControls (lines [v.canonical]) = v.canonical ++ "\n" := by
  have joined : lines [v.canonical] = v.canonical ++ "\n" := by simp [lines]
  rw [joined]
  apply Text.withoutControls_of_written
  rw [String.toList_append]
  exact Json.written_append.mpr ⟨Json.written_canonical free, Json.written_of_all rfl⟩

theorem requests_of_steps {y z : Exchange} (h : y.steps = z.steps) : y.requests = z.requests := by
  rw [Exchange.requests_eq, Exchange.requests_eq, h]

theorem pauses_of_steps {y z : Exchange} (h : y.steps = z.steps) : y.pauses = z.pauses := by
  rw [Exchange.pauses_eq, Exchange.pauses_eq, h]

section

variable {i : Invocation} {path : String} {workspace : Option String} {d : Document}
  {position : Position} {kind : Findings → Members → Prop}

/-- A command that searches first and then reports, whatever its reports are like. -/
theorem reports_of_acts (mark : Option (Reference → Notice)) (report : List Location → Act Ending)
    (acts : p.acts c json b = i.provide (telling mark) path workspace d position >>= fun answer =>
      report answer.locations)
    (unprinted : printed (missNotices mark (Provider.referenceAt d position)) = [])
    (shows : json = false → ∀ (locations : List Location) (y : Exchange), locations.length ≤ 1 →
      ∃ ending, (report locations).runOn y =
        (.ok ending, y.told (locations.map fun l => .printed l.display)) ∧
          EndsFor locations ending)
    (answers : json = true → ∀ (found : Findings) (y : Exchange),
      (∀ l, found = .server l →
        (Provider.referenceAt d position).isSome = true ∧ y.notices = []) →
      (∀ ls, found = .workspace ls →
        y.notices = missNotices mark (Provider.referenceAt d position)) →
      ∃ envelope, Answers (report found.locations) y envelope ∧ kind found envelope)
    (verbose : Bool) :
    Reports (p.perform c json verbose b) json
      ((i.search path workspace d position).runOn { server := p.server }) kind := by
  rcases searched : (i.search path workspace d position).runOn { server := p.server } with
    ⟨outcome, z⟩
  cases outcome with
  | error f =>
      obtain ⟨y, steps, ran⟩ := runOn_provide_failed mark report searched
      rw [← acts] at ran
      obtain ⟨requests, pauses, exitCode, escaped, _⟩ := perform_of_runOn ran verbose
      obtain ⟨code, fault⟩ := conclude_error c.grammar f
      refine ⟨?_, ?_, fun f' same => ?_, nofun, nofun⟩
      · rw [requests, requests_of_steps steps]
      · rw [pauses, pauses_of_steps steps]
      · cases same
        exact ⟨exitCode.trans code, escaped.trans fault⟩
  | ok found =>
      obtain ⟨y, steps, server, missed, ran⟩ := runOn_provide_then mark report searched
      rw [← acts] at ran
      have few := length_locations_search searched
      have silent : printed y.notices = [] := by
        cases found with
        | server l => rw [server l rfl]; rfl
        | workspace ls => rw [missed ls rfl, printed_append, unprinted]; rfl
      cases json with
      | false =>
          obtain ⟨ending, reported, ends⟩ := shows rfl found.locations y few
          obtain ⟨requests, pauses, exitCode, _, stdout⟩ :=
            perform_of_runOn (ran.trans reported) verbose
          refine ⟨?_, ?_, nofun, fun found' same _ => ?_, nofun⟩
          · rw [requests, requests_of_steps ((Exchange.steps_told _ _).trans steps)]
          · rw [pauses, pauses_of_steps ((Exchange.steps_told _ _).trans steps)]
          · cases same
            rw [stdout, exitCode, exitCode_of_endsFor ends, Exchange.notices_told, printed_append,
              silent, printed_lines]
            exact ⟨rfl, rfl⟩
      | true =>
          obtain ⟨envelope, ⟨free, reported⟩, good⟩ := answers rfl found y
            (fun l same => ⟨reference_of_server (same ▸ searched), server l same⟩) missed
          obtain ⟨requests, pauses, exitCode, _, stdout⟩ :=
            perform_of_runOn (ran.trans reported) verbose
          refine ⟨?_, ?_, nofun, nofun, fun found' same _ => ?_⟩
          · rw [requests, requests_of_steps ((Exchange.steps_told _ _).trans steps)]
          · rw [pauses, pauses_of_steps ((Exchange.steps_told _ _).trans steps)]
          · cases same
            refine ⟨exitCode, envelope, ?_, good⟩
            rw [stdout, Exchange.notices_told, printed_append, silent]
            exact withoutControls_canonical free

end

/-- The answer to a search for a definition names its locations and their source. -/
def NamesSource (found : Findings) (envelope : Members) : Prop :=
  (Json.obj envelope).field "locations" = locationsJson found.locations ∧
    ((Json.obj envelope).field "summary").field "source" = found.source

/-- The answer names its locations. -/
def NamesLocations (found : Findings) (envelope : Members) : Prop :=
  (Json.obj envelope).field "locations" = locationsJson found.locations

section

variable {path : String} {workspace : Option String} {line column : Int} {d : Document}

theorem reports_define (calls : p.Calls words .define json b)
    (hpath : b.text? "PATH" = some path) (hline : b.number? "LINE" = some line)
    (hcolumn : b.number? "COLUMN" = some column) (hfallback : b.switch? "no_fallback" = none)
    (loaded : p.tree.loadDocument path = .ok d) (positive : 1 ≤ line)
    (inside : line ≤ d.lineCount) :
    let i : Invocation := ⟨p.tree, p.environment, p.timestamp, json⟩
    Reports (p.run words) json ((i.search path (b.text? "workspace") d
      ⟨line - 1, column - 1⟩).runOn { server := p.server }) NamesSource := by
  intro i
  obtain ⟨verbose, run⟩ := calls.run_eq
  have acts : p.acts .define json b = i.define path line column (b.text? "workspace") true := by
    simp [Program.acts, command, hpath, hline, hcolumn, hfallback, i]
  rw [define_eq (i := i) loaded positive inside] at acts
  rw [run]
  let reference := Provider.referenceAt d ⟨line - 1, column - 1⟩
  refine reports_of_acts _ (i.reportDefinition path line column reference) acts ?_ ?_ ?_ verbose
  · cases Provider.referenceAt d ⟨line - 1, column - 1⟩ <;> rfl
  · exact fun text locations y few => runOn_reportDefinition_text text few _ _ _ y
  · intro answered found y asked missed
    obtain ⟨envelope, answers, locations, source⟩ := answers_reportDefinition
      (i := i) answered path line column reference found.locations y
    exact ⟨envelope, answers, locations, source.trans (origin_of_findings asked missed)⟩

theorem reports_follow (proper : p.tree.Proper) (calls : p.Calls words .follow json b)
    (hpath : b.text? "PATH" = some path) (hline : b.number? "LINE" = some line)
    (hcharacter : b.number? "CHARACTER" = some column)
    (loaded : p.tree.loadDocument path = .ok d) :
    let i : Invocation := ⟨p.tree, p.environment, p.timestamp, json⟩
    Reports (p.run words) json ((i.search path (b.text? "workspace") d
      ⟨line, column⟩).runOn { server := p.server }) NamesLocations := by
  intro i
  obtain ⟨verbose, run⟩ := calls.run_eq
  have acts : p.acts .follow json b = i.follow path line column (b.text? "workspace") := by
    simp [Program.acts, command, hpath, hline, hcharacter, i]
  rw [follow_eq (i := i) proper loaded] at acts
  rw [run]
  refine reports_of_acts _ i.reportLink acts rfl ?_ ?_ verbose
  · exact fun text locations y few => runOn_reportLink_text text few y
  · exact fun answered found y _ _ => answers_reportLink (i := i) answered found.locations y

end

/-- Finding the definition at a place and following a link from there, the document opened again
by its name, are one search: they send the same and pause the same, fail alike, and name the same
locations, of which finding also says whether they are the server's. -/
theorem define_follow_agree (p : Program) (proper : p.tree.Proper) {json : Bool}
    {words words' : List String} {b b' : Bindings} (calls : p.Calls words .define json b)
    (calls' : p.Calls words' .follow json b') {path : String} {line column : Int} {d : Document}
    (place : b.text? "PATH" = some path ∧ b.number? "LINE" = some line ∧
      b.number? "COLUMN" = some column ∧ b.switch? "no_fallback" = none)
    (place' : b'.text? "PATH" = some path ∧ b'.number? "LINE" = some (line - 1) ∧
      b'.number? "CHARACTER" = some (column - 1) ∧ b'.text? "workspace" = b.text? "workspace")
    (loaded : p.tree.loadDocument path = .ok d) (positive : 1 ≤ line)
    (inside : line ≤ d.lineCount) :
    let i : Invocation :=
      { tree := p.tree, environment := p.environment, timestamp := p.timestamp, json }
    let searched := (i.search path (b.text? "workspace") d ⟨line - 1, column - 1⟩).runOn
      { server := p.server }
    let defined := p.run words
    let followed := p.run words'
    (∀ out ∈ [defined, followed],
      out.requests = searched.2.requests ∧ out.pauses = searched.2.pauses) ∧
    (∀ f, searched.1 = .error f →
      defined.exitCode = followed.exitCode ∧ defined.escaped = followed.escaped) ∧
    ∀ found, searched.1 = .ok found →
      (json = false → ∀ out ∈ [defined, followed],
        out.stdout = Text.withoutControls (lines (found.locations.map Location.display)) ∧
          out.exitCode = if found.locations = [] then 3 else 0) ∧
      (json = true → defined.exitCode = 0 ∧ followed.exitCode = 0 ∧
        ∃ answer answer' : Members, defined.stdout = (Json.obj answer).canonical ++ "\n" ∧
          followed.stdout = (Json.obj answer').canonical ++ "\n" ∧
          (Json.obj answer).field "locations" = locationsJson found.locations ∧
          (Json.obj answer').field "locations" = locationsJson found.locations ∧
          ((Json.obj answer).field "summary").field "source" = found.source) := by
  intro i searched defined followed
  obtain ⟨hpath, hline, hcolumn, hfallback⟩ := place
  obtain ⟨hpath', hline', hcharacter, same⟩ := place'
  have define : Reports defined json searched NamesSource :=
    reports_define calls hpath hline hcolumn hfallback loaded positive inside
  have follow : Reports followed json searched NamesLocations := by
    have reported := reports_follow proper calls' hpath' hline' hcharacter loaded
    rwa [same] at reported
  simp only [List.forall_mem_cons, List.not_mem_nil, false_imp_iff, implies_true, and_true]
  refine ⟨⟨⟨define.requests, define.pauses⟩, follow.requests, follow.pauses⟩, fun f failed => ?_,
    fun found came => ⟨fun text => ?_, fun answered => ?_⟩⟩
  · obtain ⟨code, fault⟩ := define.failed f failed
    obtain ⟨code', fault'⟩ := follow.failed f failed
    exact ⟨code.trans code'.symm, fault.trans fault'.symm⟩
  · exact ⟨define.text found came text, follow.text found came text⟩
  · obtain ⟨code, answer, stdout, locations, source⟩ := define.answer found came answered
    obtain ⟨code', answer', stdout', locations'⟩ := follow.answer found came answered
    exact ⟨code, code', answer, answer', stdout, stdout', locations, locations', source⟩

/-- A file with a call, and a server that answers the first lookup with a path. -/
def sampleProgram (uri : String) : Program :=
  { tree :=
      { entries := [(["ws"], .directory), (["ws", "A.mac"], .file [32, 100, 111, 32, 94, 66, 10])]
        current := ["ws"] }
    environment :=
      [("CCSNAV_HOST", "iris.local"), ("CCSNAV_PORT", "52773"), ("CCSNAV_NAMESPACE", "USER"),
       ("CCSNAV_USERNAME", "dev"), ("CCSNAV_PASSWORD", "secret")]
    timestamp := "2024-01-01T00:00:00+00:00"
    server := Server.ofReplies []
      [.response 200 ("\x7b\"uri\": \"" ++ uri ++ "\", \"line\": 3\x7d")] }

theorem define_follow_agree_server :
    let defined := (sampleProgram "/ws/B.mac").run ["define", "A.mac", "1", "6"]
    let followed := (sampleProgram "/ws/B.mac").run ["follow", "A.mac", "0", "5"]
    defined.requests = followed.requests ∧ ∀ out ∈ [defined, followed],
      out.stdout = "/ws/B.mac:3\n" ∧ out.exitCode = 0 := by
  intro defined followed
  let p := sampleProgram "/ws/B.mac"
  let d := Document.ofText "/ws/A.mac" " do ^B\n"
  have proper : p.tree.Proper := by constructor <;> decide
  have calls : p.Calls ["define", "A.mac", "1", "6"] .define false
      [("PATH", .text "A.mac"), ("LINE", .number 1), ("COLUMN", .number 6)] :=
    ⟨[], ["A.mac", "1", "6"], ⟨[], ["A.mac", "1", "6"]⟩, rfl, rfl, rfl, rfl, rfl, rfl⟩
  have calls' : p.Calls ["follow", "A.mac", "0", "5"] .follow false
      [("PATH", .text "A.mac"), ("LINE", .number 0), ("CHARACTER", .number 5)] :=
    ⟨[], ["A.mac", "0", "5"], ⟨[], ["A.mac", "0", "5"]⟩, rfl, rfl, rfl, rfl, rfl, rfl⟩
  have loaded : p.tree.loadDocument "A.mac" = .ok d :=
    eq_ok_of_toOption (by decide +kernel)
  obtain ⟨sent, _, reported⟩ := define_follow_agree p proper calls calls'
    ⟨rfl, rfl, rfl, rfl⟩ ⟨rfl, rfl, rfl, rfl⟩ loaded (by decide) (by decide)
  have found := reported (.server ⟨"/ws/B.mac", 2, 0⟩) (eq_ok_of_toOption (by decide +kernel))
  have plain : Text.withoutControls (lines ["/ws/B.mac:3"]) = "/ws/B.mac:3\n" := by decide +kernel
  rw [← plain]
  refine ⟨?_, found.1 rfl⟩
  have first := sent defined List.mem_cons_self
  have second := sent followed (List.mem_cons_of_mem _ List.mem_cons_self)
  exact first.1.trans second.1.symm

/-- A path with a control sequence in it is not printed as it is. -/
theorem define_drops_controls :
    let p := sampleProgram "\\u001b[31mB.mac"
    let i : Invocation := ⟨p.tree, p.environment, p.timestamp, false⟩
    let d := Document.ofText "/ws/A.mac" " do ^B\n"
    let l : Location := ⟨"\x1b[31mB.mac", 2, 0⟩
    p.tree.loadDocument "A.mac" = .ok d ∧
      ((i.search "A.mac" none d ⟨0, 5⟩).runOn { server := p.server }).1 = .ok (.server l) ∧
      (p.run ["define", "A.mac", "1", "6"]).stdout ≠ l.display ++ "\n" := by
  intro p i d l
  exact ⟨eq_ok_of_toOption (by decide +kernel), eq_ok_of_toOption (by decide +kernel),
    by decide +kernel⟩

end CommandLine.Program

end RefNav
