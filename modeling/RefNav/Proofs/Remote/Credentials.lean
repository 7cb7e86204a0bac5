import RefNav.Proofs.Remote.Endpoint
import RefNav.Proofs.Remote.Wording

/-! # Credentials stay in their header

A lookup uses the credentials of its connection for one header and for nothing else.  Two
lookups over connections that differ in them run alike: they come to the same outcome, write
the same log, pause for the same times, and send the same requests but for the value of that
header.  There is one exception: credentials with half of a surrogate pair cannot be encoded, and
then the log says what stands at which place of them.  Lookups are told apart by their credentials
exactly if they get as far as encoding them and are refused in different ways.
-/

namespace RefNav

open RefNav.Number

/-- Headers with the value of the authorization left out. -/
def maskedHeaders (headers : List (String × String)) : List (String × String) :=
  headers.map fun h => if h.1 = "Authorization" then (h.1, "") else h

/-- A request with the value of its authorization left out. -/
def Request.masked (r : Request) : Request :=
  { r with headers := maskedHeaders r.headers }

/-- An endpoint with the value of its authorization left out. -/
def Endpoint.masked (e : Endpoint) : Endpoint :=
  { e with headers := maskedHeaders e.headers }

/-- An event with the value of an authorization left out. -/
def Event.masked : Event → Event
  | .request r => .request r.masked
  | e => e

namespace Event

variable (e : Event)

theorem isRequest_masked : e.masked.isRequest = e.isRequest := by
  cases e <;> rfl

theorem isPause_masked : e.masked.isPause = e.isPause := by
  cases e <;> rfl

theorem request?_masked : e.masked.request? = e.request?.map Request.masked := by
  cases e <;> rfl

theorem pause?_masked : e.masked.pause? = e.pause? := by
  cases e <;> rfl

theorem log?_masked : e.masked.log? = e.log? := by
  cases e <;> rfl

end Event

namespace Exchange

theorem countsSteps_masked : CountsSteps (List.map Event.masked) where
  append _ _ := List.map_append
  requests trace := by
    rw [List.countP_map]
    congr 1
    funext e
    exact e.isRequest_masked
  pauses trace := by
    rw [List.countP_map]
    congr 1
    funext e
    exact e.isPause_masked

variable {x y : Exchange}

theorem map_masked_requests (x : Exchange) :
    x.requests.map Request.masked = (x.trace.map Event.masked).filterMap Event.request? := by
  rw [requests, List.map_filterMap, List.filterMap_map]
  congr 1
  funext e
  exact e.request?_masked.symm

theorem pauses_masked (x : Exchange) :
    x.pauses = (x.trace.map Event.masked).filterMap Event.pause? := by
  rw [pauses, List.filterMap_map]
  congr 1
  funext e
  exact e.pause?_masked.symm

theorem log_masked (x : Exchange) :
    x.log = (x.trace.map Event.masked).filterMap Event.log? := by
  rw [log, List.filterMap_map]
  congr 1
  funext e
  exact e.log?_masked.symm

end Exchange

open Act (AgreesUpTo)

/-- Posting to endpoints that differ in their authorization. -/
theorem Act.post_masked {e f : Endpoint} (alike : e.masked = f.masked) (path : String)
    (body : Json) (timeout : Binary64) (bound : Bool) :
    AgreesUpTo (List.map Event.masked) (Act.post e path body timeout bound)
      (Act.post f path body timeout bound) := by
  have url : e.baseUrl = f.baseUrl := (congrArg Endpoint.baseUrl alike :)
  have headers : maskedHeaders e.headers = maskedHeaders f.headers :=
    (congrArg Endpoint.headers alike :)
  have verifyTls : e.verifyTls = f.verifyTls := (congrArg Endpoint.verifyTls alike :)
  unfold Act.post
  refine .bind (.send Exchange.countsSteps_masked bound ?_ rfl) fun reply => ?_
  · simp only [List.map_cons, List.map_nil, Event.masked, Request.masked]
    rw [url, headers, verifyTls]
  · -- What is done with the reply depends on the URL only.
    rw [url]
    split
    · exact .pure _
    · exact .pure _
    · exact .pure _
    · exact .pure _
    · split
      · refine .bind ((Act.Dialogue.readBody (p := fun _ => True) _).agreesUpTo
          Exchange.countsSteps_masked) fun value => ?_
        cases value <;> exact .pure _
      · exact .pure _

namespace Resolver

namespace Call

variable {c d : Call}

/-- Calls that differ in the authorization of their endpoints. -/
structure Alike (c d : Call) : Prop where
  endpoint : c.endpoint.masked = d.endpoint.masked
  path : c.path = d.path
  query : c.query = d.query
  timeoutMs : c.timeoutMs = d.timeoutMs
  bound : c.bound = d.bound

theorem Alike.attempt (alike : Alike c d) :
    AgreesUpTo (List.map Event.masked) c.attempt d.attempt := by
  unfold Call.attempt Call.body
  rw [alike.timeoutMs, alike.path, alike.query, alike.bound]
  split
  · exact .pure _
  · exact Act.post_masked alike.endpoint _ _ _ _

theorem Alike.conclude (alike : Alike c d) (attempt : Attempt) :
    AgreesUpTo (List.map Event.masked) (c.conclude attempt) (d.conclude attempt) := by
  have same : c.conclude attempt = d.conclude attempt := by
    cases attempt <;> simp only [Call.conclude, alike.query]
  rw [same]
  exact (d.dialogue_conclude (p := fun _ => True) attempt).agreesUpTo Exchange.countsSteps_masked

theorem Alike.wait (alike : Alike c d) (number : Nat) :
    AgreesUpTo (List.map Event.masked) (c.wait number) (d.wait number) := by
  have same : c.wait number = d.wait number := by
    simp only [Call.wait, alike.query, alike.timeoutMs, alike.bound]
  rw [same]
  exact (d.dialogue_wait (p := fun _ => True) number).agreesUpTo Exchange.countsSteps_masked

theorem Alike.run (alike : Alike c d) (left number : Nat) :
    AgreesUpTo (List.map Event.masked) (c.run left number) (d.run left number) := by
  induction left generalizing number with
  | zero =>
      refine .bind alike.attempt fun attempt => ?_
      split
      · exact .bind (.debug Exchange.countsSteps_masked _ _) fun _ => .pure _
      · exact alike.conclude _
  | succ left ih =>
      refine .bind alike.attempt fun attempt => ?_
      split
      · refine .bind (alike.wait number) fun again => ?_
        split
        · exact ih (number + 1)
        · exact .pure _
      · exact alike.conclude _

end Call

end Resolver

/-! ## Credentials -/

/-- The value is a string and not empty. -/
def Json.IsCredential (v : Json) : Prop :=
  v.truthy = true ∧ v.points?.isSome = true

instance (v : Json) : Decidable v.IsCredential :=
  inferInstanceAs (Decidable (_ ∧ _))

variable {username password username' password' : Json}

/-- Credentials that are encoded make one header. -/
theorem exists_authorization (hu : username.IsCredential) (hp : password.IsCredential)
    (h : refusal? username password = none) :
    ∃ value, authorization username password = .ok [("Authorization", value)] := by
  obtain ⟨u, hu⟩ := Option.isSome_iff_exists.mp hu.2
  obtain ⟨p, hp⟩ := Option.isSome_iff_exists.mp hp.2
  rw [refusal?_eq_of_points hu hp] at h
  simp only [authorization, hu, hp]
  cases encoded : Text.characters (u ++ .char ':' :: p) with
  | ok credentials => exact ⟨_, rfl⟩
  | error unpaired => simp [encoded] at h

namespace Connection

/-- The connection with credentials. -/
def signedIn (c : Connection) (username password : Json) : Connection :=
  { c with username, password }

variable {c : Connection}

/-- Only the presence of credentials is looked at. -/
theorem isComplete_signedIn (hu : username.IsCredential) (hp : password.IsCredential) :
    (c.signedIn username password).isComplete =
      (c.active.truthy && c.namespaceName.truthy && c.host.truthy && c.port.truthy) := by
  simp [isComplete, hasCredentials, signedIn, hu.1, hp.1]

/-- Only the presence of credentials is shown. -/
theorem summary_signedIn (hu : username.IsCredential) (hp : password.IsCredential) :
    (c.signedIn username password).summary =
      .obj [("active", c.active), ("namespace", c.namespaceName), ("host", c.host),
        ("port", c.port), ("username", .bool true), ("password", .bool true)] := by
  simp [summary, signedIn, hu.1, hp.1]

theorem ofConnection_signedIn (verifyTls : Bool) (c : Connection) (username password : Json) :
    Endpoint.ofConnection verifyTls (c.signedIn username password) =
      match c.baseUrl with
      | .ok base => Endpoint.make base username password verifyTls
      | .error fault => .error fault := by
  have url : (c.signedIn username password).baseUrl = c.baseUrl := rfl
  unfold Endpoint.ofConnection
  rw [url]
  cases c.baseUrl <;> rfl

end Connection

/-- Endpoints for credentials that are encoded alike differ in the header only. -/
theorem Endpoint.make_masked (hu : username.IsCredential) (hp : password.IsCredential)
    (hu' : username'.IsCredential) (hp' : password'.IsCredential)
    (same : refusal? username password = refusal? username' password') (url : String)
    (verifyTls : Bool) :
    (make url username password verifyTls).map masked =
      (make url username' password' verifyTls).map masked := by
  cases refused : refusal? username password with
  | none =>
      obtain ⟨value, encoded⟩ := exists_authorization hu hp refused
      obtain ⟨value', encoded'⟩ := exists_authorization hu' hp' (same ▸ refused)
      rw [make_of_encoded url verifyTls encoded, make_of_encoded url verifyTls encoded']
      rfl
  | some fault =>
      rw [make_of_refused url verifyTls (exists_unencodable refused).1,
        make_of_refused url verifyTls (exists_unencodable (same ▸ refused)).1]

/-! ## Lookups -/

namespace Resolver

/-- Endpoints are made from the connection, or making one always fails. -/
def IsStandard (r : Resolver) : Prop :=
  (∃ verifyTls, r.connect = Endpoint.ofConnection verifyTls) ∨
    ∃ fault, r.connect = fun _ => .error fault

/-- The lookup gets as far as encoding the credentials of its connection. -/
structure Encodes (r : Resolver) (query : String) (c : Connection) : Prop where
  complete : c.isComplete = true
  query_ne : query ≠ ""
  direct : ∃ verifyTls, r.connect = Endpoint.ofConnection verifyTls
  addressed : ∃ base, c.baseUrl = .ok base

variable {r : Resolver} {query : String} {c : Connection}

theorem IsStandard.connect (standard : r.IsStandard) (hu : username.IsCredential)
    (hp : password.IsCredential) (hu' : username'.IsCredential) (hp' : password'.IsCredential)
    (complete : (c.signedIn username password).isComplete = true) (query_ne : query ≠ "")
    (same : r.Encodes query (c.signedIn username password) →
      refusal? username password = refusal? username' password') :
    (r.connect (c.signedIn username password)).map Endpoint.masked =
      (r.connect (c.signedIn username' password')).map Endpoint.masked := by
  rcases standard with ⟨verifyTls, direct⟩ | ⟨fault, failing⟩
  · rw [direct, Connection.ofConnection_signedIn, Connection.ofConnection_signedIn]
    cases url : c.baseUrl with
    | error fault => rfl
    | ok base =>
        exact Endpoint.make_masked hu hp hu' hp'
          (same ⟨complete, query_ne, ⟨verifyTls, direct⟩, base, url⟩) base verifyTls
  · rw [failing]

theorem IsStandard.lookup (standard : r.IsStandard) (query : String) (c : Connection)
    (bound : Bool) (callTimeout : Option Int) (hu : username.IsCredential)
    (hp : password.IsCredential) (hu' : username'.IsCredential) (hp' : password'.IsCredential)
    (same : r.Encodes query (c.signedIn username password) →
      refusal? username password = refusal? username' password') :
    AgreesUpTo (List.map Event.masked)
      (r.lookup query (c.signedIn username password) bound callTimeout)
      (r.lookup query (c.signedIn username' password') bound callTimeout) := by
  have debug {source : Source} {message : String} :
      AgreesUpTo (List.map Event.masked) (Act.debug source message) (Act.debug source message) :=
    .debug Exchange.countsSteps_masked _ _
  have complete := Connection.isComplete_signedIn (c := c) hu hp
  unfold Resolver.lookup
  rw [complete, Connection.isComplete_signedIn hu' hp', Connection.summary_signedIn hu hp,
    Connection.summary_signedIn hu' hp']
  split
  · exact .bind debug fun _ => .pure _
  next present =>
    split
    · exact .bind debug fun _ => .pure _
    next query_ne =>
      have connected := standard.connect hu hp hu' hp'
        (complete.trans (by simpa using present)) query_ne same
      cases first : r.connect (c.signedIn username password) with
      | error fault =>
          cases second : r.connect (c.signedIn username' password') with
          | error fault' =>
              rw [first, second] at connected
              obtain rfl : fault = fault' := Except.error.inj connected
              exact .bind debug fun _ => .pure _
          | ok endpoint =>
              rw [first, second] at connected
              cases connected
      | ok endpoint =>
          cases second : r.connect (c.signedIn username' password') with
          | error fault =>
              rw [first, second] at connected
              cases connected
          | ok endpoint' =>
              rw [first, second] at connected
              have alike : endpoint.masked = endpoint'.masked := Except.ok.inj connected
              refine .bind (.of_outcome _) fun path => ?_
              have calls : Call.Alike
                  ⟨endpoint, path, query, r.effectiveTimeout callTimeout, bound⟩
                  ⟨endpoint', path, query, r.effectiveTimeout callTimeout, bound⟩ :=
                ⟨alike, rfl, rfl, rfl, rfl⟩
              exact calls.run _ _

/-- Two runs of a lookup that nothing tells apart but the value of an authorization header. -/
structure Indistinct (first second : Except Fault (Option Location) × Exchange) : Prop where
  outcome : first.1 = second.1
  log : first.2.log = second.2.log
  pauses : first.2.pauses = second.2.pauses
  requests : first.2.requests.map Request.masked = second.2.requests.map Request.masked
  token : first.2.token = second.2.token
  /-- The same happens at the same moments. -/
  trace : first.2.trace.map Event.masked = second.2.trace.map Event.masked

theorem Indistinct.of_agrees {a b : Act (Option Location)}
    (h : AgreesUpTo (List.map Event.masked) a b) (x : Exchange) :
    Indistinct (a.runOn x) (b.runOn x) := by
  obtain ⟨outcome, seen⟩ := h x x rfl
  have trace : (a.runOn x).2.trace.map Event.masked = (b.runOn x).2.trace.map Event.masked :=
    (congrArg Exchange.trace seen :)
  refine ⟨outcome, ?_, ?_, ?_, (congrArg Exchange.token seen :), trace⟩
  · rw [Exchange.log_masked, trace, ← Exchange.log_masked]
  · rw [Exchange.pauses_masked, trace, ← Exchange.pauses_masked]
  · rw [Exchange.map_masked_requests, trace, ← Exchange.map_masked_requests]

theorem Indistinct.symm {first second : Except Fault (Option Location) × Exchange}
    (h : Indistinct first second) : Indistinct second first :=
  ⟨h.outcome.symm, h.log.symm, h.pauses.symm, h.requests.symm, h.token.symm, h.trace.symm⟩

/-- The log of a lookup whose credentials cannot be encoded. -/
theorem Encodes.log_of_refused {fault : Fault} (h : r.Encodes query (c.signedIn username password))
    (refused : refusal? username password = some fault) (bound : Bool) (callTimeout : Option Int)
    (x : Exchange) :
    ((r.lookup query (c.signedIn username password) bound callTimeout).runOn x).2.log =
      x.log ++ [⟨.debug, .lookup, refusalText fault⟩] := by
  obtain ⟨verifyTls, direct⟩ := h.direct
  obtain ⟨base, url⟩ := h.addressed
  have url : c.baseUrl = .ok base := url
  have failed : r.connect (c.signedIn username password) = .error fault := by
    rw [direct, Connection.ofConnection_signedIn, url]
    exact Endpoint.make_of_refused base verifyTls (exists_unencodable refused).1
  rw [lookup_refused h.complete h.query_ne failed, Exchange.log_add_log]

theorem Encodes.connects (h : r.Encodes query (c.signedIn username password))
    (encoded : refusal? username password = none) :
    ∃ endpoint, r.Connects query (c.signedIn username password) endpoint := by
  obtain ⟨verifyTls, direct⟩ := h.direct
  obtain ⟨base, url⟩ := h.addressed
  have url : c.baseUrl = .ok base := url
  obtain ⟨header, made⟩ := exists_authorization_of_refusal? encoded
  have connected : r.connect (c.signedIn username password) =
      Endpoint.make base username password verifyTls := by
    rw [direct, Connection.ofConnection_signedIn, url]
  exact ⟨_, h.complete, h.query_ne,
    connected.trans (Endpoint.make_of_encoded base verifyTls made)⟩

/-- A lookup that is refused and one that makes its call are told apart by their logs. -/
theorem Encodes.distinct {fault : Fault} (h : r.Encodes query (c.signedIn username password))
    (h' : r.Encodes query (c.signedIn username' password'))
    (refused : refusal? username password = some fault)
    (encoded : refusal? username' password' = none) (bound : Bool) (callTimeout : Option Int)
    (x : Exchange) :
    ¬ Indistinct ((r.lookup query (c.signedIn username password) bound callTimeout).runOn x)
      ((r.lookup query (c.signedIn username' password') bound callTimeout).runOn x) := by
  intro same
  obtain ⟨endpoint, connects⟩ := h'.connects encoded
  obtain ⟨records, written, all⟩ := writes_lookup connects bound callTimeout x
  have log := same.log
  rw [h.log_of_refused refused, written] at log
  have only : records = [⟨.debug, .lookup, refusalText fault⟩] := (List.append_cancel_left log).symm
  exact not_aboutCall_refusalText fault (all ⟨.debug, .lookup, refusalText fault⟩ (by simp [only]))

/-- Refusals that are worded alike are the same. -/
theorem refusal?_eq_of_text {fault fault' : Fault}
    (refused : refusal? username password = some fault)
    (refused' : refusal? username' password' = some fault')
    (same : refusalText fault = refusalText fault') :
    fault = fault' := by
  obtain ⟨-, unpaired, rfl⟩ := exists_unencodable refused
  obtain ⟨-, unpaired', rfl⟩ := exists_unencodable refused'
  have message : unpaired.message = unpaired'.message := (String.append_right_inj _).mp same
  rw [Fault.unencodable, Fault.unencodable, message]

/-- Lookups over connections that differ in their credentials only, all of them strings and not
empty, are told apart by them exactly if they get as far as encoding them and are refused in
different ways.  Strings without halves of surrogate pairs are never refused. -/
theorem lookup_hides_credentials (standard : r.IsStandard) (query : String) (c : Connection)
    (username password username' password' : Json) (hu : username.IsCredential)
    (hp : password.IsCredential) (hu' : username'.IsCredential) (hp' : password'.IsCredential)
    (bound : Bool) (callTimeout : Option Int) (x : Exchange) :
    let first := (r.lookup query (c.signedIn username password) bound callTimeout).runOn x
    let second := (r.lookup query (c.signedIn username' password') bound callTimeout).runOn x
    (Indistinct first second ↔ (r.Encodes query (c.signedIn username password) →
      refusal? username password = refusal? username' password')) ∧
    ((∀ v ∈ [username, password, username', password'], ∃ s, v = .str s) →
      Indistinct first second) := by
  intro first second
  have alike (same : r.Encodes query (c.signedIn username password) →
      refusal? username password = refusal? username' password') : Indistinct first second :=
    .of_agrees (standard.lookup query c bound callTimeout hu hp hu' hp' same) x
  refine ⟨⟨fun same encodes => ?_, alike⟩, fun plain => alike fun _ => ?_⟩
  · have encodes' : r.Encodes query (c.signedIn username' password') := {
      complete := by
        rw [Connection.isComplete_signedIn hu' hp', ← Connection.isComplete_signedIn hu hp]
        exact encodes.complete
      query_ne := encodes.query_ne
      direct := encodes.direct
      addressed := encodes.addressed }
    cases refused : refusal? username password with
    | none =>
        cases refused' : refusal? username' password' with
        | none => rfl
        | some fault' =>
            exact absurd same.symm (encodes'.distinct encodes refused' refused bound callTimeout x)
    | some fault =>
        cases refused' : refusal? username' password' with
        | none => exact absurd same (encodes.distinct encodes' refused refused' bound callTimeout x)
        | some fault' =>
            have log := same.log
            rw [encodes.log_of_refused refused, encodes'.log_of_refused refused'] at log
            have record := List.singleton_inj.mp (List.append_cancel_left log)
            exact congrArg some
              (refusal?_eq_of_text refused refused' (congrArg LogRecord.message record))
  · obtain ⟨u, rfl⟩ := plain username (by simp)
    obtain ⟨p, rfl⟩ := plain password (by simp)
    obtain ⟨u', rfl⟩ := plain username' (by simp)
    obtain ⟨p', rfl⟩ := plain password' (by simp)
    rw [refusal?_str, refusal?_str]

/-- A connection without credentials. -/
def sampleConnection : Connection :=
  { active := .bool true, namespaceName := .str "USER", host := .str "h", port := .int 80 }

/-- A lookup that times out twice, for two users. -/
theorem lookup_hides_credentials_retried :
    let r : Resolver := {}
    let run (username password : String) :=
      (r.lookup "^A" (sampleConnection.signedIn (.str username) (.str password)) false none).runOn
        { server := .ofReplies [] [.timeout] }
    (∀ v ∈ [Json.str "ann", .str "x", .str "bob", .str "y"], v.IsCredential) ∧ r.IsStandard ∧
      (run "ann" "x").2.log = (run "bob" "y").2.log := by
  intro r run
  have given : ∀ v ∈ [Json.str "ann", .str "x", .str "bob", .str "y"], v.IsCredential := by
    simp only [List.forall_mem_cons, List.not_mem_nil, false_imp_iff, implies_true, and_true]
    decide
  have standard : r.IsStandard := .inl ⟨true, rfl⟩
  have hides := lookup_hides_credentials standard "^A" sampleConnection (.str "ann") (.str "x")
    (.str "bob") (.str "y") (given _ (by simp)) (given _ (by simp)) (given _ (by simp))
    (given _ (by simp)) false none { server := .ofReplies [] [.timeout] }
  exact ⟨given, standard, (hides.2 (by simp)).log⟩

/-- A password that begins with half of a surrogate pair gets into the log: its first character
and the place of it. -/
theorem lookup_shows_unencodable_password :
    let r : Resolver := {}
    let secret : Text.Unpaired := ⟨[], ⟨0⟩, "secret".toList.map .char⟩
    let run (password : Json) :=
      (r.lookup "^A" (sampleConnection.signedIn (.str "u") password) false none).runOn
        { server := .ofReplies [] [.response 200 "{}"] }
    (Json.unpaired secret).IsCredential ∧ (Json.str "secret").IsCredential ∧
      (run (.unpaired secret)).2.log = [⟨.debug, .lookup,
        "Failed to create source-control transport: 'utf-8' codec can't encode character '\\ud800' "
          ++ "in position 2: surrogates not allowed"⟩] ∧
      (run (.unpaired secret)).2.requests = [] ∧ (run (.str "secret")).2.requests.length = 1 ∧
      (run (.unpaired secret)).2.log ≠ (run (.str "secret")).2.log := by
  intro r secret run
  refine ⟨by decide, by decide, by decide +kernel, by decide +kernel, by decide +kernel,
    by decide +kernel⟩

end Resolver

end RefNav
