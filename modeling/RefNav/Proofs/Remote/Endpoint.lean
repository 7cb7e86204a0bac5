import RefNav.Remote.Connection

/-! # Making an endpoint

A connection whose prefix is a string makes an endpoint, unless a text of it that goes into the
request has half of a surrogate pair: the prefix, or one of the credentials.
-/

namespace RefNav

variable {username password : Json} {connection : Connection}

/-- Why the credentials cannot be encoded, if they cannot. -/
def refusal? (username password : Json) : Option Fault :=
  match authorization username password with
  | .ok _ => none
  | .error fault => some fault

theorem refusal?_eq_of_points {u p : List Text.CodePoint} (hu : username.points? = some u)
    (hp : password.points? = some p) :
    refusal? username password =
      match Text.characters (u ++ .char ':' :: p) with
      | .ok _ => none
      | .error unpaired => some (.unencodable unpaired) := by
  simp only [refusal?, authorization, hu, hp]
  cases Text.characters (u ++ .char ':' :: p) <;> rfl

theorem refusal?_str (username password : String) :
    refusal? (.str username) (.str password) = none := by
  rw [refusal?, authorization_str]

/-- Credentials that cannot be encoded hold half of a surrogate pair. -/
theorem exists_unencodable {fault : Fault} (h : refusal? username password = some fault) :
    authorization username password = .error fault ∧
      ∃ unpaired, fault = .unencodable unpaired := by
  unfold refusal? at h
  split at h
  next => cases h
  next refused =>
    obtain rfl := Option.some.inj h
    refine ⟨refused, ?_⟩
    unfold authorization at refused
    split at refused
    · split at refused
      · cases refused
      · exact ⟨_, (Except.error.inj refused).symm⟩
    · cases refused

theorem Endpoint.make_of_encoded {header : List (String × String)} (url : String) (verifyTls : Bool)
    (h : authorization username password = .ok header) :
    Endpoint.make url username password verifyTls =
      .ok ⟨Connection.trimSlashes url, ("Content-Type", "application/json") :: header,
        verifyTls⟩ := by
  rw [make, h]
  rfl

theorem Endpoint.make_of_refused {fault : Fault} (url : String) (verifyTls : Bool)
    (h : authorization username password = .error fault) :
    Endpoint.make url username password verifyTls = .error fault := by
  rw [make, h]
  rfl

/-- The texts of the connection that go into a request can be encoded. -/
structure Connection.Encodable (connection : Connection) : Prop where
  pathPrefix : ∃ path, connection.pathPrefix = .str path
  credentials : refusal? connection.username connection.password = none

theorem exists_authorization_of_refusal? (h : refusal? username password = none) :
    ∃ header, authorization username password = .ok header := by
  unfold refusal? at h
  split at h
  next header made => exact ⟨header, made⟩
  next => cases h

end RefNav
