import RefNav.Fault
import RefNav.Json.Literal
import RefNav.Text.Base64
import RefNav.Text.Percent

/-! # Connections

A connection says how to reach the server for a document.  Its values come from
configuration files and are kept as they stand, whatever their kind; what is
missing or empty makes the connection incomplete.
-/

namespace RefNav

open RefNav.Text

/-- How to reach the server for a document. -/
structure Connection where
  active : Json := .bool false
  namespaceName : Json := .null
  host : Json := .null
  port : Json := .null
  username : Json := .null
  password : Json := .null
  https : Json := .bool false
  pathPrefix : Json := .str ""
deriving Repr

namespace Connection

/-- Are both a user name and a password present? -/
def hasCredentials (c : Connection) : Bool :=
  c.username.truthy && c.password.truthy

/-- Can definitions be looked up over this connection? -/
def isComplete (c : Connection) : Bool :=
  c.active.truthy && c.namespaceName.truthy && c.host.truthy && c.port.truthy && c.hasCredentials

/-- The connection as it may be logged: of the credentials only their presence. -/
def summary (c : Connection) : Json :=
  .obj [("active", c.active), ("namespace", c.namespaceName), ("host", c.host), ("port", c.port),
    ("username", .bool c.username.truthy), ("password", .bool c.password.truthy)]

/-- The path under which the server offers its services. -/
def basePath : String :=
  "/api/sourcecontrol/vscode"

/-- Drop the slashes at the end of a text. -/
def trimSlashes (s : String) : String :=
  String.ofList (s.toList.reverse.dropWhile (· = '/')).reverse

/-- A path prefix with one slash in front and none behind. -/
def normalPrefix (s : String) : String :=
  let slashed := if s = "" || s.toList.head? = some '/' then s else "/" ++ s
  trimSlashes slashed

/-- The prefix as text; a value of another kind is no path, and half of a surrogate
pair has no place in a URL. -/
def prefixText (c : Connection) : Except Fault String :=
  match c.pathPrefix with
  | .str s => .ok s
  | .unpaired u =>
      .error (.unencodable
        (if u.before.head? = some '/' then u else { u with before := '/' :: u.before }))
  | v =>
      if v.truthy then
        .error (.failure .missingOperation
          ("'" ++ v.kindName ++ "' object has no attribute 'startswith'"))
      else .ok ""

/-- The URL below which the server's routes lie. -/
def baseUrl (c : Connection) : Except Fault String := do
  if !c.host.truthy || !c.port.truthy then throw .noConnection
  let path ← c.prefixText
  let scheme := if c.https.truthy then "https" else "http"
  return scheme ++ "://" ++ c.host.plain ++ ":" ++ c.port.plain ++ Percent.path (normalPrefix path)
    ++ basePath

end Connection

/-- The header value of basic authentication for joined credentials. -/
def basicHeader (credentials : List Char) : String :=
  "Basic " ++ String.ofList (Base64.encode (Utf8.encode credentials))

/-- The header value of basic authentication. -/
def basicAuthorization (username password : String) : String :=
  basicHeader (username.toList ++ ':' :: password.toList)

/-- The authorization header for two values.  They are used if both are strings;
half of a surrogate pair in one of them cannot be encoded. -/
def authorization (username password : Json) : Except Fault (List (String × String)) :=
  match username.points?, password.points? with
  | some u, some p =>
      match characters (u ++ .char ':' :: p) with
      | .ok credentials => .ok [("Authorization", basicHeader credentials)]
      | .error unpaired => .error (.unencodable unpaired)
  | _, _ => .ok []

theorem authorization_str (username password : String) :
    authorization (.str username) (.str password) =
      .ok [("Authorization", basicAuthorization username password)] := by
  have joined : username.toList.map CodePoint.char ++ .char ':' :: password.toList.map .char =
      (username.toList ++ ':' :: password.toList).map .char := by simp
  simp only [authorization, Json.points?]
  rw [joined, characters_map_char]
  rfl

/-- A place to send requests to. -/
structure Endpoint where
  baseUrl : String
  headers : List (String × String)
  verifyTls : Bool
deriving Repr, DecidableEq

namespace Endpoint

/-- The endpoint at a URL. -/
def make (url : String) (username password : Json) (verifyTls : Bool) : Except Fault Endpoint := do
  return {
    baseUrl := Connection.trimSlashes url
    headers := ("Content-Type", "application/json") :: (← authorization username password)
    verifyTls }

/-- The endpoint of a connection. -/
def ofConnection (verifyTls : Bool) (c : Connection) : Except Fault Endpoint := do
  make (← c.baseUrl) c.username c.password verifyTls

end Endpoint

namespace Route

/-- The route for definitions in a namespace, which has to be a text that can be
encoded. -/
def definition : Json → Except Fault String
  | .str name => .ok ("/namespaces/" ++ Percent.segment name ++ "/resolveDefinition")
  | .unpaired u => .error (.unencodable u)
  | _ => .error (.failure .badType "the name of a namespace is a text")

/-- The route for context expressions. -/
def contextExpression : String :=
  "/resolveContextExpression"

end Route

end RefNav
