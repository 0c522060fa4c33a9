import Entitlements.Client.Arguments
import Entitlements.Json.Reader

/-!
# What the client says to the services

The client fetches a token for an account first and asks for the change with it then. It tells
what was done, or what the service answered instead.
-/

namespace Entitlements.Client

open Json (Value)

/-- What a message to a service holds. -/
inductive Content where
  /-- The fields of a form. -/
  | form (fields : List (String × String))
  /-- The fields of an object. -/
  | object (fields : List (String × String))
  deriving DecidableEq, Repr

/-- A message to a service. -/
structure Post where
  /-- Where it goes. -/
  url : String
  /-- Its headers. -/
  headers : List (String × String)
  /-- What it holds. -/
  content : Content
  deriving DecidableEq, Repr

/-- How many seconds the client waits for an answer. -/
def patience : Number.Double := .ofDecimal false 30 0

/-- What a service answers. -/
structure Answer where
  /-- The status of the answer. -/
  status : Int
  /-- The text of the answer. -/
  text : String
  deriving DecidableEq, Repr, Inhabited

/-- Why the client gives up. -/
inductive Failure where
  /-- No token is given out. -/
  | noToken
  /-- The answer with the token cannot be read. -/
  | unreadable
  /-- The answer with the token stands too deep in itself. -/
  | tooDeep
  /-- The answer has no token. -/
  | tokenMissing
  /-- The answer is nothing that could have a token. -/
  | notAnObject
  /-- A service does not answer at all. -/
  | unanswered
  deriving DecidableEq, Repr, Inhabited

/-- What the client complains about as it gives up. -/
def Failure.message : Failure → String
  | .noToken => "the service gives out no token"
  | .unreadable => "the answer with the token cannot be read"
  | .tooDeep => "the answer with the token is nested too deeply"
  | .tokenMissing => "the answer has no token"
  | .notAnObject => "the answer is no object"
  | .unanswered => "no answer"

/-- How the client ends. -/
structure Ending where
  /-- The exit code. -/
  code : Nat
  /-- What it tells. -/
  output : String := ""
  /-- What it complains about. -/
  complaint : String := ""
  deriving DecidableEq, Repr, Inhabited

/-- A dialogue with services. -/
inductive Dialogue where
  /-- The dialogue is over. -/
  | over (e : Except Failure Ending)
  /-- Send a message and go on with the answer. -/
  | send (p : Post) (next : Answer → Dialogue)

/-- Lead a dialogue with answers that are known beforehand: what is said, and how it ends. -/
def Dialogue.run : Dialogue → List Answer → List Post × Except Failure Ending
  | .over e, _ => ([], e)
  | .send p _, [] => ([p], .error .unanswered)
  | .send p next, a :: rest =>
    let (posts, e) := (next a).run rest
    (p :: posts, e)

/-- Where the services are, and on whose account the client acts. -/
structure Account where
  /-- Where the service is. -/
  apiUrl : String
  /-- Where tokens are given out. -/
  keycloakUrl : String
  /-- The realm of the tokens. -/
  realm : String
  /-- The name of the client. -/
  clientId : String
  /-- The secret of the client. -/
  clientSecret : String
  /-- The name of the user. -/
  user : String
  /-- The password of the user. -/
  password : String
  deriving DecidableEq, Repr, Inhabited

/-- A text without the slashes at its end. -/
def withoutSlashes (s : String) : String :=
  String.ofList (s.toList.reverse.dropWhile (· == '/')).reverse

/-- The account that the surroundings tell of. -/
def Account.read (env : List (String × String)) : Account :=
  let text (name usual : String) := (env.lookup name).getD usual
  { apiUrl := withoutSlashes (text "API_URL" "http://localhost:8000")
    keycloakUrl := withoutSlashes (text "KEYCLOAK_URL" "http://localhost:8080")
    realm := text "KEYCLOAK_REALM" "grantkeeper"
    clientId := text "KEYCLOAK_CLIENT_ID" "grantkeeper-api"
    clientSecret := text "KEYCLOAK_CLIENT_SECRET" "grantkeeper-api-secret"
    user := text "ADMIN_USER" "admin"
    password := text "ADMIN_PASSWORD" "admin" }

/-- Ask for a token. -/
def tokenPost (a : Account) : Post where
  url := a.keycloakUrl ++ "/realms/" ++ a.realm ++ "/protocol/openid-connect/token"
  headers := [("Content-Type", "application/x-www-form-urlencoded")]
  content := .form [("grant_type", "password"), ("client_id", a.clientId),
    ("client_secret", a.clientSecret), ("username", a.user), ("password", a.password)]

/-- The token of an answer, as a text. -/
def readToken (a : Answer) : Except Failure String :=
  if a.status < 200 ∨ 300 ≤ a.status then .error .noToken
  else
    match Json.read a.text with
    | .error .malformed => .error .unreadable
    | .error .tooDeep => .error .tooDeep
    | .ok (.object fields) =>
      match fields.find? (·.1 == "access_token") with
      | some (_, token) => .ok token.display
      | none => .error .tokenMissing
    | .ok _ => .error .notAnObject

/-- A field, where it says something. -/
def optionalField (name : String) (value? : Option String) : List (String × String) :=
  match value? with
  | some value => if value.isEmpty then [] else [(name, value)]
  | none => []

/-- Ask for the change. -/
def changePost (a : Account) (token : String) (i : Invocation) : Post where
  url := a.apiUrl ++ "/api/permissions/" ++ i.operation ++ "_user"
  headers := [("Authorization", "Bearer " ++ token), ("Content-Type", "application/json")]
  content := .object ([("login", i.login), ("permission", i.permission)] ++
    optionalField "project_id" i.projectId? ++ optionalField "project_key" i.projectKey? ++
    optionalField "organization" i.organization?)

/-- Tell what was done, or what was answered instead. -/
def report (i : Invocation) (a : Answer) : Ending :=
  if a.status == 204 then
    { code := 0
      output := i.operation ++ ": '" ++ i.permission ++ "' for '" ++ i.login ++ "'\n" }
  else { code := 1, complaint := toString a.status ++ ": " ++ a.text ++ "\n" }

/-- The dialogue for a change. -/
def dialogue (a : Account) (i : Invocation) : Dialogue :=
  .send (tokenPost a) fun answer =>
    match readToken answer with
    | .error f => .over (.error f)
    | .ok token => .send (changePost a token i) fun answer => .over (.ok (report i answer))

end Entitlements.Client
