import Entitlements.Http.Body
import Entitlements.Http.Parameter
import Entitlements.Service.Command

/-!
# Endpoints

What can be asked for over the web: the path and the method of each endpoint, the command that a
request to it stands for, and the response to what the command answers.
-/

namespace Entitlements.Http

open Entitlements.Json Entitlements.Service

/-- What a path of the web leads to. -/
inductive Endpoint where
  | health
  | readiness
  | changeUser (operation : Operation)
  | changeGroup (operation : Operation)
  | createTemplate
  | removeUserFromTemplate
  | templateGroups
  | addUserToGroup
  | searchGroups
  | searchMyProjects
  | unsetRoot
  deriving DecidableEq, Repr, Inhabited

namespace Endpoint

/-- The endpoints and their paths. -/
def routes : List (List String × Endpoint) :=
  [(["api", "health"], .health),
    (["api", "health", "ready"], .readiness),
    (["api", "permissions", "add_user"], .changeUser .add),
    (["api", "permissions", "remove_user"], .changeUser .remove),
    (["api", "permissions", "add_group"], .changeGroup .add),
    (["api", "permissions", "remove_group"], .changeGroup .remove),
    (["api", "permissions", "create_template"], .createTemplate),
    (["api", "permissions", "remove_user_from_template"], .removeUserFromTemplate),
    (["api", "permissions", "template_groups"], .templateGroups),
    (["api", "user_groups", "add_user"], .addUserToGroup),
    (["api", "user_groups", "search"], .searchGroups),
    (["api", "projects", "search_my_projects"], .searchMyProjects),
    (["api", "root", "unset_root"], .unsetRoot)]

/-- The steps of a path. Slashes at its start do not count. -/
def steps (path : String) : List String :=
  (splitOnChar '/' (path.toList.dropWhile (· == '/'))).map String.ofList

/-- The endpoint at a path. -/
def ofPath? (path : String) : Option Endpoint := routes.lookup (steps path)

/-- The method of an endpoint. -/
def method : Endpoint → String
  | .health | .readiness | .templateGroups | .searchGroups | .searchMyProjects => "GET"
  | _ => "POST"

end Endpoint

/-- The methods of the web. -/
def methods : List String :=
  ["CONNECT", "DELETE", "GET", "HEAD", "OPTIONS", "PATCH", "POST", "PUT", "TRACE", "CHECKIN",
    "CHECKOUT", "COPY", "LOCK", "MKCOL", "MOVE", "PROPFIND", "PROPPATCH", "REPORT", "UNCHECKIN",
    "UNLOCK", "UPDATE", "VERSION-CONTROL"]

/-- An integer of a query, or what stands for it where none is given. -/
def queryInteger (q : Fields) (name : String) (default : Int) : Except Failure Int :=
  match q.get? name with
  | none => .ok default
  | some text =>
    match Number.readInt? text with
    | some n => .ok n
    | none => .error (.problem (.parameterNotInteger name))

/-- The page that a query asks for. -/
def queryPage (q : Fields) (size : Int) : Except Failure Page :=
  return ⟨← queryInteger q "p" 1, ← queryInteger q "ps" size⟩

/-- A fault of a parameter. -/
def liftFault {α : Type} : Except Fault α → Except Failure α
  | .ok a => .ok a
  | .error f => .error (.fault f)

/-- What a request to an endpoint asks for. -/
def Endpoint.command (r : Incoming) : Endpoint → Except Failure (Option Command)
  | .health | .readiness => return none
  | .changeUser operation => do
    let b ← r.fields
    return some (.changeUserPermission operation (← liftFault (mandatory b "login"))
      (← liftFault (mandatory b "permission")) (optionalText b "project_id")
      (optionalText b "project_key") (optionalText b "organization"))
  | .changeGroup operation => do
    let b ← r.fields
    return some (.changeGroupPermission operation (← liftFault (mandatory b "permission"))
      (← liftFault (optionalInteger b "group_id")) (optionalText b "group_name")
      (optionalText b "project_id") (optionalText b "project_key")
      (optionalText b "organization"))
  | .createTemplate => do
    let b ← r.fields
    return some (.createTemplate (some (← liftFault (mandatory b "name")))
      (optionalText b "description") (optionalText b "project_key_pattern")
      (optionalText b "organization"))
  | .removeUserFromTemplate => do
    let b ← r.fields
    return some (.removeUserFromTemplate (← liftFault (mandatory b "login"))
      (← liftFault (mandatory b "permission")) (optionalText b "template_id")
      (optionalText b "template_name") (optionalText b "organization"))
  | .templateGroups => do
    let q := Fields.ofQuery r.query
    return some (.templateGroups (q.get? "template_id") (q.get? "template_name")
      (q.get? "permission") (q.get? "q") (← queryPage q 20) (q.get? "organization"))
  | .addUserToGroup => do
    let b ← r.fields
    return some (.addUserToGroup (← liftFault (mandatory b "login"))
      (← liftFault (optionalInteger b "id")) (optionalText b "name")
      (optionalText b "organization"))
  | .searchGroups => do
    let q := Fields.ofQuery r.query
    return some (.searchGroups (q.get? "q") (← queryPage q 100) (q.get? "organization"))
  | .searchMyProjects => do
    let q := Fields.ofQuery r.query
    return some (.searchMyProjects (q.get? "q") (← queryPage q 100))
  | .unsetRoot => do
    let b ← r.fields
    return some (.unsetRoot (optionalText b "login"))

/-- A page of a listing in a body. -/
def paging {α : Type} (l : Listing α) : String × Value :=
  ("paging", .object
    [("pageIndex", .int l.page.index), ("pageSize", .int l.page.size), ("total", .int l.total)])

/-- The rows of a listing in a body. -/
def listing {α : Type} (name : String) (row : α → List (String × Value)) (l : Listing α) :
    Response :=
  Response.json 200
    (.object [paging l, (name, .list (l.rows.map fun a => .object (row a)))])

/-- A template group in a body. -/
def templateGroupRow (g : TemplateGroup) : List (String × Value) :=
  [("id", (g.group?.map Value.int).getD .null), ("name", .text g.name),
    ("description", Event.textOrNull g.description),
    ("permissions", .list (g.permissions.map .text))]

/-- A group in a body. -/
def groupRow (g : GroupSize) : List (String × Value) :=
  [("id", .int g.group.id), ("name", .text g.group.name),
    ("description", Event.textOrNull g.group.description), ("membersCount", .int g.members)]

/-- A project in a body. -/
def projectRow (c : Component) : List (String × Value) :=
  [("id", .text c.uuid), ("key", .text c.key), ("name", .text c.name)]

/-- A template in a body. -/
def templateBody (t : Template) : Value :=
  .object [("permissionTemplate", .object
    [("id", .text t.uuid), ("name", .text t.name),
      ("description", Event.textOrNull t.description),
      ("projectKeyPattern", Event.textOrNull t.keyPattern),
      ("createdAt", Event.textOrNull t.createdAt),
      ("updatedAt", Event.textOrNull t.updatedAt)])]

/-- The response to what a command answers. -/
def replyResponse : Reply → Response
  | .outcome _ | .done _ | .nothing => ⟨204, none, []⟩
  | .template t => Response.json 200 (templateBody t)
  | .templateGroups l => listing "groups" templateGroupRow l
  | .groups l => listing "groups" groupRow l
  | .projects l => listing "projects" projectRow l

/-- The response that tells how the service is. -/
def statusResponse (status : Nat) (word : String) : Response :=
  Response.json status (.object [("status", .text word)])

end Entitlements.Http
