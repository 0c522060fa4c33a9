import Entitlements.Event
import Entitlements.Service.Command
import Entitlements.Setup.Settings

/-!
# Records

How the things of the library are shown as structured values. A thing with parts is an object
whose fields carry the names that the database and the settings have for them; sets are listed in
order.
-/

namespace Entitlements

open Json (Value)

/-- Things that are shown as structured values. -/
class ToRecord (α : Type) where
  /-- A thing as a structured value. -/
  toRecord : α → Value

export ToRecord (toRecord)

instance : ToRecord Unit := ⟨fun _ => .null⟩

instance : ToRecord Bool := ⟨.bool⟩

instance : ToRecord Int := ⟨.int⟩

instance : ToRecord String := ⟨.text⟩

instance {α : Type} [ToRecord α] : ToRecord (Option α) :=
  ⟨fun a? => (a?.map toRecord).getD .null⟩

instance {α : Type} [ToRecord α] : ToRecord (List α) := ⟨fun as => .list (as.map toRecord)⟩

instance : ToRecord Holder where
  toRecord
    | .user id login => .object [("user", .list [.int id, .text login])]
    | .group id => .object [("group", .int id)]
    | .anyone => .text "anyone"

instance : ToRecord Scope where
  toRecord
    | .organization o => .object [("organization", .text o)]
    | .project p o => .object [("project", .text p), ("organization", .text o)]

instance : ToRecord Grant where
  toRecord g :=
    .object [("organization", .text g.organization), ("holder", toRecord g.holder),
      ("permission", .text g.permission), ("project", toRecord g.scope.project?)]

instance : ToRecord Organization where
  toRecord o :=
    .object [("uuid", .text o.uuid), ("key", .text o.key), ("name", .text o.name)]

instance : ToRecord User where
  toRecord u :=
    .object [("id", .int u.id), ("login", .text u.login), ("name", toRecord u.name),
      ("email", toRecord u.email), ("active", .bool u.active), ("root", .bool u.root)]

instance : ToRecord Group where
  toRecord g :=
    .object [("id", .int g.id), ("organization_uuid", .text g.organization),
      ("name", .text g.name), ("description", toRecord g.description),
      ("created_at", toRecord g.createdAt), ("updated_at", toRecord g.updatedAt)]

instance : ToRecord GroupSize where
  toRecord g :=
    .object [("group", toRecord g.group), ("members_count", .int g.members)]

instance : ToRecord Component where
  toRecord c :=
    .object [("uuid", .text c.uuid), ("key", .text c.key), ("name", .text c.name),
      ("qualifier", .text c.qualifier), ("project_uuid", .text c.project),
      ("organization_uuid", .text c.organization)]

instance : ToRecord Template where
  toRecord t :=
    .object [("uuid", .text t.uuid), ("organization_uuid", .text t.organization),
      ("name", .text t.name), ("description", toRecord t.description),
      ("key_pattern", toRecord t.keyPattern), ("created_at", toRecord t.createdAt),
      ("updated_at", toRecord t.updatedAt)]

instance : ToRecord TemplateGroup where
  toRecord g :=
    .object [("holder", toRecord g.holder), ("name", .text g.name),
      ("description", toRecord g.description),
      ("permissions", toRecord g.permissions)]

/-- A page of a listing as a value; its rows stand under a name. -/
def Record.listing {α : Type} [ToRecord α] (name : String) (l : Listing α) : Value :=
  .object [(name, toRecord l.rows), ("page", .int l.page.index),
    ("page_size", .int l.page.size), ("total", .int l.total)]

instance : ToRecord Outcome where
  toRecord
    | .applied => .text "applied"
    | .unchanged => .text "unchanged"
    | .rejected r => .object [("rejected", .text r.reason)]

instance : ToRecord Service.Reply where
  toRecord
    | .outcome o => toRecord o
    | .done b => .bool b
    | .template t => toRecord t
    | .templateGroups l => Record.listing "groups" l
    | .groups l => Record.listing "groups" l
    | .projects l => Record.listing "projects" l
    | .nothing => .null

/-- A set of texts, listed in order. -/
def Record.set (xs : List String) : Value := .list (xs.eraseDups.mergeSort.map .text)

/-- Pairs by their first texts, in order, each with the set of the second ones. -/
def Record.pairs (ps : List (String × String)) : Value :=
  .object ((ps.map (·.1)).eraseDups.mergeSort.map fun k =>
    (k, Record.set ((ps.filter (·.1 == k)).map (·.2))))

instance : ToRecord Snapshot where
  toRecord s :=
    .object [("global", Record.pairs s.onOrganizations), ("project", Record.pairs s.onProjects)]

instance : ToRecord Event where
  toRecord e :=
    .object (("event", .text e.name) :: ("level", .text e.level.name) :: e.fields)

instance : ToRecord Setup.Settings where
  toRecord s :=
    .object [("database_url", .text s.databaseUrl), ("db_pool_min_size", .int s.poolMinSize),
      ("db_pool_max_size", .int s.poolMaxSize), ("db_pool_timeout", .number s.poolTimeout),
      ("keycloak_url", .text s.keycloakUrl), ("keycloak_realm", .text s.keycloakRealm),
      ("keycloak_client_id", .text s.keycloakClientId),
      ("keycloak_client_secret", .text s.keycloakClientSecret), ("host", .text s.host),
      ("port", .int s.port), ("cors_origins", .text s.corsOrigins),
      ("environment", .text s.environment.name), ("log_level", .text s.logLevel),
      ("debug", .bool s.debug)]

end Entitlements
