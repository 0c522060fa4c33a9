import Entitlements.Query
import Entitlements.Sql.Condition
import Entitlements.Sql.Like

/-!
# The statement of every question

What the database is told for each question to the store. Values never become words of a
statement; all that can change its words is which values are given.
-/

namespace Entitlements.Sql

/-- The columns of users. -/
def userColumns : String := "id, login, name, email, active, is_root"

/-- The columns of organizations. -/
def organizationColumns : String := "uuid, kee, name"

/-- The columns of components. -/
def componentColumns : String :=
  "c.uuid, c.kee, c.name, c.qualifier, c.project_uuid, c.organization_uuid"

/-- The columns of groups. -/
def groupColumns : String :=
  "g.id, g.organization_uuid, g.name, g.description, g.created_at, g.updated_at"

/-- The columns of templates. -/
def templateColumns : String :=
  "uuid, organization_uuid, name, description, key_pattern, created_at, updated_at"

/-- The property that names the default organization. -/
def defaultOrganizationProperty : String := "organization.default"

/-- The lock that keeps others from changing the grants of an organization. -/
def lockName (organization : String) : String := "grants:" ++ organization

/-- A search text that says something. -/
def searched (query? : Option String) : Option String := query?.filter (!·.isEmpty)

/-- Groups by name. -/
def nameFilter (query? : Option String) : Fragment :=
  match searched query? with
  | none => []
  | some query =>
    [.words " AND lower(g.name) LIKE ", .place (.text (containing query)), .words " ESCAPE '/'"]

/-- Projects by name or exact key. -/
def projectFilter (query? : Option String) : Fragment :=
  match searched query? with
  | none => []
  | some query =>
    [.words " AND (lower(c.name) LIKE ", .named "name" (.text (containing query)),
      .words " ESCAPE '/' OR c.kee = ", .named "key" (.text query), .words ")"]

/-- The projects on which a user has a permission in person or through a group. -/
def projectsWith (user : Int) (permission : Permission) : Fragment :=
  [.words "FROM components c WHERE c.enabled AND c.qualifier = ",
    .named "qualifier" (.text Component.projectQualifier),
    .words (" AND c.project_uuid = c.uuid " ++
      "AND EXISTS (SELECT 1 FROM grants g WHERE g.project_uuid = c.uuid AND g.permission = "),
    .named "permission" (.text permission),
    .words " AND ((g.holder_kind = 'user' AND g.user_id = ",
    .named "user_id" (.int user),
    .words (") OR (g.holder_kind = 'group' AND g.group_id IN " ++
      "(SELECT group_id FROM groups_users WHERE user_id = "),
    .named "user_id" (.int user), .words "))))"]

/-- Everyone and the groups of an organization, with what a template gives them. -/
def templateHolders (template organization : String) : Fragment :=
  [.words "FROM (SELECT 0 AS rank, NULL::bigint AS id, ",
    .named "anyone" (.text Holder.anyoneName),
    .words ("::text AS name, NULL::text AS description UNION ALL " ++
      "SELECT 1, g.id, g.name, g.description FROM groups g WHERE g.organization_uuid = "),
    .named "organization_uuid" (.text organization),
    .words ") c LEFT JOIN permission_template_grants t ON t.template_uuid = ",
    .named "template_uuid" (.text template),
    .words (" AND ((c.id IS NULL AND t.holder_kind = 'anyone') " ++
      "OR (t.holder_kind = 'group' AND t.group_id = c.id))")]

/-- Those of them that a search text finds. -/
def templateHolderFilter (query? : Option String) : Fragment :=
  match searched query? with
  | none => []
  | some query =>
    [.words " WHERE lower(c.name) LIKE ", .named "query" (.text (containing query)),
      .words " ESCAPE '/'"]

/-- Those of them that hold a permission, or any permission where nothing is asked for. -/
def templatePermissionFilter (permission? query? : Option String) : Fragment :=
  match searched permission?, searched query? with
  | some permission, _ =>
    [.words " HAVING bool_or(t.permission = ", .named "permission" (.text permission),
      .words ")"]
  | none, none => [.words " HAVING count(t.permission) > 0"]
  | none, some _ => []

/-- How the rows of a template's holders are put together. -/
def templateGrouping : Fragment := [.words " GROUP BY c.rank, c.id, c.name, c.description"]

/-- A page by values in order. -/
def pageOf (offset limit : Int) : Fragment :=
  [.words "OFFSET ", .place (.int offset), .words " LIMIT ", .place (.int limit)]

/-- A page by values under names. -/
def namedPageOf (offset limit : Int) : Fragment :=
  [.words "OFFSET ", .named "offset" (.int offset), .words " LIMIT ",
    .named "limit" (.int limit)]

/-- The places of a row, one after the other. -/
def places : List Datum → Fragment
  | [] => []
  | [d] => [.place d]
  | d :: rest => .place d :: .words ", " :: places rest

/-- The row of a template. -/
def templateRow (t : Template) : List Datum :=
  [.text t.uuid, .text t.organization, .text t.name, .ofText? t.description,
    .ofText? t.keyPattern, .ofText? t.createdAt, .ofText? t.updatedAt]

/-- The active users who administer, leaving aside what one user or one group is granted. -/
def administrators (organization : String) (permission : Permission)
    (exceptUser exceptGroup : Option Int) : Fragment :=
  let org : Piece := .named "org" (.text organization)
  let perm : Piece := .named "perm" (.text permission)
  [.words ("SELECT count(*) FROM users u WHERE u.active AND (" ++
      " EXISTS (SELECT 1 FROM grants g  WHERE g.organization_uuid = "), org,
    .words (" AND g.holder_kind = 'user'  AND g.user_id = u.id AND g.project_uuid IS NULL " ++
      "AND g.permission = "), perm,
    .words "  AND g.user_id IS DISTINCT FROM ", .named "excluded_user" (.ofInt? exceptUser),
    .words (") OR EXISTS (SELECT 1 FROM grants g  JOIN groups_users gu " ++
      "ON gu.group_id = g.group_id  WHERE g.organization_uuid = "), org,
    .words (" AND g.holder_kind = 'group'  AND gu.user_id = u.id AND g.project_uuid IS NULL " ++
      "AND g.permission = "), perm,
    .words "  AND g.group_id IS DISTINCT FROM ", .named "excluded_group" (.ofInt? exceptGroup),
    .words "))"]

/-- The grants that a user, or a visitor, holds. -/
def heldGrants (user? : Option Int) : Fragment :=
  .words ("SELECT organization_uuid, project_uuid, permission FROM grants " ++
    "WHERE holder_kind = 'anyone'") ::
  match user? with
  | none => []
  | some user =>
    [.words " OR (holder_kind = 'user' AND user_id = ", .named "user_id" (.int user),
      .words (") OR (holder_kind = 'group' AND group_id IN " ++
        "(SELECT group_id FROM groups_users WHERE user_id = "),
      .named "user_id" (.int user), .words "))"]

/-- The statement of a question that is asked at a moment. -/
def statement (now : Instant) : Query → Fragment
  | .userByLogin login =>
    [.words ("SELECT " ++ userColumns ++ " FROM users WHERE login = "), .place (.text login)]
  | .setRoot login root =>
    [.words "UPDATE users SET is_root = ", .place (.bool root), .words ", updated_at = ",
      .place (.time now), .words " WHERE login = ", .place (.text login),
      .words " AND is_root IS DISTINCT FROM ", .place (.bool root)]
  | .organizationByKey key =>
    [.words ("SELECT " ++ organizationColumns ++ " FROM organizations WHERE kee = "),
      .place (.text key)]
  | .organizationByUuid uuid =>
    [.words ("SELECT " ++ organizationColumns ++ " FROM organizations WHERE uuid = "),
      .place (.text uuid)]
  | .defaultOrganization =>
    [.words ("SELECT o.uuid, o.kee, o.name FROM organizations o " ++
      "JOIN internal_properties ip ON ip.text_value = o.uuid WHERE ip.kee = "),
      .place (.text defaultOrganizationProperty)]
  | .componentByUuid uuid =>
    [.words ("SELECT " ++ componentColumns ++ " FROM components c WHERE c.uuid = "),
      .place (.text uuid), .words " AND c.enabled"]
  | .componentByKey key =>
    [.words ("SELECT " ++ componentColumns ++ " FROM components c WHERE c.kee = "),
      .place (.text key), .words " AND c.enabled"]
  | .searchProjects user permission query? offset limit =>
    .words ("SELECT " ++ componentColumns ++ " ") ::
      (projectsWith user permission ++ projectFilter query? ++
        .words " ORDER BY lower(c.name), c.uuid " :: namedPageOf offset limit)
  | .countProjects user permission query? =>
    .words "SELECT count(*) " :: (projectsWith user permission ++ projectFilter query?)
  | .groupById id =>
    [.words ("SELECT " ++ groupColumns ++ " FROM groups g WHERE g.id = "), .place (.int id)]
  | .groupByName organization name =>
    [.words ("SELECT " ++ groupColumns ++ " FROM groups g WHERE g.organization_uuid = "),
      .place (.text organization), .words " AND g.name = ", .place (.text name)]
  | .isMember group user =>
    [.words "SELECT 1 FROM groups_users WHERE group_id = ", .place (.int group),
      .words " AND user_id = ", .place (.int user)]
  | .addMember group user =>
    [.words "INSERT INTO groups_users (group_id, user_id) VALUES (", .place (.int group),
      .words ", ", .place (.int user), .words ")"]
  | .searchGroups organization query? offset limit =>
    .words ("SELECT " ++ groupColumns ++ ", count(gu.user_id) FROM groups g " ++
        "LEFT JOIN groups_users gu ON gu.group_id = g.id WHERE g.organization_uuid = ") ::
      .place (.text organization) ::
      (nameFilter query? ++
        .words " GROUP BY g.id ORDER BY lower(g.name), g.id " :: pageOf offset limit)
  | .countGroups organization query? =>
    .words "SELECT count(*) FROM groups g WHERE g.organization_uuid = " ::
      .place (.text organization) :: nameFilter query?
  | .lockOrganization organization =>
    [.words "SELECT pg_advisory_xact_lock(hashtextextended(",
      .place (.text (lockName organization)), .words ", 0))"]
  | .selectPermissions organization holder scope =>
    .words "SELECT permission FROM grants WHERE " ::
      Condition.all (grantConditions organization holder scope)
  | .insertGrant g =>
    let row := grantRow g now
    .words ("INSERT INTO grants (" ++ String.intercalate ", " (row.map (·.1)) ++ ") VALUES (") ::
      (places (row.map (·.2)) ++ [.words ")"])
  | .deleteGrant g =>
    .words "DELETE FROM grants WHERE " ::
      Condition.all (grantConditions g.organization g.holder g.scope ++
        [.equals "permission" (.text g.permission)])
  | .countAdministrators organization permission exceptUser exceptGroup =>
    administrators organization permission exceptUser exceptGroup
  | .loadSnapshot user? => heldGrants user?
  | .templateByUuid uuid =>
    [.words ("SELECT " ++ templateColumns ++ " FROM permission_templates WHERE uuid = "),
      .place (.text uuid)]
  | .templateByName organization name =>
    [.words ("SELECT " ++ templateColumns ++
        " FROM permission_templates WHERE organization_uuid = "),
      .place (.text organization), .words " AND lower(name) = lower(", .place (.text name),
      .words ")"]
  | .insertTemplate t =>
    .words ("INSERT INTO permission_templates (" ++ templateColumns ++ ") VALUES (") ::
      (places (templateRow t) ++ [.words ")"])
  | .deleteTemplateGrant template holder permission =>
    .words "DELETE FROM permission_template_grants WHERE " ::
      Condition.all (.equals "template_uuid" (.text template) ::
        (holderConditions holder ++ [.equals "permission" (.text permission)]))
  | .searchTemplateGroups template organization permission? query? offset limit =>
    .words ("SELECT c.id, c.name, c.description, coalesce(array_agg(DISTINCT t.permission) " ++
        "FILTER (WHERE t.permission IS NOT NULL), '\x7b\x7d') ") ::
      (templateHolders template organization ++ templateHolderFilter query? ++
        templateGrouping ++ templatePermissionFilter permission? query? ++
        .words " ORDER BY c.rank, lower(c.name), c.id " :: namedPageOf offset limit)
  | .countTemplateGroups template organization permission? query? =>
    .words "SELECT count(*) FROM (SELECT c.id " ::
      (templateHolders template organization ++ templateHolderFilter query? ++
        templateGrouping ++ templatePermissionFilter permission? query? ++ [.words ") s"])

end Entitlements.Sql
