import Entitlements.Schema.Table

/-!
# Revisions of the schema

The form of the database came about in revisions, each after the one before. A revision can be
made and taken back. One of them also looks after old groups that belong to no organization.
-/

namespace Entitlements.Schema

open Sql (Condition)

/-- A step of a revision. -/
inductive Step where
  /-- Change the form of the database. -/
  | define (d : Definition)
  /-- Give the groups without an organization to the default organization. -/
  | adoptGroups
  deriving DecidableEq, Repr

/-- A revision. -/
structure Revision where
  /-- The name of the revision. -/
  id : String
  /-- The name of the revision before. -/
  previous? : Option String
  /-- How it is made. -/
  up : List Step
  /-- How it is taken back. -/
  down : List Step
  deriving DecidableEq, Repr

/-- A moment that is the time of the row unless another is given. -/
def stamp (name : String) : Column := ⟨name, .moment, true, some "now()"⟩

/-- A row of grants names its holder by kind: a user, a group, or neither. -/
def holderCases : List (List Condition) :=
  [[.isWord "holder_kind" "user", .notNull "user_id", .isNull "group_id"],
    [.isWord "holder_kind" "group", .notNull "group_id", .isNull "user_id"],
    [.isWord "holder_kind" "anyone", .isNull "user_id", .isNull "group_id"]]

/-- Organizations. -/
def organizations : Table where
  name := "organizations"
  columns := [⟨"uuid", .text 40, true, none⟩, ⟨"kee", .text 32, true, none⟩,
    ⟨"name", .text 64, true, none⟩, stamp "created_at", stamp "updated_at"]
  constraints := [.primaryKey none ["uuid"]]

/-- Properties of the instance. -/
def internalProperties : Table where
  name := "internal_properties"
  columns := [⟨"kee", .text 20, true, none⟩, ⟨"text_value", .text 4000, false, none⟩]
  constraints := [.primaryKey none ["kee"]]

/-- Users. -/
def users : Table where
  name := "users"
  columns := [⟨"id", .counter, true, none⟩, ⟨"login", .text 255, true, none⟩,
    ⟨"name", .text 200, false, none⟩, ⟨"email", .text 100, false, none⟩,
    ⟨"active", .truth, true, some "true"⟩, stamp "created_at", stamp "updated_at"]
  constraints := [.primaryKey none ["id"]]

/-- Groups, of which old ones have no organization. -/
def groups : Table where
  name := "groups"
  columns := [⟨"id", .counter, true, none⟩, ⟨"organization_uuid", .text 40, false, none⟩,
    ⟨"name", .text 500, true, none⟩, ⟨"description", .text 200, false, none⟩,
    stamp "created_at", stamp "updated_at"]
  constraints := [.primaryKey none ["id"],
    .foreignKey "organization_uuid" "organizations" "uuid" false]

/-- Memberships. -/
def groupsUsers : Table where
  name := "groups_users"
  columns := [⟨"group_id", .integer, true, none⟩, ⟨"user_id", .integer, true, none⟩]
  constraints := [.primaryKey none ["group_id", "user_id"],
    .foreignKey "group_id" "groups" "id" true, .foreignKey "user_id" "users" "id" true]

/-- Components. -/
def components : Table where
  name := "components"
  columns := [⟨"uuid", .text 50, true, none⟩, ⟨"kee", .text 400, true, none⟩,
    ⟨"name", .text 2000, true, none⟩, ⟨"qualifier", .text 10, true, none⟩,
    ⟨"project_uuid", .text 50, true, none⟩, ⟨"organization_uuid", .text 40, true, none⟩,
    ⟨"enabled", .truth, true, some "true"⟩]
  constraints := [.primaryKey none ["uuid"],
    .foreignKey "organization_uuid" "organizations" "uuid" false]

/-- Grants. -/
def grants : Table where
  name := "grants"
  columns := [⟨"id", .counter, true, none⟩, ⟨"organization_uuid", .text 40, true, none⟩,
    ⟨"holder_kind", .text 10, true, none⟩, ⟨"user_id", .integer, false, none⟩,
    ⟨"group_id", .integer, false, none⟩, ⟨"project_uuid", .text 50, false, none⟩,
    ⟨"permission", .text 64, true, none⟩, ⟨"created_at", .moment, true, none⟩]
  constraints := [.primaryKey none ["id"], .check "ck_grants_holder_kind" holderCases,
    .foreignKey "organization_uuid" "organizations" "uuid" false,
    .foreignKey "user_id" "users" "id" true, .foreignKey "group_id" "groups" "id" true,
    .foreignKey "project_uuid" "components" "uuid" true]

/-- Templates. -/
def permissionTemplates : Table where
  name := "permission_templates"
  columns := [⟨"uuid", .text 40, true, none⟩, ⟨"organization_uuid", .text 40, true, none⟩,
    ⟨"name", .text 100, true, none⟩, ⟨"description", .text 4000, false, none⟩,
    ⟨"key_pattern", .text 500, false, none⟩, ⟨"created_at", .moment, true, none⟩,
    ⟨"updated_at", .moment, true, none⟩]
  constraints := [.primaryKey none ["uuid"],
    .foreignKey "organization_uuid" "organizations" "uuid" false]

/-- Permissions of templates. -/
def permissionTemplateGrants : Table where
  name := "permission_template_grants"
  columns := [⟨"id", .counter, true, none⟩, ⟨"template_uuid", .text 40, true, none⟩,
    ⟨"holder_kind", .text 10, true, none⟩, ⟨"user_id", .integer, false, none⟩,
    ⟨"group_id", .integer, false, none⟩, ⟨"permission", .text 64, true, none⟩,
    stamp "created_at"]
  constraints := [.primaryKey none ["id"],
    .check "ck_permission_template_grants_holder_kind" holderCases,
    .foreignKey "template_uuid" "permission_templates" "uuid" true,
    .foreignKey "user_id" "users" "id" true, .foreignKey "group_id" "groups" "id" true]

/-- Organizations, users, groups, components and grants. -/
def initial : Revision where
  id := "001"
  previous? := none
  up := [.createTable organizations,
    .createIndex true "ux_organizations_kee" "organizations" ["kee"],
    .createTable internalProperties, .createTable users,
    .createIndex true "ux_users_login" "users" ["login"],
    .createTable groups, .createTable groupsUsers,
    .createIndex false "ix_groups_users_user_id" "groups_users" ["user_id"],
    .createTable components,
    .createIndex true "ux_components_kee" "components" ["kee"],
    .createIndex false "ix_components_project_uuid" "components" ["project_uuid"],
    .createTable grants,
    .createIndex true "ux_grants" "grants" ["organization_uuid", "holder_kind",
      "COALESCE(user_id, 0)", "COALESCE(group_id, 0)", "COALESCE(project_uuid, '')",
      "permission"],
    .createIndex false "ix_grants_user_id" "grants" ["user_id"],
    .createIndex false "ix_grants_group_id" "grants" ["group_id"],
    .createIndex false "ix_grants_project_uuid" "grants" ["project_uuid"]].map .define
  down := ["grants", "components", "groups_users", "groups", "users", "internal_properties",
    "organizations"].map fun name => .define (.dropTable name)

/-- Every group belongs to an organization. -/
def ownedGroups : Revision where
  id := "002"
  previous? := some "001"
  up := [.adoptGroups, .define (.setRequired "groups" "organization_uuid" true),
    .define (.createIndex true "ux_groups_org_name" "groups" ["organization_uuid", "name"])]
  down := [.define (.dropIndex "ux_groups_org_name"),
    .define (.setRequired "groups" "organization_uuid" false)]

/-- Templates and root users. -/
def templates : Revision where
  id := "003"
  previous? := some "002"
  up := [.addColumn "users" ⟨"is_root", .truth, true, some "false"⟩,
    .createTable permissionTemplates,
    .createIndex true "ux_permission_templates_org_name" "permission_templates"
      ["organization_uuid", "lower(name)"],
    .createTable permissionTemplateGrants,
    .createIndex true "ux_permission_template_grants" "permission_template_grants"
      ["template_uuid", "holder_kind", "COALESCE(user_id, 0)", "COALESCE(group_id, 0)",
        "permission"],
    .createIndex false "ix_permission_template_grants_group_id" "permission_template_grants"
      ["group_id"]].map .define
  down := [.dropTable "permission_template_grants", .dropTable "permission_templates",
    .dropColumn "users" "is_root"].map .define

/-- All revisions in order. -/
def revisions : List Revision := [initial, ownedGroups, templates]

end Entitlements.Schema
