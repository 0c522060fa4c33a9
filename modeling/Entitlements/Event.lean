import Entitlements.Json.Value

/-!
# Events

What the log records. An event has a name, a level and fields in a fixed order.
-/

namespace Entitlements

/-- How much an event matters. -/
inductive Level where
  | debug
  | info
  | warning
  | error
  deriving DecidableEq, Repr, Inhabited

/-- The name of a level. -/
def Level.name : Level → String
  | .debug => "debug"
  | .info => "info"
  | .warning => "warning"
  | .error => "error"

/-- Something that the log records. -/
inductive Event where
  /-- A user's grant was as asked for already. -/
  | userChangeSkipped (operation login permission : String) (project : Option String)
  /-- A user's grant was added or removed. -/
  | userPermissionChanged (operation login permission : String) (project : Option String)
  /-- A user kept the permission to administer, as the last one who has it. -/
  | lastAdministratorKept (login organization : String)
  /-- A group's grant was added or removed. -/
  | groupPermissionChanged (operation group permission : String) (project : Option String)
  /-- A group kept the permission to administer, as the last one who has it. -/
  | lastAdministratorGroupKept (group organization : String)
  /-- A template was made. -/
  | templateCreated (uuid name : String)
  /-- A user lost a permission in a template. -/
  | userRemovedFromTemplate (template login permission : String)
  /-- A user joined a group. -/
  | userAddedToGroup (login : String) (group : Int)
  /-- A user is no longer root. -/
  | rootUnset (login : String) (caller? : Option String)
  /-- A token could not be looked up. -/
  | introspectionFailed (error : String)
  /-- No service knows tokens. -/
  | authenticationDisabled (reason : String)
  /-- The connections to the store are open. -/
  | poolOpened (minSize maxSize : Int)
  /-- The connections to the store are closed. -/
  | poolClosed
  /-- The store does not answer. -/
  | readinessCheckFailed (error : String)
  /-- A request failed for a reason that is not the caller's. -/
  | unhandledFailure (method path : String)
  /-- The service starts. -/
  | starting (version host : String) (port : Int)
  deriving Inhabited

namespace Event

/-- The name of an event. -/
def name : Event → String
  | .userChangeSkipped .. => "user_permission_change_skipped"
  | .userPermissionChanged .. => "user_permission_changed"
  | .lastAdministratorKept .. => "last_admin_removal_rejected"
  | .groupPermissionChanged .. => "group_permission_changed"
  | .lastAdministratorGroupKept .. => "last_admin_group_removal_rejected"
  | .templateCreated .. => "permission_template_created"
  | .userRemovedFromTemplate .. => "user_removed_from_template"
  | .userAddedToGroup .. => "user_added_to_group"
  | .rootUnset .. => "root_unset"
  | .introspectionFailed _ => "token_introspection_failed"
  | .authenticationDisabled _ => "keycloak_disabled"
  | .poolOpened .. => "database_pool_opened"
  | .poolClosed => "database_pool_closed"
  | .readinessCheckFailed _ => "readiness_check_failed"
  | .unhandledFailure .. => "unhandled_exception"
  | .starting .. => "starting"

/-- The level of an event. -/
def level : Event → Level
  | .userChangeSkipped .. => .debug
  | .introspectionFailed _ | .authenticationDisabled _ | .readinessCheckFailed _ => .warning
  | .unhandledFailure .. => .error
  | _ => .info

/-- A text that can be missing as a value. -/
def textOrNull : Option String → Json.Value
  | some s => .text s
  | none => .null

/-- The fields of an event. -/
def fields : Event → List (String × Json.Value)
  | .userChangeSkipped operation login permission project
  | .userPermissionChanged operation login permission project =>
    [("operation", .text operation), ("login", .text login), ("permission", .text permission),
      ("project_uuid", textOrNull project)]
  | .lastAdministratorKept login organization =>
    [("login", .text login), ("organization_uuid", .text organization)]
  | .groupPermissionChanged operation group permission project =>
    [("operation", .text operation), ("group", .text group), ("permission", .text permission),
      ("project_uuid", textOrNull project)]
  | .lastAdministratorGroupKept group organization =>
    [("group", .text group), ("organization_uuid", .text organization)]
  | .templateCreated uuid name => [("template_uuid", .text uuid), ("name", .text name)]
  | .userRemovedFromTemplate template login permission =>
    [("template_uuid", .text template), ("login", .text login), ("permission", .text permission)]
  | .userAddedToGroup login group => [("login", .text login), ("group_id", .int group)]
  | .rootUnset login caller? => [("login", .text login), ("by", textOrNull caller?)]
  | .introspectionFailed error => [("error", .text error)]
  | .authenticationDisabled reason => [("reason", .text reason)]
  | .poolOpened minSize maxSize => [("min_size", .int minSize), ("max_size", .int maxSize)]
  | .poolClosed => []
  | .readinessCheckFailed error => [("error", .text error)]
  | .unhandledFailure method path => [("method", .text method), ("path", .text path)]
  | .starting version host port =>
    [("version", .text version), ("host", .text host), ("port", .int port)]

end Event

end Entitlements
