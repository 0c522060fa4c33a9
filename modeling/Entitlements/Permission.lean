/-!
# Permissions

A permission is named by a key. Some keys make sense for a whole organization and some for a
single project; two of them make sense for both.
-/

namespace Entitlements

/-- The key of a permission. -/
abbrev Permission := String

namespace Permission

/-- Whoever holds this permission administers the organization or the project. -/
def administer : Permission := "admin"

/-- The permissions of an organization. -/
def ofOrganization : List Permission :=
  [administer, "profileadmin", "gateadmin", "scan", "provisioning"]

/-- The permissions of a project. -/
def ofProject : List Permission :=
  ["user", administer, "codeviewer", "issueadmin", "scan"]

/-- The permission can be held on an organization. -/
def isGlobal (p : Permission) : Bool := ofOrganization.contains p

/-- The permission can be held on a project. -/
def isProject (p : Permission) : Bool := ofProject.contains p

/-- Administering makes sense for organizations and for projects. -/
theorem administer_isGlobal_isProject : isGlobal administer ∧ isProject administer := by decide

end Permission

end Entitlements
