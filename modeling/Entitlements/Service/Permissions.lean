import Entitlements.Apply
import Entitlements.Lookup

/-!
# Granting and revoking permissions

A permission is granted to or revoked from a user or a group, on an organization or on a project.
The references of the request are looked up first; the change is then applied on behalf of the
caller, who has to administer the scope of it.
-/

namespace Entitlements.Service

/-- Apply a single change on behalf of the caller. -/
def applyOne (c : Change) : Acting Outcome := do
  match ← Change.applyBatch [c] with
  | outcome :: _ => return outcome
  | [] => return .unchanged

/-- Change a permission of a user. -/
def changeUserPermission (operation : Operation) (login : String) (permission : Permission)
    (projectId? projectKey? organizationKey? : Option String) : Acting Outcome := do
  let ((id, login), project?, organization) ← Session.lift <| transaction do
    let user ← Lookup.user login
    let project? ← Lookup.project? projectId? projectKey?
    match project? with
    | some project => return (user, project?, project.organization)
    | none => return (user, project?, (← Lookup.organization organizationKey?).uuid)
  orRaise (permission.validate project?.isSome)
  applyOne ⟨operation, organization, permission, project?.map (·.uuid), .user id login⟩

/-- Refuse a project of another organization than that of the group. -/
def sameOrganization (o : Organization) : Option Component → Except Refusal Unit
  | some project =>
    if project.organization == o.uuid then .ok ()
    else .error (.otherOrganization o.key project.key)
  | none => .ok ()

/-- Change a permission of a group, or of everyone. -/
def changeGroupPermission (operation : Operation) (permission : Permission)
    (groupId? : Option Int) (groupName? projectId? projectKey? organizationKey? : Option String) :
    Acting Outcome := do
  let (organization, group?, project?) ← Session.lift <| transaction do
    let (organization, group?) ← Lookup.group organizationKey? groupId? groupName?
    let project? ← Lookup.project? projectId? projectKey?
    return (organization, group?, project?)
  orRaise (permission.validate project?.isSome)
  orRaise (sameOrganization organization project?)
  applyOne ⟨operation, organization.uuid, permission, project?.map (·.uuid),
    .group (Holder.ofGroup? group?)⟩

end Entitlements.Service
