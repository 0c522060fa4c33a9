import Entitlements.Change
import Entitlements.Session

/-!
# Applying changes

A change is applied while the grants of its organization are locked. Nothing is written where the
grant is as asked for already. The last user who administers an organization stays, and everyone
never becomes an administrator.

A batch of changes is applied by a caller who administers every scope of it, and it is applied as
a whole: a rejected change makes all of it fail.
-/

namespace Entitlements

namespace Change

/-- The change would take the permission to administer from whoever has it last. -/
def leavesNobody (c : Change) (exceptUser exceptGroup : Option Int) : Work Bool := do
  if c.isGlobalAdministration then
    let remaining ← Query.ask
      (.countAdministrators c.organization Permission.administer exceptUser exceptGroup)
    return remaining == 0
  else return false

/-- Apply a change for a user. -/
def applyToUser (c : Change) (id : Int) (login : String) : Work Outcome := do
  let holder := Holder.user id login
  Query.ask (.lockOrganization c.organization)
  let existing ← Query.ask (.selectPermissions c.organization holder c.scope)
  let there := existing.contains c.permission
  match c.operation with
  | .other name => throw (.unsupportedOperation name)
  | .add =>
    if there then
      Event.record (.userChangeSkipped c.operation.name login c.permission c.project)
      return .unchanged
    Query.ask (.insertGrant (c.grantOf holder))
  | .remove =>
    if !there then
      Event.record (.userChangeSkipped c.operation.name login c.permission c.project)
      return .unchanged
    if ← c.leavesNobody (some id) none then
      Event.record (.lastAdministratorKept login c.organization)
      return .rejected .lastUser
    Query.ask (.deleteGrant (c.grantOf holder))
  Event.record (.userPermissionChanged c.operation.name login c.permission c.project)
  return .applied

/-- The name of a group in the log. -/
def groupName : Holder → String
  | .group id => toString id
  | _ => Holder.anyoneName

/-- The identifier of a real group. -/
def groupId? : Holder → Option Int
  | .group id => some id
  | _ => none

/-- Apply a change for a group or for everyone. -/
def applyToGroup (c : Change) (holder : Holder) : Work Outcome := do
  Query.ask (.lockOrganization c.organization)
  let existing ← Query.ask (.selectPermissions c.organization holder c.scope)
  let there := existing.contains c.permission
  match c.operation with
  | .other name => throw (.unsupportedOperation name)
  | .add =>
    if there then return .unchanged
    if holder == .anyone && c.isGlobalAdministration then
      return .rejected .anyoneAdministers
    Query.ask (.insertGrant (c.grantOf holder))
  | .remove =>
    if !there then return .unchanged
    if let some id := groupId? holder then
      if ← c.leavesNobody none (some id) then
        Event.record (.lastAdministratorGroupKept (groupName holder) c.organization)
        return .rejected .lastGroup
    Query.ask (.deleteGrant (c.grantOf holder))
  Event.record (.groupPermissionChanged c.operation.name (groupName holder) c.permission c.project)
  return .applied

/-- Apply a change within the unit of work of the caller. -/
def apply (c : Change) : Work Outcome :=
  match c.target with
  | .user id login => c.applyToUser id login
  | .group holder => c.applyToGroup holder
  | .nobody => do
    Query.ask (.lockOrganization c.organization)
    throw .changeWithoutHolder

/-- Apply a change of a batch: one that is for nobody or is rejected makes the batch fail. -/
def applyOrFail (c : Change) : Work Outcome := do
  match c.target with
  | .nobody => throw (.unsupportedChange c.describe)
  | _ =>
    match ← c.apply with
    | .rejected r => (Refusal.rejected r).raise
    | outcome => return outcome

/-- Apply changes one after the other. -/
def applyAll : List Change → Work (List Outcome)
  | [] => return []
  | c :: rest => do
    let outcome ← c.applyOrFail
    return outcome :: (← applyAll rest)

/-- The caller has to administer the scope of every change. -/
def checkAll : List Change → Acting Unit
  | [] => return
  | c :: rest => do
    Session.checkAdministers (some c.scope)
    checkAll rest

/-- Apply a batch of changes on behalf of the caller. -/
def applyBatch (changes : List Change) : Acting (List Outcome) := do
  checkAll changes
  Session.lift (transaction (applyAll changes))

end Change

end Entitlements
