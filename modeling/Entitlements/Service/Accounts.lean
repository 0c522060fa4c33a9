import Entitlements.Lookup
import Entitlements.Session

/-!
# Accounts

Users join groups by the hand of those who administer the organization. Whoever is signed in can
search the groups of an organization. A root user can make any user an ordinary one again.
-/

namespace Entitlements.Service

/-- Make a user a member of a group; whether the user was none before. -/
def addUserToGroup (login : String) (groupId? : Option Int)
    (groupName? organizationKey? : Option String) : Acting Bool := do
  Session.checkSignedIn
  let joined? ← transaction do
    let (organization, group?) ← Session.lift (Lookup.group organizationKey? groupId? groupName?)
    Session.checkAdministers (some (.organization organization.uuid))
    match group? with
    | none => Refusal.joiningAnyone.raise
    | some group =>
      let (id, login) ← Session.lift (Lookup.user login)
      if ← Query.ask (.isMember group id) then return none
      else
        Query.ask (.addMember group id)
        return some (login, group)
  match joined? with
  | none => return false
  | some (login, group) =>
    Event.record (.userAddedToGroup login group)
    return true

/-- List the groups of an organization whose names contain a search text. -/
def searchGroups (query? : Option String) (page : Page) (organizationKey? : Option String) :
    Acting (Listing GroupSize) := do
  Session.checkSignedIn
  orRaise page.validate
  let query? := searchText query?
  transaction do
    let organization ← Session.lift (Lookup.organization organizationKey?)
    let total ← Query.ask (.countGroups organization.uuid query?)
    let groups ← Query.ask (.searchGroups organization.uuid query? page.offset page.size)
    return ⟨groups, page, total⟩

/-- Make a user an ordinary one; whether the user was root. -/
def unsetRoot (login? : Option String) : Acting Bool := do
  Session.checkRoot
  match given? login? with
  | none => (Refusal.parameterMissing "login").raise
  | some login =>
    let changed ← transaction (Query.ask (.setRoot login false))
    if changed then
      Event.record (.rootUnset login (← get).principal.login?)
    return changed

end Entitlements.Service
