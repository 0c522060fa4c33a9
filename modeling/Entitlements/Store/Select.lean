import Entitlements.Store.State
import Entitlements.Text.Lower

/-!
# Reading a store

What a store in memory answers to the questions that leave it as it is. Listings are ordered by
lower-cased name and then by identifier.
-/

namespace Entitlements.Store

/-- Order by lower-cased name and then by identifier. -/
def byName {α κ : Type} [BEq κ] [LE κ] [DecidableRel (LE.le : κ → κ → Prop)] (name : α → String)
    (key : α → κ) (a b : α) : Bool :=
  let x := Text.lower (name a)
  let y := Text.lower (name b)
  decide (x < y) || (x == y && decide (key a ≤ key b))

/-- The name fits a search text; every name fits when there is none. -/
def nameFits (query? : Option String) (name : String) : Bool :=
  match query? with
  | some query => query.isEmpty || Text.containsIgnoringCase name query
  | none => true

/-- One page of a list. -/
def page {α : Type} (offset limit : Int) (as : List α) : List α :=
  (as.drop offset.toNat).take limit.toNat

/-- The user of a login. -/
def userByLogin? (s : Store) (login : String) : Option User :=
  s.users.find? (·.login == login)

/-- The groups of a user. -/
def groupsOf (s : Store) (user : Int) : List Int :=
  (s.members.filter (·.2 == user)).map (·.1)

/-- The members of a group. -/
def membersOf (s : Store) (group : Int) : List Int :=
  (s.members.filter (·.1 == group)).map (·.2)

/-- The default organization, which has to be named and stored. -/
def defaultOrganization (s : Store) : Except Fault Organization :=
  match s.defaultOrganization? with
  | none => .error .noDefaultOrganization
  | some uuid =>
    match s.organizations.find? (·.uuid == uuid) with
    | none => .error .danglingDefaultOrganization
    | some o => .ok o

/-- The permissions that a holder has in a scope by grants of its own. -/
def permissionsOf (s : Store) (organization : String) (holder : Holder) (scope : Scope) :
    List Permission :=
  (s.grants.filter fun g =>
    g.organization == organization && g.holder == holder && g.scope == scope).map (·.permission)

/-- The grant gives a permission on a whole organization. -/
def isGlobalGrant (organization : String) (permission : Permission) (g : Grant) : Bool :=
  g.organization == organization && g.permission == permission && g.scope.project?.isNone

/-- The users to whom a grant gives something, leaving aside one user or one group. -/
def beneficiaries (s : Store) (exceptUser exceptGroup : Option Int) (g : Grant) : List Int :=
  match g.holder with
  | .user id _ => if exceptUser == some id then [] else [id]
  | .group id => if exceptGroup == some id then [] else s.membersOf id
  | .anyone => []

/-- The user of an identifier is active. -/
def isActive (s : Store) (user : Int) : Bool :=
  (s.users.find? (·.id == user)).any (·.active)

/-- The active users who have a permission on a whole organization, leaving aside what one user or
one group is granted. -/
def administrators (s : Store) (organization : String) (permission : Permission)
    (exceptUser exceptGroup : Option Int) : List Int :=
  ((s.grants.filter (isGlobalGrant organization permission)).flatMap
    (s.beneficiaries exceptUser exceptGroup)).eraseDups.filter s.isActive

/-- A user, or a visitor, has what the holder has. -/
def matchesHolder (s : Store) (user : Option Int) : Holder → Bool
  | .anyone => true
  | .user id _ => user == some id
  | .group id => user.any fun u => (s.groupsOf u).contains id

/-- The grants of which a user, or a visitor, has the benefit. -/
def heldGrants (s : Store) (user : Option Int) : List Grant :=
  s.grants.filter fun g => s.matchesHolder user g.holder

/-- What a user, or a visitor, holds. -/
def snapshot (s : Store) (user : Option Int) : Snapshot :=
  (s.heldGrants user).foldl (fun held g => held.add g.organization g.scope.project? g.permission)
    Snapshot.empty

/-- The project has a permission of the user, in person or through a group. -/
def grantedOnProject (s : Store) (user : Int) (permission : Permission) (project : String) : Bool :=
  s.grants.any fun g =>
    g.scope.project? == some project && g.permission == permission &&
      match g.holder with
      | .user id _ => id == user
      | .group id => (s.groupsOf user).contains id
      | .anyone => false

/-- The component fits a search text by its name or is named by its key. -/
def componentFits (query? : Option String) (c : Component) : Bool :=
  nameFits query? c.name || query? == some c.key

/-- The projects on which a user has a permission in person or through a group. -/
def projectsWith (s : Store) (user : Int) (permission : Permission) (query? : Option String) :
    List Component :=
  (s.components.filter fun c =>
    s.grantedOnProject user permission c.uuid && c.isProject && componentFits query? c).mergeSort
    (byName (·.name) (·.uuid))

/-- The groups of an organization whose names fit a search text. -/
def groupsMatching (s : Store) (organization : String) (query? : Option String) : List Group :=
  (s.groups.filter fun g => g.organization == organization && nameFits query? g.name).mergeSort
    (byName (·.name) (·.id))

/-- The groups of an organization with the numbers of their members. -/
def groupSizes (s : Store) (groups : List Group) : List GroupSize :=
  groups.map fun g => ⟨g, (s.membersOf g.id).length⟩

/-- The template of a name, in any case, in an organization. -/
def templateByName? (s : Store) (organization name : String) : Option Template :=
  s.templates.find? fun t =>
    t.organization == organization && Text.lower t.name == Text.lower name

/-- The permissions that a template gives to a holder, in order. -/
def templatePermissions (s : Store) (template : String) (holder : Holder) : List Permission :=
  ((s.templateGrants.filter fun g => g.template == template && g.holder == holder).map
    (·.permission)).mergeSort

/-- Everyone and the groups of an organization, with their permissions in a template. -/
def templateCandidates (s : Store) (template organization : String) : List TemplateGroup :=
  let groups := (s.groups.filter (·.organization == organization)).mergeSort
    (byName (·.name) (·.id))
  ⟨none, Holder.anyoneName, none, s.templatePermissions template .anyone⟩ ::
    groups.map fun g =>
      ⟨some g.id, g.name, g.description, s.templatePermissions template (.group g.id)⟩

/-- A text that says something. -/
def saysSomething (text? : Option String) : Bool := text?.any (!·.isEmpty)

/-- A candidate is listed. -/
def isListed (permission? query? : Option String) (g : TemplateGroup) : Bool :=
  nameFits query? g.name &&
    (if saysSomething permission? then permission?.any g.permissions.contains
      else saysSomething query? || !g.permissions.isEmpty)

/-- The groups that a template lists. -/
def templateGroupsMatching (s : Store) (template organization : String)
    (permission? query? : Option String) : List TemplateGroup :=
  (s.templateCandidates template organization).filter (isListed permission? query?)

end Entitlements.Store
