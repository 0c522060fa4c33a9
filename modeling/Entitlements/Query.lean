import Entitlements.Directory
import Entitlements.Grant
import Entitlements.Snapshot
import Entitlements.Template

/-!
# Queries

What the operations ask the store, and the kind of answer that each question has. Some questions
also change the store.
-/

namespace Entitlements

/-- A question to the store. -/
inductive Query where
  /-- The user of a login. -/
  | userByLogin (login : String)
  /-- Make a user root or not; whether anything changed. -/
  | setRoot (login : String) (root : Bool)
  /-- The organization of a key. -/
  | organizationByKey (key : String)
  /-- The organization of an identifier. -/
  | organizationByUuid (uuid : String)
  /-- The default organization. -/
  | defaultOrganization
  /-- The component of an identifier. -/
  | componentByUuid (uuid : String)
  /-- The component of a key. -/
  | componentByKey (key : String)
  /-- A page of the projects on which a user has a permission in person or through a group. -/
  | searchProjects (user : Int) (permission : Permission) (query : Option String)
      (offset limit : Int)
  /-- The number of such projects. -/
  | countProjects (user : Int) (permission : Permission) (query : Option String)
  /-- The group of an identifier. -/
  | groupById (id : Int)
  /-- The group of a name in an organization. -/
  | groupByName (organization name : String)
  /-- The user is a member of the group. -/
  | isMember (group user : Int)
  /-- Make the user a member of the group. -/
  | addMember (group user : Int)
  /-- A page of the groups of an organization. -/
  | searchGroups (organization : String) (query : Option String) (offset limit : Int)
  /-- The number of such groups. -/
  | countGroups (organization : String) (query : Option String)
  /-- Keep others from changing the grants of an organization until the work ends. -/
  | lockOrganization (organization : String)
  /-- The permissions that a holder has in a scope by grants of its own. -/
  | selectPermissions (organization : String) (holder : Holder) (scope : Scope)
  /-- Store a grant. -/
  | insertGrant (grant : Grant)
  /-- Drop a grant. -/
  | deleteGrant (grant : Grant)
  /-- The number of active users who have a permission on the whole organization, leaving aside
  what one user or one group is granted. -/
  | countAdministrators (organization : String) (permission : Permission)
      (exceptUser exceptGroup : Option Int)
  /-- What a user, or a visitor, holds. -/
  | loadSnapshot (user : Option Int)
  /-- The template of an identifier. -/
  | templateByUuid (uuid : String)
  /-- The template of a name, in any case, in an organization. -/
  | templateByName (organization name : String)
  /-- Store a template. -/
  | insertTemplate (template : Template)
  /-- Drop a permission of a template. -/
  | deleteTemplateGrant (template : String) (holder : Holder) (permission : Permission)
  /-- A page of the groups that a template lists. -/
  | searchTemplateGroups (template organization : String) (permission query : Option String)
      (offset limit : Int)
  /-- The number of such groups. -/
  | countTemplateGroups (template organization : String) (permission query : Option String)
  deriving DecidableEq, Repr

/-- The kind of answer that a question has. -/
abbrev Query.Answer : Query → Type
  | .userByLogin _ => Option User
  | .setRoot .. => Bool
  | .organizationByKey _ | .organizationByUuid _ => Option Organization
  | .defaultOrganization => Organization
  | .componentByUuid _ | .componentByKey _ => Option Component
  | .searchProjects .. => List Component
  | .countProjects .. => Int
  | .groupById _ | .groupByName .. => Option Group
  | .isMember .. => Bool
  | .addMember .. => Unit
  | .searchGroups .. => List GroupSize
  | .countGroups .. => Int
  | .lockOrganization _ => Unit
  | .selectPermissions .. => List Permission
  | .insertGrant _ | .deleteGrant _ => Unit
  | .countAdministrators .. => Int
  | .loadSnapshot _ => Snapshot
  | .templateByUuid _ | .templateByName .. => Option Template
  | .insertTemplate _ => Unit
  | .deleteTemplateGrant .. => Unit
  | .searchTemplateGroups .. => List TemplateGroup
  | .countTemplateGroups .. => Int

end Entitlements
