import Entitlements.Fault
import Entitlements.Grant

/-!
# Changes of permissions

A change adds or removes one grant. It names a user, or a group which can be everyone. What comes
of a change is that it is applied, that nothing had to be done, or that it is rejected.
-/

namespace Entitlements

/-- What a change does to its grant. -/
inductive Operation where
  /-- The grant is to be there. -/
  | add
  /-- The grant is not to be there. -/
  | remove
  /-- No known operation. -/
  | other (name : String)
  deriving DecidableEq, Repr, Inhabited

namespace Operation

/-- The name of an operation. -/
def name : Operation → String
  | .add => "add"
  | .remove => "remove"
  | .other name => name

/-- The operation of a name. -/
def ofName (name : String) : Operation :=
  if name == "add" then .add else if name == "remove" then .remove else .other name

/-- The quoted form of an operation. -/
def quoted : Operation → String
  | .add => "<Operation.ADD: 'add'>"
  | .remove => "<Operation.REMOVE: 'remove'>"
  | .other name => Text.quote name

end Operation

/-- Whom a change is for. -/
inductive Target where
  /-- A single user. -/
  | user (id : Int) (login : String)
  /-- A group, by its holder. -/
  | group (holder : Holder)
  /-- Nobody in particular. -/
  | nobody
  deriving DecidableEq, Repr, Inhabited

/-- The holder of the grant of a change, if there is one. -/
def Target.holder? : Target → Option Holder
  | .user id login => some (.user id login)
  | .group holder => some holder
  | .nobody => none

theorem Target.exists_holder_of_ne {target : Target} (h : target ≠ .nobody) :
    ∃ holder, target.holder? = some holder := by
  cases target with
  | user id login => exact ⟨.user id login, rfl⟩
  | group holder => exact ⟨holder, rfl⟩
  | nobody => exact absurd rfl h

/-- A request to add or remove a permission. -/
structure Change where
  /-- What to do. -/
  operation : Operation
  /-- The organization whose grants change. -/
  organization : String
  /-- The permission. -/
  permission : Permission
  /-- The project, where the permission is for one project only. -/
  project : Option String := none
  /-- Whom the permission is for. -/
  target : Target
  deriving DecidableEq, Repr, Inhabited

namespace Change

/-- What the change reaches over. -/
def scope (c : Change) : Scope := Scope.ofProject? c.organization c.project

/-- The change reaches over the whole organization. -/
def isGlobal (c : Change) : Bool := c.project.isNone

/-- The change is about who administers the organization. -/
def isGlobalAdministration (c : Change) : Bool :=
  c.isGlobal && c.permission == Permission.administer

/-- The grant that a change adds to or removes from a holder. -/
def grantOf (c : Change) (holder : Holder) : Grant :=
  ⟨c.organization, holder, c.permission, c.scope⟩

/-- The quoted form of a text that can be missing. -/
def quoted? : Option String → String
  | some s => Text.quote s
  | none => Json.Value.null.quoted

/-- The description of a change that is for nobody. -/
def describe (c : Change) : String :=
  "PermissionChange(operation=" ++ c.operation.quoted ++
    ", organization_uuid=" ++ Text.quote c.organization ++
    ", permission=" ++ Text.quote c.permission ++
    ", project_uuid=" ++ quoted? c.project ++ ")"

/-- A change for a user, who has to be given. -/
def forUser (operation : Operation) (organization : String) (permission : Permission)
    (project : Option String) : Option (Int × String) → Except Fault Change
  | some (id, login) => .ok ⟨operation, organization, permission, project, .user id login⟩
  | none => .error .userRequired

/-- A change for a group, which has to be given. -/
def forGroup (operation : Operation) (organization : String) (permission : Permission)
    (project : Option String) : Option Holder → Except Fault Change
  | some holder => .ok ⟨operation, organization, permission, project, .group holder⟩
  | none => .error .groupRequired

@[simp] theorem owner_scope (c : Change) : c.scope.owner = c.organization := by
  simp [scope]

@[simp] theorem project?_scope (c : Change) : c.scope.project? = c.project := by
  simp [scope]

end Change

/-- What comes of a change. -/
inductive Outcome where
  /-- The grants were changed. -/
  | applied
  /-- The grants were as asked for already. -/
  | unchanged
  /-- A rule of safety forbids the change. -/
  | rejected (r : Rejection)
  deriving DecidableEq, Repr, Inhabited

/-- Something was written. -/
def Outcome.isApplied : Outcome → Bool
  | .applied => true
  | _ => false

end Entitlements
