import Entitlements.Program

/-!
# Sessions

Who makes a request, and what they may do. The permissions of a caller are read once, when they
are asked for first, and the same snapshot answers for the rest of the session. So does what was
found about the projects asked for.
-/

namespace Entitlements

/-- Who makes a request. -/
inductive Principal where
  /-- A user who has signed in. -/
  | user (id : Int) (login : String) (root : Bool)
  /-- A visitor without credentials. -/
  | anonymous
  deriving DecidableEq, Repr, Inhabited

namespace Principal

/-- The user of an account, or a visitor where there is none. -/
def ofUser? : Option User → Principal
  | some u => .user u.id u.login u.root
  | none => .anonymous

/-- The identifier of the user. -/
def id? : Principal → Option Int
  | .user id _ _ => some id
  | .anonymous => none

/-- The login of the user. -/
def login? : Principal → Option String
  | .user _ login _ => some login
  | .anonymous => none

@[simp] theorem id?_ofUser? (u? : Option User) : (ofUser? u?).id? = u?.map (·.id) := by
  cases u? <;> rfl

/-- The principal is a user. -/
def isSignedIn (p : Principal) : Bool := p.id?.isSome

/-- The principal is a root user. -/
def isRoot : Principal → Bool
  | .user _ _ root => root
  | .anonymous => false

@[simp] theorem isRoot_ofUser? (u? : Option User) : (ofUser? u?).isRoot = u?.any (·.root) := by
  cases u? <;> rfl

end Principal

/-- What a session knows. -/
structure Session where
  /-- Who makes the request. -/
  principal : Principal
  /-- The permissions of the caller, once they have been read. -/
  snapshot? : Option Snapshot := none
  /-- The default organization, once the permissions have been read. -/
  defaultOrganization? : Option String := none
  /-- The projects asked for and the scopes that they turned out to be. -/
  projects : List (String × Option Scope) := []
  deriving DecidableEq, Repr, Inhabited

/-- A program that can fail and goes on within a session. What the session has learned stays with
it after a failure. -/
abbrev Acting := ExceptT Fault (StateT Session Program)

namespace Session

/-- A session that has asked for nothing yet. -/
def ofUser? (u : Option User) : Session := ⟨Principal.ofUser? u, none, none, []⟩

/-- The session of a user, who has to be given. -/
def forUser : Option User → Except Fault Session
  | some u => .ok (ofUser? (some u))
  | none => .error .userRequired

/-- The session of an active user with the login. Nobody else has more than a visitor. -/
def create (login? : Option String) : Work Session :=
  match login? with
  | none => return ofUser? none
  | some login =>
    if login.isEmpty then return ofUser? none
    else do
      let user ← transaction (Query.ask (.userByLogin login))
      return ofUser? (user.filter (·.active))

/-- Work within a session that the session takes no part in. -/
def lift {α : Type} (w : Work α) : Acting α := ExceptT.mk (liftM w.run)

/-- Refuse unless a condition holds. -/
def require (b : Bool) (r : Refusal) : Acting Unit :=
  if b then pure () else r.raise

/-- The caller, who has to be signed in. -/
def signedIn : Acting Int := do
  match (← get).principal.id? with
  | some id => return id
  | none => Refusal.notSignedIn.raise

/-- The caller has to be signed in. -/
def checkSignedIn : Acting Unit := do
  let _ ← signedIn

/-- The caller has to be root. -/
def checkRoot : Acting Unit := do
  require (← get).principal.isRoot .insufficientPrivileges

/-- The caller's permissions, read from the store unless they are known already. -/
def load : Acting Snapshot := do
  let σ ← get
  match σ.snapshot? with
  | some s => return s
  | none =>
    let (organization, s) ← transaction do
      let organization ← Query.ask .defaultOrganization
      let s ← Query.ask (.loadSnapshot σ.principal.id?)
      modify fun σ => { σ with snapshot? := some s }
      return (organization, s)
    modify fun σ => { σ with defaultOrganization? := some organization.uuid }
    return s

/-- The project of an identifier as a scope, looked up unless it is known already. -/
def resolveProject (project : String) : Acting (Option Scope) := do
  match (← get).projects.lookup project with
  | some scope? => return scope?
  | none =>
    let component ← transaction (Query.ask (.componentByUuid project))
    let scope? := (component.filter (·.carriesPermissions)).map fun c =>
      Scope.project c.uuid c.organization
    modify fun σ => { σ with projects := (project, scope?) :: σ.projects }
    return scope?

/-- The caller has the permission on an organization, by default on the default one. -/
def hasPermission (p : Permission) (organization? : Option String) : Acting Bool := do
  let s ← load
  let organization? := (organization?.filter (!·.isEmpty)).or (← get).defaultOrganization?
  return organization?.any (s.allowsOrganization p)

/-- The caller has the permission on a project. -/
def hasProjectPermission (p : Permission) (project : String) : Acting Bool := do
  let s ← load
  return s.allows? p (← resolveProject project)

/-- The caller has the permission on the project of a component. -/
def hasPermissionOn (p : Permission) : Option Component → Acting Bool
  | none => return false
  | some c => hasProjectPermission p c.project

/-- The caller has the permission on the project of the component of a key. -/
def hasComponentPermission (p : Permission) (key : String) : Acting Bool := do
  hasPermissionOn p (← transaction (Query.ask (.componentByKey key)))

/-- The caller has the permission on the project of the component of an identifier. -/
def hasComponentUuidPermission (p : Permission) (uuid : String) : Acting Bool := do
  hasPermissionOn p (← transaction (Query.ask (.componentByUuid uuid)))

/-- Refuse unless the caller turns out to have a permission. -/
def demand (check : Acting Bool) : Acting Unit := do
  require (← check) .insufficientPrivileges

/-- The caller has to have the permission on an organization. -/
def checkPermission (p : Permission) (organization? : Option String) : Acting Unit :=
  demand (hasPermission p organization?)

/-- The caller has to have the permission on a project. -/
def checkProjectPermission (p : Permission) (project : String) : Acting Unit :=
  demand (hasProjectPermission p project)

/-- The caller has to have the permission on the project of a component. -/
def checkComponentPermission (p : Permission) (key : String) : Acting Unit :=
  demand (hasComponentPermission p key)

/-- The caller has to have the permission on the project of a component. -/
def checkComponentUuidPermission (p : Permission) (uuid : String) : Acting Unit :=
  demand (hasComponentUuidPermission p uuid)

/-- The caller has to administer a scope. -/
def checkAdministers : Option Scope → Acting Unit
  | some (.organization uuid) => checkPermission Permission.administer (some uuid)
  | scope? => demand do return (← load).allows? Permission.administer scope?

end Session

end Entitlements
