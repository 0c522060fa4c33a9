import Entitlements.Program
import Entitlements.Text.Classes

/-!
# Lookups

What the references of a request stand for. Every lookup refuses a reference that leads nowhere
and leaves the unit of work to its caller.
-/

namespace Entitlements

/-- A text that says something. -/
def given? (text? : Option String) : Option String := text?.filter (!·.isEmpty)

/-- The search text of a request without the blanks around it; none where nothing is left. -/
def searchText (query? : Option String) : Option String := given? (query?.map Text.trim)

/-- Go on with a value, or fail with the refusal that stands in its place. -/
def orRaise {m : Type → Type} [Monad m] {α : Type} : Except Refusal α → ExceptT Fault m α
  | .ok a => pure a
  | .error r => r.raise

namespace Lookup

/-- The value found, or a refusal where there is none. -/
def orNotFound {α : Type} (subject : String) (key : Json.Value) : Option α → Work α
  | some a => return a
  | none => (Refusal.notFound subject key).raise

/-- The active user of a login, as the holder of grants. -/
def user (login : String) : Work (Int × String) := do
  let found ← Query.ask (.userByLogin login)
  let u ← orNotFound "User" (.text login) (found.filter (·.active))
  return (u.id, u.login)

/-- The organization of a key, or the default organization. -/
def organization (key? : Option String) : Work Organization := do
  match given? key? with
  | none => Query.ask .defaultOrganization
  | some key => orNotFound "Organization" (.text key) (← Query.ask (.organizationByKey key))

/-- Refuse a component that carries no permissions. -/
def projectOnly (c : Component) : Work Component := do
  if c.carriesPermissions then return c
  else (Refusal.notAProject c.key c.qualifier).raise

/-- The project that is given by identifier or by key, if any is given. -/
def project? (id? key? : Option String) : Work (Option Component) := do
  match given? id?, given? key? with
  | some _, some _ => Refusal.projectGivenTwice.raise
  | some id, none =>
    let c ← orNotFound "Project id" (.text id) (← Query.ask (.componentByUuid id))
    return some (← projectOnly c)
  | none, some key =>
    let c ← orNotFound "Project key" (.text key) (← Query.ask (.componentByKey key))
    return some (← projectOnly c)
  | none, none => return none

/-- The group that is given by identifier, or by name in an organization, and its organization.
The group is everyone where the name says so. -/
def group (organizationKey? : Option String) (id? : Option Int) (name? : Option String) :
    Work (Organization × Option Int) := do
  match id?, given? name? with
  | some _, some _ => Refusal.groupGivenTwice.raise
  | some id, none =>
    let g ← orNotFound "Group id" (.int id) (← Query.ask (.groupById id))
    let o ← orNotFound "Organization" (.text g.organization)
      (← Query.ask (.organizationByUuid g.organization))
    return (o, some g.id)
  | none, none => Refusal.groupNotGiven.raise
  | none, some name =>
    let o ← organization organizationKey?
    if Holder.isAnyoneName name then return (o, none)
    else
      let g ← orNotFound "Group" (.text (o.key ++ "/" ++ name))
        (← Query.ask (.groupByName o.uuid name))
      return (o, some g.id)

/-- The template that is given by identifier, or by name in an organization. -/
def template (id? name? organizationKey? : Option String) : Work Template := do
  match given? id?, given? name? with
  | some _, some _ => Refusal.templateGivenTwice.raise
  | some id, none =>
    orNotFound "Permission template with id" (.text id) (← Query.ask (.templateByUuid id))
  | none, none => Refusal.templateNotGiven.raise
  | none, some name =>
    let o ← organization organizationKey?
    orNotFound "Permission template" (.text name) (← Query.ask (.templateByName o.uuid name))

end Lookup

/-- The holder of a group, or of everyone. -/
def Holder.ofGroup? : Option Int → Holder
  | some id => .group id
  | none => .anyone

namespace Permission

/-- Refuse a permission that does not make sense for a project. -/
def validateForProject (p : Permission) : Except Refusal Unit :=
  if isProject p then .ok () else .error (.notForProjects p)

/-- Refuse a permission that does not make sense for an organization or, where one is given, for
a project. -/
def validate (p : Permission) (forProject : Bool) : Except Refusal Unit :=
  if forProject then validateForProject p
  else if isGlobal p then .ok ()
  else .error (.notGlobal p)

end Permission

/-- A page of a listing. Pages are counted from one. -/
structure Page where
  /-- The number of the page. -/
  index : Int
  /-- How many rows it has. -/
  size : Int
  deriving DecidableEq, Repr, Inhabited

namespace Page

/-- Refuse a page that no listing has. -/
def validate (p : Page) : Except Refusal Unit :=
  if p.index < 1 then .error .pageIndex
  else if p.size < 1 ∨ (maxPageSize : Int) < p.size then .error .pageSize
  else .ok ()

/-- The number of rows before the page. -/
def offset (p : Page) : Int := (p.index - 1) * p.size

end Page

/-- One page of a listing and the number of rows on all pages. -/
structure Listing (α : Type) where
  /-- The rows of the page. -/
  rows : List α
  /-- The page. -/
  page : Page
  /-- How many rows there are. -/
  total : Int
  deriving Repr

end Entitlements
