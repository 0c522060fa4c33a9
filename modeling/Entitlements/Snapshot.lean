import Entitlements.Permission
import Entitlements.Scope

/-!
# Snapshots

The permissions that somebody holds, as read at one moment. A permission counts on a project when
it is held there or in the whole organization of the project; a reference that leads to no
project counts for nothing.
-/

namespace Entitlements

/-- Permissions held on organizations and on projects. -/
structure Snapshot where
  /-- Pairs of an organization and a permission held on it. -/
  onOrganizations : List (String × Permission)
  /-- Pairs of a project and a permission held on it. -/
  onProjects : List (String × Permission)
  deriving DecidableEq, Repr, Inhabited

namespace Snapshot

/-- Nothing is held. -/
def empty : Snapshot := ⟨[], []⟩

/-- The permission is held on the organization. -/
def allowsOrganization (s : Snapshot) (p : Permission) (organization : String) : Bool :=
  s.onOrganizations.contains (organization, p)

/-- The permission is held on the project, or on the whole organization of it. -/
def allowsProject (s : Snapshot) (p : Permission) (project organization : String) : Bool :=
  s.allowsOrganization p organization || s.onProjects.contains (project, p)

/-- The permission is held in the scope. -/
def allows (s : Snapshot) (p : Permission) : Scope → Bool
  | .organization uuid => s.allowsOrganization p uuid
  | .project uuid organization => s.allowsProject p uuid organization

/-- The permission is held in the scope that a reference leads to, if any. -/
def allows? (s : Snapshot) (p : Permission) (scope? : Option Scope) : Bool :=
  scope?.any (s.allows p)

/-- Add a permission held on a project, or on an organization where no project is given. -/
def add (s : Snapshot) (organization : String) (project? : Option String) (p : Permission) :
    Snapshot :=
  match project? with
  | none => { s with onOrganizations := s.onOrganizations ++ [(organization, p)] }
  | some project => { s with onProjects := s.onProjects ++ [(project, p)] }

/-- What is held on an organization is held on each of its projects. -/
theorem allows_project_of_allows_organization {s : Snapshot} {p : Permission}
    {project organization : String} (h : s.allows p (.organization organization) = true) :
    s.allows p (.project project organization) = true := by
  simp only [allows] at h
  simp [allows, allowsProject, h]

end Snapshot

end Entitlements
