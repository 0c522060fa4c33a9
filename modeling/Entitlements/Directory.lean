/-!
# Organizations, users, groups and components

The things that grants speak about. A component is a node of a project tree; projects and views
that own themselves are the only components that carry permissions.
-/

namespace Entitlements

/-- An organization owns groups, projects and grants. -/
structure Organization where
  /-- Stable identifier. -/
  uuid : String
  /-- Identifier in requests. -/
  key : String
  /-- Name for readers. -/
  name : String
  deriving DecidableEq, Repr, Inhabited

/-- A user account. -/
structure User where
  /-- Stable identifier. -/
  id : Int
  /-- Unique name by which the user signs in. -/
  login : String
  /-- Name for readers. -/
  name : Option String := none
  /-- Address for mail. -/
  email : Option String := none
  /-- Inactive users cannot sign in. -/
  active : Bool := true
  /-- Root users administer the instance itself. -/
  root : Bool := false
  deriving DecidableEq, Repr, Inhabited

/-- The account without the root flag. -/
def User.plain (u : User) : User := { u with root := false }

/-- A group of users within an organization. -/
structure Group where
  /-- Stable identifier. -/
  id : Int
  /-- The organization of the group. -/
  organization : String
  /-- Name within the organization. -/
  name : String
  /-- Purpose of the group. -/
  description : Option String := none
  /-- When the group was made. -/
  createdAt : Option String := none
  /-- When the group was last changed. -/
  updatedAt : Option String := none
  deriving DecidableEq, Repr, Inhabited

/-- A group with the number of its members. -/
structure GroupSize where
  /-- The group. -/
  group : Group
  /-- How many members it has. -/
  members : Int
  deriving DecidableEq, Repr

/-- A project, a view, or a part of a project. -/
structure Component where
  /-- Stable identifier. -/
  uuid : String
  /-- Identifier in requests. -/
  key : String
  /-- Name for readers. -/
  name : String
  /-- What kind of component it is. -/
  qualifier : String
  /-- The project that the component is part of. -/
  project : String
  /-- The organization of the component. -/
  organization : String
  deriving DecidableEq, Repr, Inhabited

namespace Component

/-- The qualifier of projects. -/
def projectQualifier : String := "TRK"

/-- The qualifier of views. -/
def viewQualifier : String := "VW"

/-- The component is a project of its own. -/
def isProject (c : Component) : Bool :=
  c.qualifier == projectQualifier && c.project == c.uuid

/-- The component carries permissions: a project or a view that owns itself. -/
def carriesPermissions (c : Component) : Bool :=
  (c.qualifier == projectQualifier || c.qualifier == viewQualifier) && c.project == c.uuid

/-- Projects carry permissions. -/
theorem carriesPermissions_of_isProject {c : Component} (h : c.isProject = true) :
    c.carriesPermissions = true := by
  simp_all [isProject, carriesPermissions]

end Component

end Entitlements
