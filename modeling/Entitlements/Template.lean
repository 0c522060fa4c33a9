import Entitlements.Holder
import Entitlements.Permission

/-!
# Permission templates

A template lists permissions that holders get on projects whose keys match its pattern.
-/

namespace Entitlements

/-- A permission template of an organization. -/
structure Template where
  /-- Stable identifier. -/
  uuid : String
  /-- The organization of the template. -/
  organization : String
  /-- Name, unique within the organization whatever its case. -/
  name : String
  /-- Purpose of the template. -/
  description : Option String := none
  /-- Regular expression of the project keys that the template is for. -/
  keyPattern : Option String := none
  /-- When the template was made. -/
  createdAt : Option String := none
  /-- When the template was last changed. -/
  updatedAt : Option String := none
  deriving DecidableEq, Repr, Inhabited

/-- A permission that a template gives to a holder. -/
structure TemplateGrant where
  /-- The template. -/
  template : String
  /-- Who gets the permission. -/
  holder : Holder
  /-- The permission. -/
  permission : Permission
  deriving DecidableEq, Repr

/-- A group that a template lists, or everyone, with its permissions there. -/
structure TemplateGroup where
  /-- The group's identifier; none for everyone. -/
  group? : Option Int
  /-- The name of the group. -/
  name : String
  /-- Purpose of the group. -/
  description : Option String := none
  /-- The permissions of the group in the template, in order. -/
  permissions : List Permission := []
  deriving DecidableEq, Repr

namespace TemplateGroup

/-- The holder that a listed group stands for. -/
def holder (g : TemplateGroup) : Holder :=
  match g.group? with
  | some id => .group id
  | none => .anyone

end TemplateGroup

end Entitlements
