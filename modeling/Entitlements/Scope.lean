/-!
# Scopes

A grant reaches over a whole organization or over one of its projects.
-/

namespace Entitlements

/-- What a grant reaches over. -/
inductive Scope where
  /-- Every project of an organization. -/
  | organization (uuid : String)
  /-- One project of an organization. -/
  | project (uuid organization : String)
  deriving DecidableEq, Repr, Inhabited

namespace Scope

/-- The organization that a scope belongs to. -/
def owner : Scope → String
  | .organization uuid => uuid
  | .project _ o => o

/-- The project of a scope, where it is limited to one. -/
def project? : Scope → Option String
  | .organization _ => none
  | .project uuid _ => some uuid

/-- The scope of a project of an organization, or of the whole organization. -/
def ofProject? (o : String) : Option String → Scope
  | none => .organization o
  | some uuid => .project uuid o

/-- A scope is known by its organization and its project. -/
theorem ofProject?_owner_project? (s : Scope) : ofProject? s.owner s.project? = s := by
  cases s <;> rfl

@[simp] theorem owner_ofProject? (o : String) (p : Option String) :
    (ofProject? o p).owner = o := by
  cases p <;> rfl

@[simp] theorem project?_ofProject? (o : String) (p : Option String) :
    (ofProject? o p).project? = p := by
  cases p <;> rfl

end Scope

end Entitlements
