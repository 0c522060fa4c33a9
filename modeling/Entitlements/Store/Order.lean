import Entitlements.Store.State

/-!
# The order of what a store holds

Sets have no order of their own. They are listed by organization or template, by scope, by holder
and by permission; everyone comes before groups, and groups before users.
-/

namespace Entitlements

/-- What a holder is listed by. -/
def Holder.position : Holder → Nat × Int × String
  | .anyone => (0, 0, "")
  | .group id => (1, id, "")
  | .user id login => (2, id, login)

/-- The order of holders. -/
def Holder.order (a b : Holder) : Ordering :=
  let (r, i, l) := a.position
  let (r', i', l') := b.position
  ((compare r r').then (compare i i')).then (compare l l')

/-- The order of grants. A grant of the whole organization is listed by an empty project. -/
def Grant.order (a b : Grant) : Ordering :=
  (((compare a.organization b.organization).then
    (compare (a.scope.project?.getD "") (b.scope.project?.getD ""))).then
    (a.holder.order b.holder)).then (compare a.permission b.permission)

/-- The order of what templates give. -/
def TemplateGrant.order (a b : TemplateGrant) : Ordering :=
  ((compare a.template b.template).then (a.holder.order b.holder)).then
    (compare a.permission b.permission)

namespace Store

/-- The grants in order. -/
def sortedGrants (s : Store) : List Grant := s.grants.mergeSort fun a b => (a.order b).isLE

/-- The memberships in order. -/
def sortedMembers (s : Store) : List (Int × Int) :=
  s.members.mergeSort fun a b => ((compare a.1 b.1).then (compare a.2 b.2)).isLE

/-- What templates give, in order. -/
def sortedTemplateGrants (s : Store) : List TemplateGrant :=
  s.templateGrants.mergeSort fun a b => (a.order b).isLE

end Store

end Entitlements
