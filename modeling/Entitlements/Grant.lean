import Entitlements.Holder
import Entitlements.Permission
import Entitlements.Scope

/-!
# Grants

A grant says that a holder has a permission in a scope. An organization's grants form a set.
-/

namespace Entitlements

/-- One permission held by one holder in one scope. -/
structure Grant where
  /-- The organization that keeps the grant. -/
  organization : String
  /-- Who has the permission. -/
  holder : Holder
  /-- The permission. -/
  permission : Permission
  /-- What the permission reaches over. -/
  scope : Scope
  deriving DecidableEq, Repr

end Entitlements
