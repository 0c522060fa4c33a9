import Entitlements.Text.Lower

/-!
# Holders

A permission is held by a user, by a group on behalf of its members, or by everyone who asks.
The last is written as a group called "Anyone", in any case.
-/

namespace Entitlements

/-- Who holds a permission. -/
inductive Holder where
  /-- A single user. -/
  | user (id : Int) (login : String)
  /-- A group, and so every member of it. -/
  | group (id : Int)
  /-- Everyone, visitors without credentials included. -/
  | anyone
  deriving DecidableEq, Repr, Inhabited

namespace Holder

/-- The name by which everyone is addressed as if they were a group. -/
def anyoneName : String := "Anyone"

/-- The name stands for everyone. -/
def isAnyoneName (name : String) : Bool :=
  Text.lower name == Text.lower anyoneName

end Holder

end Entitlements
