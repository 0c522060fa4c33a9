import Entitlements.Pattern.Limit
import Entitlements.Refusal
import Entitlements.Text.Quoted

/-!
# Faults

How an operation can fail. Refusals answer the caller; the other faults tell of values that no
caller should send, of a store that does not answer as it should, or of limits that are reached.
-/

namespace Entitlements

/-- How a row of the store differs from what it should hold. -/
inductive RowFault where
  /-- There is no row where one is due. -/
  | missing
  /-- A row ends too early. -/
  | short
  /-- A row has the wrong number of columns. -/
  | width
  /-- A cell holds a value of the wrong kind. -/
  | cell
  deriving DecidableEq, Repr, Inhabited

/-- How an operation fails. -/
inductive Fault where
  /-- The request is refused. -/
  | refused (r : Refusal)
  /-- A change asks for an operation that is neither adding nor removing. -/
  | unsupportedOperation (name : String)
  /-- A change is for neither a user nor a group. -/
  | unsupportedChange (description : String)
  /-- A change is for no holder that it could be applied to. -/
  | changeWithoutHolder
  /-- A value that stands for a holder is none. -/
  | unsupportedHolder (v : Json.Value)
  /-- A user is needed and not given. -/
  | userRequired
  /-- A group is needed and not given. -/
  | groupRequired
  /-- No organization is the default one. -/
  | noDefaultOrganization
  /-- The default organization is not stored. -/
  | danglingDefaultOrganization
  /-- The store reports a failure. -/
  | statementFailed (text : String)
  /-- The work is given up from outside. -/
  | cancelled
  /-- The store answers with a row that cannot be read. -/
  | row (f : RowFault)
  /-- The service that knows tokens fails. -/
  | introspectionFailed
  /-- An infinite number stands for an integer. -/
  | infiniteInteger
  /-- A pattern goes beyond a limit. -/
  | pattern (l : Pattern.Limit)
  /-- A body stands too deep in itself. -/
  | bodyTooDeep
  deriving Inhabited

namespace Fault

/-- The words of a fault, where it has any of its own. -/
def message? : Fault → Option String
  | .refused r => some r.message
  | .unsupportedOperation name => some ("Unsupported permission change: " ++ Text.quote name)
  | .unsupportedChange description => some ("Unsupported permission change: " ++ description)
  | .unsupportedHolder v => some ("Unsupported holder: " ++ v.quoted)
  | .userRequired => some "user is required"
  | .groupRequired => some "group is required"
  | .noDefaultOrganization => some "Default organization is not defined"
  | .statementFailed text => some text
  | _ => none

end Fault

end Entitlements
