import Entitlements.Setup.Settings

/-!
# The pool of connections

Connections to the database are kept open between requests. How many there are lies between two
bounds that have to make sense together.
-/

namespace Entitlements.Setup

open Entitlements.Number

/-- The connections to a database. -/
structure Pool where
  /-- Where the database is. -/
  url : String
  /-- The least number of connections. -/
  minSize : Int := 2
  /-- The greatest number of connections. -/
  maxSize : Int := 10
  /-- How many seconds a request waits for a connection. -/
  timeout : Double := .ofDecimal false 30 0
  deriving DecidableEq, Repr, Inhabited

namespace Pool

/-- The name by which the database knows the service. -/
def applicationName : String := "grantkeeper"

/-- The bounds make sense together. -/
def isSound (p : Pool) : Bool :=
  decide (0 ≤ p.minSize) && decide (p.minSize ≤ p.maxSize) && decide (0 < p.maxSize)

/-- A pool whose bounds make sense together. -/
def make? (p : Pool) : Option Pool := if p.isSound then some p else none

/-- The pool that settings ask for. -/
def ofSettings (s : Settings) : Pool :=
  ⟨s.databaseUrl, s.poolMinSize, s.poolMaxSize, s.poolTimeout⟩

end Pool

end Entitlements.Setup
