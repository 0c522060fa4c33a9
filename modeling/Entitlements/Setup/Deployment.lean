import Entitlements.Http.Site
import Entitlements.Setup.Logging
import Entitlements.Setup.Pool
import Entitlements.Sql.Database

/-!
# The service as a whole

Settings decide on the log, on the connections to the database, on the service that knows tokens
and on the site. Without a secret no service knows tokens, which the log tells. The connections
are opened before the first request and closed after the last one.
-/

namespace Entitlements.Setup

/-- The service that knows tokens. -/
structure Provider where
  /-- Where the service is. -/
  url : String
  /-- The realm of the tokens. -/
  realm : String
  /-- The name under which it is asked. -/
  clientId : String
  /-- The secret with which it is asked. -/
  clientSecret : String
  deriving DecidableEq, Repr, Inhabited

/-- The provider that settings name. There is none without a secret. -/
def Provider.ofSettings? (s : Settings) : Option Provider :=
  if s.keycloakClientSecret.isEmpty then none
  else some ⟨s.keycloakUrl, s.keycloakRealm, s.keycloakClientId, s.keycloakClientSecret⟩

/-- What the log tells about the provider that settings name. -/
def Provider.events (s : Settings) : List Event :=
  if (ofSettings? s).isNone then
    [.authenticationDisabled "KEYCLOAK_CLIENT_SECRET is empty"]
  else []

/-- The texts between commas, without the blanks around them. -/
def originsOf (s : String) : List String :=
  ((Http.splitOnChar ',' s.toList).map fun cs => String.ofList (Text.trimChars cs)).filter
    (!·.isEmpty)

/-- The service, set up. -/
structure Deployment where
  /-- The log. -/
  logging : Logging
  /-- The connections to the database. -/
  pool : Pool
  /-- The service that knows tokens. -/
  provider? : Option Provider
  /-- The site. -/
  site : Http.Site
  /-- What the log tells about setting up the service. -/
  events : List Event
  deriving Inhabited

namespace Deployment

/-- The service as settings ask for it. -/
def ofSettings (s : Settings) : Except LevelFlaw Deployment := do
  let provider? := Provider.ofSettings? s
  return {
    logging := ← Logging.ofSettings s
    pool := Pool.ofSettings s
    provider? := provider?
    site := {
      origins? := some (originsOf s.corsOrigins)
      tokens := if provider?.isSome then .service else .none
      probes := true }
    events := Provider.events s }

/-- The version of the service. -/
def version : String := "0.1.0"

/-- The event of starting to listen. -/
def startEvent (s : Settings) : Event := .starting version s.host s.port

/-- Open the connections, answer a request, and close the connections. -/
def answerOne (d : Deployment) (i : Http.Incoming) (db : Sql.Database) :
    Http.Response × Sql.Database :=
  let record (e : Event) (db : Sql.Database) : Sql.Database :=
    { db with around := db.around.record e }
  let db := record (.poolOpened d.pool.minSize d.pool.maxSize) (db.tell .openPool)
  let (response, db) := db.run (d.site.respond i)
  (response, record .poolClosed (db.tell .closePool))

end Deployment

end Entitlements.Setup
