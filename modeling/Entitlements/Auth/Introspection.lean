import Entitlements.Json.Value

/-!
# Introspection of tokens

What the service that knows tokens answers about one of them.
-/

namespace Entitlements.Auth

open Entitlements.Json

/-- An answer about a token. -/
inductive Introspection where
  /-- The claims of the token. -/
  | claims (fields : List (String × Value))
  /-- The service refuses to answer. -/
  | refused (error : String)
  /-- The service fails. -/
  | failed
  deriving Inhabited

/-- A token that nobody issued is not active. -/
def Introspection.unknown : Introspection := .claims [("active", .bool false)]

/-- Whom a token stands for. -/
structure Identity where
  /-- The token's own name of the user. -/
  subject : Value
  /-- The login of the user. -/
  login : Value
  /-- The mail address of the user. -/
  email : Value
  deriving Inhabited

/-- Whom the claims of a token stand for. The token has to be active and to name a login. -/
def Identity.ofClaims? (fields : List (String × Value)) : Option Identity :=
  let login := Value.field fields "preferred_username"
  if !(Value.field fields "active").isTruthy || !login.isTruthy then none
  else
    let subject := ((fields.find? (·.1 == "sub")).map (·.2)).getD (.text "")
    some ⟨subject, login, Value.field fields "email"⟩

end Entitlements.Auth
