import Entitlements.Session

/-!
# Tokens

How the token of a request leads to a session. A token that leads to nobody is rejected; it never
makes its bearer a visitor. One that leads to a login makes its bearer the active user of that
login, or a visitor where there is none.
-/

namespace Entitlements.Auth

/-- How tokens are read. -/
inductive TokenReader where
  /-- No token leads to anybody. -/
  | none
  /-- A token is the login itself, except for one that stands for rejected tokens. -/
  | plain
  /-- The service that knows tokens is asked. -/
  | service
  deriving DecidableEq, Repr, Inhabited

/-- The token that is rejected where tokens are logins. -/
def rejectedToken : String := "invalid"

/-- Whom a token stands for by the service that knows tokens. -/
def introspect (token : String) : Work (Option Identity) := do
  match ← Request.ask (.introspect token) with
  | .claims fields => return Identity.ofClaims? fields
  | .refused error =>
    Event.record (.introspectionFailed error)
    return none
  | .failed => throw .introspectionFailed

/-- Whom a token stands for. -/
def TokenReader.identify : TokenReader → String → Work (Option Identity)
  | .none, _ => return Option.none
  | .plain, token =>
    return if token == rejectedToken then Option.none
      else some ⟨.text ("sub-" ++ token), .text token, .null⟩
  | .service, token => introspect token

/-- The session of whom a token stands for. A login that is no text is nobody's, so its bearer is a
visitor. The lookup, which could only find nobody or be refused by the database, is left out. -/
def Identity.session (i : Identity) : Work Session :=
  match i.login with
  | .text login => Session.create (some login)
  | _ => transaction (return Session.ofUser? none)

/-- What stands before a token in a header. -/
def bearer : String := "Bearer "

/-- The session of a request, given its credentials. There is none where they lead to nobody. -/
def authenticate (reader : TokenReader) (credentials : String) : Work (Option Session) := do
  if credentials.isEmpty then return some (← Session.create none)
  else if bearer.toList.isPrefixOf credentials.toList then
    match ← reader.identify (String.ofList (credentials.toList.drop bearer.length)) with
    | some i => return some (← i.session)
    | none => return none
  else return none

end Entitlements.Auth
