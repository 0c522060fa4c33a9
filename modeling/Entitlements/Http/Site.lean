import Entitlements.Auth.Token
import Entitlements.Http.Cors
import Entitlements.Http.Endpoint

/-!
# The site

How a request from the web is answered. Where requests across origins are looked after, asking for
the methods is answered first of all. Then the credentials of the request are looked at, before
its path and its method. The caller is known before the body is read.
-/

namespace Entitlements.Http

open Entitlements.Json

/-- How a site is set up. -/
structure Site where
  /-- The origins that are allowed, where requests across origins are looked after. -/
  origins? : Option (List String) := none
  /-- How tokens are read. -/
  tokens : Auth.TokenReader := .none
  /-- Being ready means that the store answers. -/
  probes : Bool := false
  deriving Inhabited

/-- Do what a request asks for on behalf of the caller. -/
def Endpoint.serve (e : Endpoint) (i : Incoming) (session? : Option Session) :
    Program (Except Failure Response) := do
  match session? with
  | none => return .error (.fault (.refused .badToken))
  | some σ =>
    match e.command i with
    | .error failure => return .error failure
    | .ok none => return .ok (statusResponse 200 "ok")
    | .ok (some command) =>
      let (answer, _) ← (command.run.run).run σ
      match answer with
      | .ok reply => return .ok (replyResponse reply)
      | .error f => return .error (.fault f)

/-- Tell whether the service is ready. -/
def reportReadiness (site : Site) : Program Response := do
  if site.probes then
    match ← Program.request .probe with
    | .ok _ => return statusResponse 200 "ready"
    | .error error =>
      let _ ← Program.request (.log (.readinessCheckFailed error))
      return statusResponse 503 "unavailable"
  else return statusResponse 200 "ready"

/-- Answer a request to an endpoint. -/
def Endpoint.respond (e : Endpoint) (site : Site) (i : Incoming) (session? : Option Session) :
    Program (Except Failure Response) := do
  if i.method == e.method then
    match e with
    | .health => return .ok (statusResponse 200 "ok")
    | .readiness => return .ok (← reportReadiness site)
    | _ => e.serve i session?
  else if i.method == "OPTIONS" then
    return .ok ⟨200, none, [Response.jsonHeader, ("allow", e.method)]⟩
  else if methods.contains i.method then
    return .error (.problem (.methodNotAllowed [e.method, "OPTIONS"]))
  else return .error (.problem .unknownMethod)

/-- The response to a failure. Faults that are kept from the client go to the log. -/
def failureResponse (i : Incoming) : Failure → Program Response
  | .problem p => return p.response
  | .fault f => do
    match refusalResponse? f with
    | some r => return r
    | none =>
      let _ ← Program.request (.log (.unhandledFailure i.method i.route))
      return internalError

/-- Answer a request after looking at its credentials. -/
def route (site : Site) (i : Incoming) : Program (Except Failure Response) := do
  match ← (Auth.authenticate site.tokens (i.header "Authorization")).run with
  | .error f => return .error (.fault f)
  | .ok session? =>
    match Endpoint.ofPath? i.route with
    | none => return .error (.problem .noRoute)
    | some e => e.respond site i session?

/-- The request asks which methods there are, on a site that answers this by itself. -/
def isPreflight (site : Site) (i : Incoming) : Bool :=
  site.origins?.isSome && i.method == "OPTIONS"

/-- Answer a request. -/
def Site.respond (site : Site) (i : Incoming) : Program Response := do
  let response ←
    if isPreflight site i then pure (Response.json 200 (.object []))
    else do
      match ← route site i with
      | .ok r => pure r
      | .error failure => failureResponse i failure
  let response := match site.origins? with
    | some origins => shareWith origins i response
    | none => response
  return if i.method == "HEAD" then response.withoutBody else response

end Entitlements.Http
