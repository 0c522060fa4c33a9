import Entitlements.Http.Message

/-!
# Requests across origins

A browser may hand the answers of the service to pages of the allowed origins only. The service
names the origin of the request in the response when it is one of them.
-/

namespace Entitlements.Http

/-- The origin of a request, if it is allowed. -/
def allowedOrigin? (origins : List String) (r : Incoming) : Option String :=
  let origin := r.header "Origin"
  if origin.isEmpty || !origins.contains origin then none else some origin

/-- Tell the browser that an origin is allowed. -/
def allowOrigin (origin : String) (r : Response) : Response :=
  { r with
    headers := Response.append "vary" "Origin" r.headers ++
      [("access-control-allow-origin", origin),
        ("access-control-allow-methods", "GET, POST, OPTIONS"),
        ("access-control-allow-headers", "Authorization, Content-Type"),
        ("access-control-max-age", "86400")] }

/-- Tell the browser which origin is allowed, if any. -/
def shareWith (origins : List String) (i : Incoming) (r : Response) : Response :=
  match allowedOrigin? origins i with
  | some origin => allowOrigin origin r
  | none => r

end Entitlements.Http
