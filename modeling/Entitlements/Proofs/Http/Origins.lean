import Entitlements.Proofs.Http.Respond
import Entitlements.Store.Run
import Entitlements.Store.Sample

/-!
# Requests from other origins

The origin of a request decides about headers only: without it the request would come to the same,
in the answer and in whatever is done to find it. Where the origin is allowed, four headers tell the
browser so, each of them once, and the origin is named once among what the answer varies with.
Where it is not allowed nothing is told. It is the same for answers that tell of a failure, since
these headers are added last. Asking for the methods is answered without asking for anything.
-/

namespace Entitlements.Http

namespace Response

/-- The values of the headers with a name. -/
def values (r : Response) (name : String) : List String :=
  (r.headers.filter (·.1 == name)).map (·.2)

/-- The headers of the request that the response says it varies with. -/
def varies (r : Response) : List String :=
  (r.values "vary").flatMap fun v =>
    (splitOnChar ',' v.toList).map fun cs => String.ofList (Text.trimChars cs)

/-- The names of the headers that tell a browser what an origin may do. -/
def sharingNames : List String :=
  ["access-control-allow-origin", "access-control-allow-methods", "access-control-allow-headers",
    "access-control-max-age"]

/-- The response is another one, shared with an origin. -/
structure SharedWith (r r' : Response) (origin : String) : Prop where
  origin : r.values "access-control-allow-origin" = [origin]
  methods : r.values "access-control-allow-methods" = ["GET, POST, OPTIONS"]
  headers : r.values "access-control-allow-headers" = ["Authorization, Content-Type"]
  maxAge : r.values "access-control-max-age" = ["86400"]
  varies : r.varies = r'.varies ++ ["Origin"]
  others : ∀ name ∉ sharingNames, name ≠ "vary" → r.values name = r'.values name

/-- The response has no headers for other origins, and varies with the media types that the client
accepts at most. -/
structure Unshared (r : Response) : Prop where
  names : ∀ h ∈ r.headers, h.1 ∈ ["content-type", "vary", "allow"]
  vary : r.values "vary" = [] ∨ r.values "vary" = ["Accept"]

variable {r : Response}

theorem values_eq_nil_of_unshared (h : r.Unshared) {name : String}
    (hname : name ∉ ["content-type", "vary", "allow"]) : r.values name = [] := by
  rw [values, List.map_eq_nil_iff, List.filter_eq_nil_iff]
  intro header hheader heq
  exact hname (beq_iff_eq.mp heq ▸ h.names header hheader)

theorem Unshared.not_mem_varies (h : r.Unshared) : "Origin" ∉ r.varies := by
  rw [varies]
  rcases h.vary with hvary | hvary
  · rw [hvary]
    exact List.not_mem_nil
  · rw [hvary]
    decide +kernel

/-- Adding a value to a header leaves those with other names alone. -/
theorem filter_append_of_ne {name name' : String} (h : name' ≠ name) (value : String)
    (headers : List (String × String)) :
    (append name value headers).filter (·.1 == name') = headers.filter (·.1 == name') := by
  have hne : (name == name') = false := beq_eq_false_iff_ne.mpr h.symm
  induction headers with
  | nil => simp [append, hne]
  | cons header rest ih =>
    obtain ⟨n, v⟩ := header
    rw [append]
    by_cases hn : n = name
    · subst hn
      simp [hne]
    · simp [hn, List.filter_cons, ih]

/-- A value is added to the first header with the name, if there is any. -/
theorem filter_append_self (name value : String) (headers : List (String × String)) :
    (append name value headers).filter (·.1 == name) =
      append name value (headers.filter (·.1 == name)) := by
  induction headers with
  | nil => simp [append]
  | cons header rest ih =>
    obtain ⟨n, v⟩ := header
    by_cases hn : n = name
    · subst hn
      simp [append]
    · simp [append, hn, ih]

/-- The headers that tell a browser what an origin may do. -/
def sharing (origin : String) : List (String × String) :=
  [("access-control-allow-origin", origin),
    ("access-control-allow-methods", "GET, POST, OPTIONS"),
    ("access-control-allow-headers", "Authorization, Content-Type"),
    ("access-control-max-age", "86400")]

theorem values_allowOrigin (r : Response) (origin : String) {name : String} (h : name ≠ "vary") :
    (allowOrigin origin r).values name =
      r.values name ++ ((sharing origin).filter (·.1 == name)).map (·.2) := by
  simp only [values, allowOrigin, List.filter_append, filter_append_of_ne h, List.map_append]
  rfl

theorem values_vary_allowOrigin (h : r.Unshared) (origin : String) :
    r.values "vary" = [] ∧ (allowOrigin origin r).values "vary" = ["Origin"] ∨
      r.values "vary" = ["Accept"] ∧ (allowOrigin origin r).values "vary" = ["Accept, Origin"] := by
  have hnone : (sharing origin).filter (·.1 == "vary") = [] := rfl
  have hvary : (allowOrigin origin r).values "vary" =
      (append "vary" "Origin" (r.headers.filter (·.1 == "vary"))).map (·.2) := by
    rw [← filter_append_self, values]
    show ((append "vary" "Origin" r.headers ++ sharing origin).filter _).map _ = _
    rw [List.filter_append, hnone, List.append_nil]
  rcases h.vary with hr | hr
  · rw [values, List.map_eq_nil_iff] at hr
    rw [hr] at hvary
    exact .inl ⟨by rw [values, hr, List.map_nil], hvary⟩
  · obtain ⟨header, hheader, haccept⟩ := List.map_eq_singleton_iff.mp hr
    have hname : header.1 = "vary" := by
      have hmem : header ∈ r.headers.filter (·.1 == "vary") := hheader ▸ List.mem_singleton_self _
      exact beq_iff_eq.mp (List.mem_filter.mp hmem).2
    obtain rfl : header = ("vary", "Accept") := Prod.ext hname haccept
    rw [hheader] at hvary
    exact .inr ⟨hr, hvary⟩

/-- A response for an allowed origin tells so in each of the headers, once. -/
theorem allowOrigin_sharedWith (h : r.Unshared) (origin : String) :
    (allowOrigin origin r).SharedWith r origin := by
  have hadded {name value : String} (hvary : name ≠ "vary")
      (hname : name ∉ ["content-type", "vary", "allow"])
      (hvalue : ((sharing origin).filter (·.1 == name)).map (·.2) = [value]) :
      (allowOrigin origin r).values name = [value] := by
    rw [values_allowOrigin r origin hvary, values_eq_nil_of_unshared h hname, hvalue,
      List.nil_append]
  refine
    { origin := hadded (by decide) (by decide) rfl
      methods := hadded (by decide) (by decide) rfl
      headers := hadded (by decide) (by decide) rfl
      maxAge := hadded (by decide) (by decide) rfl
      varies := ?_
      others := fun name hname hvary => ?_ }
  · unfold varies
    rcases values_vary_allowOrigin h origin with ⟨hr, hshared⟩ | ⟨hr, hshared⟩
    · rw [hr, hshared]
      decide +kernel
    · rw [hr, hshared]
      decide +kernel
  · have hnone : (sharing origin).filter (·.1 == name) = [] := by
      rw [List.filter_eq_nil_iff]
      intro header hheader heq
      exact hname (beq_iff_eq.mp heq ▸ List.mem_map.mpr ⟨header, hheader, rfl⟩)
    rw [values_allowOrigin r origin hvary, hnone, List.map_nil, List.append_nil]

end Response

section

open Response (json jsonHeader)

theorem unshared_json (status : Nat) (body : Json.Value) : (json status body).Unshared :=
  ⟨by simp [json, jsonHeader], .inl rfl⟩

theorem unshared_replyResponse (reply : Service.Reply) : (replyResponse reply).Unshared := by
  have hempty : Response.Unshared ⟨204, none, []⟩ := ⟨by simp, .inl rfl⟩
  cases reply with
  | outcome | done | nothing => exact hempty
  | template | templateGroups | groups | projects => exact unshared_json _ _

theorem unshared_problem (p : Problem) : p.response.Unshared := by
  refine ⟨?_, .inr ?_⟩
  · cases p <;> simp [Problem.response, json, jsonHeader]
  · cases p <;> rfl

theorem unshared_of_refusalResponse? {f : Fault} {r : Response} (h : refusalResponse? f = some r) :
    r.Unshared := by
  cases f with
  | refused refusal =>
    obtain ⟨status, -, rfl⟩ := Option.map_eq_some_iff.mp h
    exact unshared_json _ _
  | _ => exact nomatch h

end

section

variable {κ : Type} (serve : (q : Request) → κ → q.Answer × κ) (k : κ) (site : Site) (i : Incoming)

theorem unshared_failureResponse (failure : Failure) :
    (Program.run serve (failureResponse i failure) k).1.Unshared := by
  cases failure with
  | problem p => exact unshared_problem p
  | fault f =>
    unfold failureResponse
    dsimp only
    cases hr : refusalResponse? f with
    | some r => exact unshared_of_refusalResponse? hr
    | none => exact unshared_json _ _

theorem unshared_reportReadiness :
    (Program.run serve (reportReadiness site) k).1.Unshared := by
  unfold reportReadiness
  split
  · rw [Program.run_bind]
    cases (Program.run serve (Program.request .probe) k).1 <;> exact unshared_json _ _
  · exact unshared_json _ _

theorem unshared_serve (e : Endpoint) (session? : Option Session) {r : Response}
    (h : (Program.run serve (e.serve i session?) k).1 = .ok r) : r.Unshared := by
  unfold Endpoint.serve at h
  cases session? with
  | none => exact nomatch h
  | some σ =>
    dsimp only at h
    cases hcommand : e.command i with
    | error failure =>
      rw [hcommand] at h
      exact nomatch h
    | ok c? =>
      rw [hcommand] at h
      cases c? with
      | none =>
        cases h
        exact unshared_json _ _
      | some c =>
        dsimp only at h
        rw [Program.run_bind] at h
        generalize Program.run serve (c.run.run.run σ) k = outcome at h
        obtain ⟨⟨f | reply, τ⟩, k'⟩ := outcome
        · exact nomatch h
        · cases h
          exact unshared_replyResponse reply

theorem unshared_respond (e : Endpoint) (session? : Option Session) {r : Response}
    (h : (Program.run serve (e.respond site i session?) k).1 = .ok r) : r.Unshared := by
  unfold Endpoint.respond at h
  split at h
  next =>
    split at h
    next =>
      cases h
      exact unshared_json _ _
    next =>
      rw [Program.run_bind] at h
      cases h
      exact unshared_reportReadiness serve k site
    next => exact unshared_serve serve k i e session? h
  next =>
    split at h
    next =>
      cases h
      exact ⟨by simp [Response.jsonHeader], .inl rfl⟩
    next => split at h <;> exact nomatch h

theorem unshared_route {r : Response} (h : (Program.run serve (route site i) k).1 = .ok r) :
    r.Unshared := by
  rw [route, Program.run_bind] at h
  generalize Program.run serve (Auth.authenticate site.tokens (i.header "Authorization")).run k =
    outcome at h
  obtain ⟨f | session?, k'⟩ := outcome
  · exact nomatch h
  · dsimp only at h
    cases hpath : Endpoint.ofPath? i.route with
    | none =>
      rw [hpath] at h
      exact nomatch h
    | some e =>
      rw [hpath] at h
      exact unshared_respond serve k' site i e session? h

/-- What a request comes to before other origins are looked after. -/
def Site.draft : Program Response := do
  if isPreflight site i then return Response.json 200 (.object [])
  match ← route site i with
  | .ok r => return r
  | .error failure => failureResponse i failure

theorem unshared_draft : (Program.run serve (site.draft i) k).1.Unshared := by
  unfold Site.draft
  split
  · exact unshared_json _ _
  · rw [Program.run_bind]
    generalize houtcome : Program.run serve (route site i) k = outcome
    obtain ⟨failure | r, k'⟩ := outcome
    · exact unshared_failureResponse serve k' i failure
    · have hr : (Program.run serve (route site i) k).1 = .ok r := congrArg Prod.fst houtcome
      exact unshared_route serve k site i hr

/-- The last step: other origins are looked after, and who asks for the head is given no body. -/
def finish (origins : List String) (i : Incoming) (r : Response) : Response :=
  if i.method == "HEAD" then (shareWith origins i r).withoutBody else shareWith origins i r

theorem Site.respond_eq_draft {origins : List String} (h : site.origins? = some origins) :
    site.respond i = site.draft i >>= fun r => .done (finish origins i r) := by
  unfold Site.respond Site.draft
  rw [h]
  by_cases hpreflight : isPreflight site i = true
  · simp only [if_pos hpreflight]
    rfl
  · simp only [if_neg hpreflight]
    rw [Program.bind_assoc]
    congr 1
    funext outcome
    cases outcome <;> rfl

/-- The request with no origin named. -/
def Incoming.withoutOrigin (i : Incoming) : Incoming :=
  { i with headers := i.headers.filter (·.1.toLower != "origin") }

theorem header_withoutOrigin {name : String} (h : name.toLower ≠ "origin") :
    i.withoutOrigin.header name = i.header name := by
  unfold Incoming.header Incoming.withoutOrigin
  have hfilter : (i.headers.filter (·.1.toLower != "origin")).filter
      (·.1.toLower == name.toLower) = i.headers.filter (·.1.toLower == name.toLower) := by
    rw [List.filter_filter]
    refine List.filter_congr fun header _ => ?_
    by_cases hname : header.1.toLower = name.toLower
    · simp [hname, h]
    · simp [hname]
  dsimp only
  rw [hfilter]

theorem toLower_origin : "Origin".toLower = "origin" := by decide +kernel

theorem header_origin_withoutOrigin : i.withoutOrigin.header "Origin" = "" := by
  have hfilter : (i.headers.filter (·.1.toLower != "origin")).filter
      (·.1.toLower == "origin") = [] := by
    simp [List.filter_filter]
  unfold Incoming.header Incoming.withoutOrigin
  dsimp only
  rw [toLower_origin, hfilter]
  rfl

/-- The origin of a request has no part in what it comes to, the last step apart. -/
theorem draft_withoutOrigin : site.draft i.withoutOrigin = site.draft i := by
  have hauthorization : i.withoutOrigin.header "Authorization" = i.header "Authorization" :=
    header_withoutOrigin i (by decide +kernel)
  have hcommand (e : Endpoint) : e.command i.withoutOrigin = e.command i := by
    cases e <;> rfl
  have hserve (e : Endpoint) (session? : Option Session) :
      e.serve i.withoutOrigin session? = e.serve i session? := by
    unfold Endpoint.serve
    rw [hcommand]
  have hrespond (e : Endpoint) (session? : Option Session) :
      e.respond site i.withoutOrigin session? = e.respond site i session? := by
    unfold Endpoint.respond
    rw [hserve]
    rfl
  have hroute : route site i.withoutOrigin = route site i := by
    unfold route
    rw [hauthorization]
    simp only [hrespond]
    rfl
  unfold Site.draft
  rw [hroute]
  rfl

end

/-- The request names an origin that is allowed. -/
def Incoming.IsAllowed (i : Incoming) (origins : List String) : Prop :=
  i.header "Origin" ≠ "" ∧ i.header "Origin" ∈ origins

section

variable {origins : List String} {i : Incoming} {r : Response}

theorem shareWith_of_isAllowed (h : i.IsAllowed origins) :
    shareWith origins i r = allowOrigin (i.header "Origin") r := by
  have hallowed : allowedOrigin? origins i = some (i.header "Origin") := by
    simp [allowedOrigin?, h.1, h.2]
  rw [shareWith, hallowed]

theorem shareWith_of_not_isAllowed (h : ¬ i.IsAllowed origins) : shareWith origins i r = r := by
  have hrefused : allowedOrigin? origins i = none := by
    have hout (hnonempty : i.header "Origin" ≠ "") : i.header "Origin" ∉ origins :=
      fun hmem => h ⟨hnonempty, hmem⟩
    simpa [allowedOrigin?] using hout
  rw [shareWith, hrefused]

theorem not_isAllowed_withoutOrigin : ¬ i.withoutOrigin.IsAllowed origins :=
  fun h => h.1 (header_origin_withoutOrigin i)

/-- The last step without an origin. -/
theorem finish_withoutOrigin : finish origins i.withoutOrigin r =
    if i.method == "HEAD" then r.withoutBody else r := by
  unfold finish
  rw [shareWith_of_not_isAllowed not_isAllowed_withoutOrigin]
  rfl

theorem finish_of_not_isAllowed (h : ¬ i.IsAllowed origins) :
    finish origins i r = finish origins i.withoutOrigin r := by
  rw [finish_withoutOrigin, finish, shareWith_of_not_isAllowed h]

/-- An allowed origin is told in each of the headers, once, whether there is a body or not. -/
theorem finish_sharedWith (hr : r.Unshared) (h : i.IsAllowed origins) :
    (finish origins i r).SharedWith (finish origins i.withoutOrigin r) (i.header "Origin") := by
  obtain ⟨horigin, hmethods, hheaders, hmaxAge, hvaries, hothers⟩ :=
    Response.allowOrigin_sharedWith hr (i.header "Origin")
  rw [finish_withoutOrigin, finish, shareWith_of_isAllowed h]
  split
  next => exact ⟨horigin, hmethods, hheaders, hmaxAge, hvaries, hothers⟩
  next => exact ⟨horigin, hmethods, hheaders, hmaxAge, hvaries, hothers⟩

/-- Without an origin the last step leaves the headers as they are. -/
theorem unshared_finish_withoutOrigin (hr : r.Unshared) :
    (finish origins i.withoutOrigin r).Unshared := by
  rw [finish_withoutOrigin]
  split
  next => exact ⟨hr.names, hr.vary⟩
  next => exact hr

/-- The origin has no part in the status and the body. -/
theorem finish_gives (origins : List String) (i : Incoming) (r : Response) :
    (finish origins i r).status = (finish origins i.withoutOrigin r).status ∧
      (finish origins i r).body? = (finish origins i.withoutOrigin r).body? := by
  rw [finish_withoutOrigin]
  unfold finish shareWith
  split <;> split <;> exact ⟨rfl, rfl⟩

theorem notMem_of_mem {name : String} (h : name ∈ Response.sharingNames) :
    name ∉ ["content-type", "vary", "allow"] := by
  revert name
  decide

/-- Each of the headers is there if and only if the origin is allowed. -/
theorem values_finish_ne_nil_iff (hr : r.Unshared) {name : String}
    (hname : name ∈ Response.sharingNames) :
    (finish origins i r).values name ≠ [] ↔ i.IsAllowed origins := by
  constructor
  · intro hvalues
    by_cases hallowed : i.IsAllowed origins
    · exact hallowed
    have hunshared : (finish origins i r).Unshared := by
      rw [finish_of_not_isAllowed hallowed]
      exact unshared_finish_withoutOrigin hr
    exact absurd (Response.values_eq_nil_of_unshared hunshared (notMem_of_mem hname)) hvalues
  · intro h
    obtain ⟨horigin, hmethods, hheaders, hmaxAge, -⟩ := finish_sharedWith hr h
    simp only [Response.sharingNames, List.mem_cons, List.not_mem_nil, or_false] at hname
    rcases hname with rfl | rfl | rfl | rfl
    · simp [horigin]
    · simp [hmethods]
    · simp [hheaders]
    · simp [hmaxAge]

end

/-- Where other origins are looked after, the origin that a request names decides about headers
only: whatever the request comes to, it would come to the same without it. If the origin is allowed
the response tells so in four headers, each of them once, and names the origin once among what it
varies with, besides what it would vary with anyway; it has these headers in no other case, and is
then what it would be without the origin. Asking for the methods is answered at once. -/
theorem shares_with_allowed_origins {κ : Type} (serve : (q : Request) → κ → q.Answer × κ) (k : κ)
    (setup : Site) (origins : List String) (i : Incoming) :
    let site := { setup with origins? := some origins }
    let outcome := Program.run serve (site.respond i) k
    let outcome' := Program.run serve (site.respond i.withoutOrigin) k
    let r := outcome.1
    let r' := outcome'.1
    (r.status = r'.status ∧ r.body? = r'.body? ∧ outcome.2 = outcome'.2) ∧
    (i.IsAllowed origins → r.SharedWith r' (i.header "Origin")) ∧
    (¬ i.IsAllowed origins → r = r') ∧
    (∀ name ∈ Response.sharingNames, r.values name ≠ [] ↔ i.IsAllowed origins) ∧
    (∀ name ∈ Response.sharingNames, r'.values name = []) ∧ "Origin" ∉ r'.varies ∧
    (i.method = "OPTIONS" → ∃ answer, site.respond i = .done answer ∧ answer.status = 200) := by
  intro site outcome outcome' r r'
  have horigins : site.origins? = some origins := rfl
  generalize hdraft : Program.run serve (site.draft i) k = drafted
  have houtcome : outcome = (finish origins i drafted.1, drafted.2) := by
    show Program.run serve (site.respond i) k = _
    rw [Site.respond_eq_draft site i horigins, Program.run_bind, hdraft]
    rfl
  have houtcome' : outcome' = (finish origins i.withoutOrigin drafted.1, drafted.2) := by
    show Program.run serve (site.respond i.withoutOrigin) k = _
    rw [Site.respond_eq_draft site i.withoutOrigin horigins, Program.run_bind,
      draft_withoutOrigin, hdraft]
    rfl
  have hr : r = finish origins i drafted.1 := congrArg Prod.fst houtcome
  have hr' : r' = finish origins i.withoutOrigin drafted.1 := congrArg Prod.fst houtcome'
  have hunshared : drafted.1.Unshared := hdraft ▸ unshared_draft serve k site i
  have hunshared' : r'.Unshared := hr' ▸ unshared_finish_withoutOrigin hunshared
  have hgives := finish_gives origins i drafted.1
  rw [← hr, ← hr'] at hgives
  refine ⟨⟨hgives.1, hgives.2, ?_⟩, fun h => ?_, fun h => ?_, fun name hname => ?_,
    fun name hname => ?_, hunshared'.not_mem_varies, fun hmethod => ?_⟩
  · rw [houtcome, houtcome']
  · rw [hr, hr']
    exact finish_sharedWith hunshared h
  · rw [hr, hr']
    exact finish_of_not_isAllowed h
  · rw [hr]
    exact values_finish_ne_nil_iff hunshared hname
  · exact Response.values_eq_nil_of_unshared hunshared' (notMem_of_mem hname)
  · have hpreflight : isPreflight site i = true := by
      simp [isPreflight, horigins, hmethod]
    refine ⟨finish origins i (.json 200 (.object [])), ?_, ?_⟩
    · rw [Site.respond_eq_draft site i horigins, Site.draft, if_pos hpreflight]
      rfl
    · rw [(finish_gives origins i _).1, finish_withoutOrigin]
      split <;> rfl

/-- A browser asks for the methods at a path, on behalf of a page of another origin. -/
def samplePreflight : Incoming where
  method := "OPTIONS"
  path := "/api/permissions/add_user"
  headers := [("origin", "http://localhost:8000")]

/-- It is answered at once, and told that the page may go on. -/
theorem shares_with_allowed_origins_preflight :
    let site : Site := { origins? := some ["http://localhost:8000"] }
    let s := Store.sample default
    let r := (s.run (site.respond samplePreflight)).1
    r.values "access-control-allow-origin" = ["http://localhost:8000"] ∧ r.varies = ["Origin"] ∧
      ∃ answer, site.respond samplePreflight = .done answer ∧ answer.status = 200 := by
  intro site s r
  have horigin : samplePreflight.header "Origin" = "http://localhost:8000" := by
    unfold Incoming.header samplePreflight
    dsimp only
    rw [toLower_origin]
    decide +kernel
  have hallowed : samplePreflight.IsAllowed ["http://localhost:8000"] := by
    rw [Incoming.IsAllowed, horigin]
    decide
  have hwithout : (s.run (site.respond samplePreflight.withoutOrigin)).1.varies = [] := by
    have hdraft : site.draft samplePreflight = .done (.json 200 (.object [])) := rfl
    rw [Site.respond_eq_draft site _ rfl, draft_withoutOrigin, hdraft]
    show (finish _ _ _).varies = []
    rw [finish_withoutOrigin]
    rfl
  obtain ⟨-, hshares, -, -, -, -, hpreflight⟩ := shares_with_allowed_origins Store.serve s site
    ["http://localhost:8000"] samplePreflight
  have hshared := hshares hallowed
  rw [horigin] at hshared
  have hvaries : r.varies = (s.run (site.respond samplePreflight.withoutOrigin)).1.varies ++
      ["Origin"] := hshared.varies
  rw [hwithout, List.nil_append] at hvaries
  exact ⟨hshared.origin, hvaries, hpreflight rfl⟩

end Entitlements.Http
