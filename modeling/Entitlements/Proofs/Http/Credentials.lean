import Entitlements.Http.Site
import Entitlements.Proofs.Http.Respond
import Entitlements.Proofs.Session.Answers

/-!
# What credentials lead to

Credentials of a request lead to nobody, or to a login, unless the service that knows tokens breaks
down over them. Whoever gives credentials that lead to nobody is refused at every endpoint where
something can be asked for, before anything else of the request is looked at: such a bearer is never
taken for a visitor. Credentials that lead to a login are good for what the active user of the login
may do, and for what visitors may do where there is no such user.
-/

namespace Entitlements

open Json

namespace Auth

variable {answers : String → Introspection} {reader : TokenReader} {token : String} {login : Value}

/-- The token leads to nobody: no tokens are read, it is the one that stands for rejected ones, the
service refuses to answer about it, or the service says that it is not active or names no login. -/
inductive TokenReader.Rejects (answers : String → Introspection) : TokenReader → String → Prop
  | unread (token : String) : Rejects answers .none token
  | plain : Rejects answers .plain rejectedToken
  | refused {token error : String} (h : answers token = .refused error) :
    Rejects answers .service token
  | inactive {token : String} {fields : List (String × Value)} (h : answers token = .claims fields)
    (hactive : (Value.field fields "active").isTruthy = false) : Rejects answers .service token
  | nameless {token : String} {fields : List (String × Value)} (h : answers token = .claims fields)
    (hlogin : (Value.field fields "preferred_username").isTruthy = false) :
    Rejects answers .service token

/-- The token leads to the login: it is the login, or the service says that it is active and names
the login. -/
inductive TokenReader.Names (answers : String → Introspection) : TokenReader → String → Value → Prop
  | plain {token : String} (h : token ≠ rejectedToken) : Names answers .plain token (.text token)
  | claimed {token : String} {fields : List (String × Value)} (h : answers token = .claims fields)
    (hactive : (Value.field fields "active").isTruthy = true)
    (hlogin : (Value.field fields "preferred_username").isTruthy = true) :
    Names answers .service token (Value.field fields "preferred_username")

/-- The credentials are not those of a bearer, or their token leads to nobody. -/
def Rejected (answers : String → Introspection) (reader : TokenReader) (credentials : String) :
    Prop :=
  ¬ bearer.toList <+: credentials.toList ∨
    ∃ token, credentials = bearer ++ token ∧ reader.Rejects answers token

/-- The credentials are those of a bearer of a token that leads to the login. -/
def Named (answers : String → Introspection) (reader : TokenReader) (credentials : String)
    (login : Value) : Prop :=
  ∃ token, credentials = bearer ++ token ∧ reader.Names answers token login

/-- A token leads to nobody or to a login, unless the service fails over it. -/
theorem TokenReader.rejects_or_names (answers : String → Introspection) (reader : TokenReader)
    (token : String) (hfailed : reader = .service → answers token ≠ .failed) :
    reader.Rejects answers token ∨ ∃ login, reader.Names answers token login := by
  cases reader with
  | none => exact .inl (.unread token)
  | plain =>
    by_cases h : token = rejectedToken
    · subst h
      exact .inl .plain
    · exact .inr ⟨_, .plain h⟩
  | service =>
    cases hanswer : answers token with
    | failed => exact absurd hanswer (hfailed rfl)
    | refused error => exact .inl (.refused hanswer)
    | claims fields =>
      cases hactive : (Value.field fields "active").isTruthy with
      | false => exact .inl (.inactive hanswer hactive)
      | true =>
        cases hlogin : (Value.field fields "preferred_username").isTruthy with
        | false => exact .inl (.nameless hanswer hlogin)
        | true => exact .inr ⟨_, .claimed hanswer hactive hlogin⟩

variable {s t : Store}

/-- What the service says about a token is what is known around the store; that it refuses to answer
is said in the log. -/
theorem ensures_introspect_iff {ok : Option Identity → Store → Prop} {err : Fault → Store → Prop} :
    Work.Ensures Store.setting (introspect token) s ok err ↔
      match s.around.introspect token with
      | .claims fields => ok (Identity.ofClaims? fields) s
      | .refused error => ok none { s with around := s.around.record (.introspectionFailed error) }
      | .failed => err .introspectionFailed s := by
  have hserve : Store.serve (.introspect token) s = (s.around.introspect token, s) := rfl
  rw [introspect, Work.ensures_bind, Work.ensures_setting_ask, hserve]
  dsimp only
  cases s.around.introspect token with
  | claims fields => rfl
  | refused error =>
    dsimp only
    rw [Work.ensures_bind, Work.ensures_setting_record]
    rfl
  | failed => rfl

/-- A token that leads to nobody is found to do so. -/
theorem identify_of_rejects (h : reader.Rejects s.around.introspect token) :
    Work.Ensures Store.setting (reader.identify token) s (fun i? t => i? = none ∧ s.SameData t)
      fun _ _ => False := by
  have hself := Store.SameData.refl s
  cases h with
  | unread => exact ⟨rfl, hself⟩
  | plain => exact ⟨rfl, hself⟩
  | refused hanswer =>
    rw [TokenReader.identify, ensures_introspect_iff, hanswer]
    exact ⟨rfl, hself.record _⟩
  | inactive hanswer hactive =>
    rw [TokenReader.identify, ensures_introspect_iff, hanswer]
    exact ⟨by simp [Identity.ofClaims?, hactive], hself⟩
  | nameless hanswer hlogin =>
    rw [TokenReader.identify, ensures_introspect_iff, hanswer]
    exact ⟨by simp [Identity.ofClaims?, hlogin], hself⟩

/-- A token that leads to a login is found to do so, and finding it changes nothing at all. -/
theorem identify_of_names (h : reader.Names s.around.introspect token login) :
    Work.Ensures Store.setting (reader.identify token) s
      (fun i? t => (∃ i, i? = some i ∧ i.login = login) ∧ t = s) fun _ _ => False := by
  cases h with
  | plain hne =>
    have hidentify : TokenReader.identify .plain token =
        pure (some ⟨.text ("sub-" ++ token), .text token, .null⟩) := by
      rw [TokenReader.identify, if_neg (by simpa using hne)]
    rw [hidentify]
    exact ⟨⟨_, rfl, rfl⟩, rfl⟩
  | claimed hanswer hactive hlogin =>
    rw [TokenReader.identify, ensures_introspect_iff, hanswer]
    refine ⟨?_, rfl⟩
    simp [Identity.ofClaims?, hactive, hlogin]

end Auth

/-- The account behind the login that a token leads to. A login that is no text is nobody's. -/
def Store.bearer? (s : Store) : Value → Option User
  | .text login => s.caller? (some login)
  | _ => none

namespace Auth

variable {answers : String → Introspection} {reader : TokenReader} {credentials : String}
  {login : Value} {s t : Store}

theorem session_ensures (i : Identity) (s : Store) :
    Work.Ensures Store.setting i.session s
      (fun σ t => σ = Session.ofUser? (s.bearer? i.login) ∧ s.Untouched t) fun _ _ => False := by
  have hs : s.Untouched s := .refl s
  unfold Identity.session Store.bearer?
  cases i.login with
  | text login => exact Session.create_ensures (some login) s
  | _ =>
    dsimp only
    rw [Work.ensures_setting_transaction]
    exact ⟨rfl, hs.completed⟩

/-- Credentials of a bearer are good for what the token leads to. -/
theorem authenticate_bearer (reader : TokenReader) (token : String) :
    authenticate reader (bearer ++ token) = (do
      match ← reader.identify token with
      | some i => return some (← i.session)
      | none => return none) := by
  have hempty : (bearer ++ token).isEmpty = false := by
    simp [bearer]
  have hprefix : bearer.toList.isPrefixOf (bearer ++ token).toList = true := by
    simp
  have htoken : String.ofList ((bearer ++ token).toList.drop bearer.length) = token := by
    rw [String.toList_append, ← String.length_toList, List.drop_left, String.ofList_toList]
  rw [authenticate, hempty, hprefix, htoken]
  rfl

/-- Whoever gives credentials that lead to nobody is not even a visitor. -/
theorem authenticate_of_rejected (hgiven : credentials ≠ "")
    (h : Rejected s.around.introspect reader credentials) :
    Work.Ensures Store.setting (authenticate reader credentials) s
      (fun σ? t => σ? = none ∧ s.SameData t) fun _ _ => False := by
  rcases h with hnot | ⟨token, rfl, h⟩
  · have hprefix : ¬ bearer.toList.isPrefixOf credentials.toList = true :=
      fun hprefix => hnot (List.isPrefixOf_iff_prefix.mp hprefix)
    have hempty : ¬ credentials.isEmpty = true := by simpa using hgiven
    rw [authenticate, if_neg hempty, if_neg hprefix]
    exact ⟨rfl, .refl s⟩
  · rw [authenticate_bearer, Work.ensures_bind]
    refine (identify_of_rejects h).mono ?_ fun _ _ => False.elim
    rintro _ t ⟨rfl, ht⟩
    exact ⟨rfl, ht⟩

/-- Whoever gives credentials that lead to a login is the active user of it, or a visitor where
there is none. -/
theorem authenticate_of_named (h : Named s.around.introspect reader credentials login) :
    Work.Ensures Store.setting (authenticate reader credentials) s
      (fun σ? t => σ? = some (Session.ofUser? (s.bearer? login)) ∧ s.Untouched t)
      fun _ _ => False := by
  obtain ⟨token, rfl, h⟩ := h
  rw [authenticate_bearer, Work.ensures_bind]
  refine (identify_of_names h).mono ?_ fun _ _ => False.elim
  rintro _ _ ⟨⟨i, rfl, rfl⟩, rfl⟩
  dsimp only
  rw [Work.ensures_bind]
  refine (session_ensures i _).mono ?_ fun _ _ => False.elim
  rintro _ t ⟨rfl, ht⟩
  exact ⟨rfl, ht⟩

end Auth

namespace Http

/-- The response made of what comes of a request: failures are told, other origins are looked after,
and who asks for the head is given no body. -/
def Site.conclude (site : Site) (i : Incoming) (outcome : Except Failure Response) :
    Program Response := do
  let response ←
    match outcome with
    | .ok r => pure r
    | .error failure => failureResponse i failure
  let response := match site.origins? with
    | some origins => shareWith origins i response
    | none => response
  return if i.method == "HEAD" then response.withoutBody else response

/-- Do what a request to an endpoint asks for on behalf of a session, and respond to the request. -/
def Site.respondFor (site : Site) (i : Incoming) (e : Endpoint) (σ : Session) :
    Program Response := do
  site.conclude i (← e.serve i (some σ))

theorem Site.respond_eq {site : Site} {i : Incoming} (h : isPreflight site i = false) :
    site.respond i = route site i >>= site.conclude i := by
  unfold Site.respond Site.conclude
  rw [h]
  rfl

/-- Something can be asked for at the endpoint, which tells more than how the service is. -/
def Endpoint.TakesCommands (e : Endpoint) : Prop := e ≠ .health ∧ e ≠ .readiness

theorem Endpoint.respond_eq_serve {e : Endpoint} (he : e.TakesCommands) {site : Site} {i : Incoming}
    (hmethod : i.method = e.method) (session? : Option Session) :
    e.respond site i session? = e.serve i session? := by
  unfold Endpoint.respond
  rw [if_pos (beq_iff_eq.mpr hmethod)]
  cases e with
  | health => exact absurd rfl he.1
  | readiness => exact absurd rfl he.2
  | _ => rfl

theorem Endpoint.method_ne_options (e : Endpoint) : e.method ≠ "OPTIONS" := by
  cases e <;> simp [Endpoint.method]

theorem Endpoint.method_ne_head (e : Endpoint) : e.method ≠ "HEAD" := by
  cases e <;> simp [Endpoint.method]

@[simp] theorem body?_shareWith (origins : List String) (i : Incoming) (r : Response) :
    (shareWith origins i r).body? = r.body? := by
  unfold shareWith
  split <;> rfl

/-- What a failure is answered with: a problem and a refusal in words of their own, and any other
fault with its cause kept back. -/
def Failure.answer : Failure → Response
  | .problem p => p.response
  | .fault f => (refusalResponse? f).getD internalError

/-- The response has the status and the body of an answer. Headers for other origins may have been
added. -/
def Response.Gives (r answer : Response) : Prop := r.status = answer.status ∧ r.body? = answer.body?

theorem Response.Gives.trans {r r' answer : Response} (h : r.Gives r') (h' : r'.Gives answer) :
    r.Gives answer := ⟨h.1.trans h'.1, h.2.trans h'.2⟩

theorem shareWith_gives (origins : List String) (i : Incoming) (r : Response) :
    (shareWith origins i r).Gives r := ⟨status_shareWith origins i r, body?_shareWith origins i r⟩

section

variable {site : Site} {i : Incoming} {e : Endpoint} {s t : Store}

theorem run_failureResponse (i : Incoming) (failure : Failure) (t : Store) :
    (t.run (failureResponse i failure)).1 = failure.answer := by
  cases failure with
  | problem p => rfl
  | fault f =>
    unfold failureResponse Failure.answer
    dsimp only
    cases refusalResponse? f <;> rfl

/-- What a request comes to is what its outcome is answered with. -/
theorem run_conclude (site : Site) (hhead : i.method ≠ "HEAD")
    (outcome : Except Failure Response) (t : Store) :
    (t.run (site.conclude i outcome)).1.Gives
      (match outcome with
        | .ok r => r
        | .error failure => failure.answer) := by
  have hhead' : ¬ (i.method == "HEAD") = true := by simpa using hhead
  -- the last step, once there is an answer
  have hfinish (answer : Response) : Response.Gives (match site.origins? with
      | some origins => shareWith origins i answer
      | none => answer) answer := by
    cases site.origins? with
    | none => exact ⟨rfl, rfl⟩
    | some origins => exact shareWith_gives origins i answer
  unfold Site.conclude Store.run
  simp only [if_neg hhead']
  cases outcome with
  | ok r => exact hfinish r
  | error failure =>
    have hanswer : (Program.run Store.serve (failureResponse i failure) t).1 = failure.answer :=
      run_failureResponse i failure t
    dsimp only
    rw [Program.run_bind, hanswer]
    exact hfinish failure.answer

/-- A request to an endpoint is answered for whom its credentials have turned out to lead to. -/
theorem run_respond (he : e.TakesCommands) (hpath : Endpoint.ofPath? i.route = some e)
    (hmethod : i.method = e.method) {session? : Option Session}
    (h : s.run (Auth.authenticate site.tokens (i.header "Authorization")).run =
      (.ok session?, t)) :
    s.run (site.respond i) = t.run (e.serve i session? >>= site.conclude i) := by
  have hpreflight : isPreflight site i = false := by
    simp [isPreflight, hmethod, e.method_ne_options]
  rw [Store.run] at h
  rw [Site.respond_eq hpreflight, Store.run, Store.run, Program.run_bind, Program.run_bind, route,
    Program.run_bind, h]
  dsimp only
  rw [hpath]
  dsimp only
  rw [Endpoint.respond_eq_serve he hmethod]

/-- Without a session a request to an endpoint is refused, and nothing more is done. -/
theorem run_serve_none (site : Site) (hmethod : i.method = e.method) (t : Store) :
    ∃ r, t.run (e.serve i none >>= site.conclude i) = (r, t) ∧ r.status = 401 ∧
      r.body? = some (.object [("error", .text (Refusal.message .badToken))]) := by
  have hhead : i.method ≠ "HEAD" := hmethod ▸ e.method_ne_head
  have hgives := run_conclude site hhead (.error (.fault (.refused .badToken))) t
  exact ⟨_, rfl, hgives.1, hgives.2⟩

end

/-- A request with credentials to an endpoint where something can be asked for. If the credentials
lead to nobody it is refused and leaves all data as they were, whatever else the request holds and
whatever visitors may do. If they lead to a login it is answered for a session that goes by the
grants of the active user of that login, or of a visitor where there is none. There is nothing else,
unless the service that knows tokens fails. -/
theorem respond_by_credentials (s : Store) (site : Site) {i : Incoming} {e : Endpoint}
    (he : e.TakesCommands) (hpath : Endpoint.ofPath? i.route = some e)
    (hmethod : i.method = e.method) (hgiven : i.header "Authorization" ≠ "") :
    (Auth.Rejected s.around.introspect site.tokens (i.header "Authorization") →
      (s.run (site.respond i)).1.status = 401 ∧
      (s.run (site.respond i)).1.body? =
        some (.object [("error", .text "Invalid authentication token")]) ∧
      s.SameData (s.run (site.respond i)).2) ∧
    (∀ login, Auth.Named s.around.introspect site.tokens (i.header "Authorization") login →
      ∃ t, s.Untouched t ∧
        s.run (site.respond i) = t.run (site.respondFor i e (.ofUser? (s.bearer? login))) ∧
        ∀ d, (s.components.map (·.uuid)).Nodup → s.defaultOrganization = .ok d →
          Session.AnswersBy s d (s.bearer? login) (.ofUser? (s.bearer? login)) t) ∧
    ((∀ token, s.around.introspect token ≠ .failed) →
      Auth.Rejected s.around.introspect site.tokens (i.header "Authorization") ∨
        ∃ login, Auth.Named s.around.introspect site.tokens (i.header "Authorization") login) := by
  refine ⟨fun hrejected => ?_, fun login hnamed => ?_, fun hserves => ?_⟩
  · obtain ⟨_, t, hrun, rfl, ht⟩ :=
      Work.run_of_ensures (Auth.authenticate_of_rejected hgiven hrejected)
    obtain ⟨r, hserve, hstatus, hbody⟩ := run_serve_none site hmethod t
    rw [run_respond he hpath hmethod hrun, hserve]
    exact ⟨hstatus, hbody, ht⟩
  · obtain ⟨_, t, hrun, rfl, ht⟩ := Work.run_of_ensures (Auth.authenticate_of_named hnamed)
    refine ⟨t, ht, run_respond he hpath hmethod hrun, fun d hkeyed hd => ?_⟩
    exact (Session.current_ofUser? s _).answersBy hkeyed hd ht
  · by_cases hbearer : Auth.bearer.toList <+: (i.header "Authorization").toList
    · obtain ⟨token, htoken⟩ := hbearer
      have hcredentials : i.header "Authorization" = Auth.bearer ++ String.ofList token := by
        rw [← String.toList_inj, String.toList_append, String.toList_ofList, htoken]
      rcases Auth.TokenReader.rejects_or_names s.around.introspect site.tokens
        (String.ofList token) (fun _ => hserves _) with hrejects | ⟨login, hnames⟩
      · exact .inl (.inr ⟨_, hcredentials, hrejects⟩)
      · exact .inr ⟨login, _, hcredentials, hnames⟩
    · exact .inl (.inl hbearer)

/-- The sample where everyone administers the default organization, and one token is known: it is
that of `ghost`, who cannot sign in. -/
def sampleOpen : Store :=
  let s := Store.sample
    { (default : Surroundings) with
      tokens := [("known", .claims
        [("active", .bool true), ("preferred_username", .text "ghost")])] }
  { s with
    grants := s.grants ++ [⟨Store.sampleDefault, .anyone, Permission.administer,
      .organization Store.sampleDefault⟩] }

/-- Somebody with a token asks to grant something, with a body that is broken off. -/
def sampleGranting (token : String) : Incoming where
  method := "POST"
  path := "/api/permissions/add_user"
  headers := [("Authorization", "Bearer " ++ token)]
  body := "\x7b\"login\": ".toUTF8.toList

/-- There a token that is not known is refused, and that of `ghost` makes a visitor. -/
theorem respond_by_credentials_open :
    let s := sampleOpen
    let site : Site := { tokens := .service }
    let e := Endpoint.changeUser .add
    ((s.run (site.respond (sampleGranting "stale"))).1.status = 401 ∧
      s.SameData (s.run (site.respond (sampleGranting "stale"))).2) ∧
    ∃ t, s.Untouched t ∧ s.run (site.respond (sampleGranting "known")) =
      t.run (site.respondFor (sampleGranting "known") e (.ofUser? none)) := by
  intro s site e
  have he : e.TakesCommands := ⟨nofun, nofun⟩
  have hroute (token : String) : (sampleGranting token).route = "/api/permissions/add_user" :=
    route_of_notMem (by simp only [sampleGranting]; decide +kernel)
  have hpath (token : String) : Endpoint.ofPath? (sampleGranting token).route = some e := by
    rw [hroute]
    decide +kernel
  have hstale : (sampleGranting "stale").header "Authorization" = "Bearer " ++ "stale" := by
    decide +kernel
  have hknown : (sampleGranting "known").header "Authorization" = "Bearer " ++ "known" := by
    decide +kernel
  have hrejected : Auth.Rejected s.around.introspect site.tokens
      ((sampleGranting "stale").header "Authorization") := by
    have hanswer : s.around.introspect "stale" = .claims [("active", .bool false)] := rfl
    rw [hstale]
    exact .inr ⟨"stale", rfl, .inactive hanswer rfl⟩
  have hnamed : Auth.Named s.around.introspect site.tokens
      ((sampleGranting "known").header "Authorization") (.text "ghost") := by
    have hanswer : s.around.introspect "known" =
        .claims [("active", .bool true), ("preferred_username", .text "ghost")] := rfl
    rw [hknown]
    exact ⟨"known", rfl, .claimed hanswer rfl (by decide +kernel)⟩
  have hgiven : (sampleGranting "stale").header "Authorization" ≠ "" := by
    rw [hstale]
    decide
  have hgiven' : (sampleGranting "known").header "Authorization" ≠ "" := by
    rw [hknown]
    decide
  obtain ⟨hstatus, -, hdata⟩ :=
    (respond_by_credentials s site he (hpath "stale") rfl hgiven).1 hrejected
  obtain ⟨t, ht, hrun, -⟩ :=
    (respond_by_credentials s site he (hpath "known") rfl hgiven').2.1 _ hnamed
  exact ⟨⟨hstatus, hdata⟩, t, ht, hrun⟩

end Http

end Entitlements
