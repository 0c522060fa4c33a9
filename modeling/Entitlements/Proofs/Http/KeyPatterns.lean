import Entitlements.Proofs.Http.Credentials
import Entitlements.Proofs.Pattern.Limits
import Entitlements.Proofs.Service.Effects

/-!
# Key patterns of templates

Who administers an organization may ask for a template with a key pattern. One that is empty or a
pattern is accepted, and one that breaks the grammar of patterns is refused in words of its own.
What is left are patterns that go beyond a limit: they are not refused, and their cause is kept from
the client. Such a pattern shows what asks for too much, so that any other one is accepted or
refused.
-/

namespace Entitlements

open Pattern (judge)

namespace Service

/-- What becomes of a key pattern. One that is not given, empty or a pattern is accepted; one that
breaks the grammar of patterns is refused; one that goes beyond a limit, which it shows, is
neither. -/
inductive Judged (pattern? : Option String) : Except Fault Unit → Prop
  | accepted (h : ∀ p, given? pattern? = some p → judge p = .ok ()) : Judged pattern? (.ok ())
  | refused {p : String} (hgiven : given? pattern? = some p) (h : judge p = .error .malformed) :
    Judged pattern? (.error (.refused (.badKeyPattern p)))
  | beyond {p : String} {l : Pattern.Limit} (hgiven : given? pattern? = some p)
    (h : judge p = .error (.beyond l)) (hshown : l.ShownIn p.toList) :
    Judged pattern? (.error (.pattern l))

theorem validateKeyPattern_of_accepted {pattern? : Option String}
    (h : ∀ p, given? pattern? = some p → judge p = .ok ()) :
    validateKeyPattern pattern? = .ok () := by
  unfold validateKeyPattern
  cases hgiven : given? pattern? with
  | none => rfl
  | some p =>
    dsimp only
    rw [h p hgiven]

theorem validateKeyPattern_of_malformed {pattern? : Option String} {p : String}
    (hgiven : given? pattern? = some p) (h : judge p = .error .malformed) :
    validateKeyPattern pattern? = .error (.refused (.badKeyPattern p)) := by
  rw [validateKeyPattern, hgiven]
  dsimp only
  rw [h]

theorem validateKeyPattern_of_beyond {pattern? : Option String} {p : String} {l : Pattern.Limit}
    (hgiven : given? pattern? = some p) (h : judge p = .error (.beyond l)) :
    validateKeyPattern pattern? = .error (.pattern l) := by
  rw [validateKeyPattern, hgiven]
  dsimp only
  rw [h]

theorem judged_validateKeyPattern (pattern? : Option String) :
    Judged pattern? (validateKeyPattern pattern?) := by
  cases hgiven : given? pattern? with
  | none =>
    have haccepted : ∀ p, given? pattern? = some p → judge p = .ok () := by simp [hgiven]
    rw [validateKeyPattern_of_accepted haccepted]
    exact .accepted haccepted
  | some p =>
    rcases hjudge : judge p with (_ | l) | _
    · rw [validateKeyPattern_of_malformed hgiven hjudge]
      exact .refused hgiven hjudge
    · rw [validateKeyPattern_of_beyond hgiven hjudge]
      exact .beyond hgiven hjudge (Pattern.shown_of_judge hjudge)
    · have haccepted : ∀ q, given? pattern? = some q → judge q = .ok () :=
        fun q hq => by rwa [← Option.some.inj (hgiven.symm.trans hq)]
      rw [validateKeyPattern_of_accepted haccepted]
      exact .accepted haccepted

/-- A pattern without what asks for too much is accepted or refused. -/
theorem accepted_or_refused {pattern? : Option String}
    (hmodest : ∀ p, given? pattern? = some p → ∀ l : Pattern.Limit, ¬ l.ShownIn p.toList) :
    validateKeyPattern pattern? = .ok () ∨ ∃ p, given? pattern? = some p ∧
      validateKeyPattern pattern? = .error (.refused (.badKeyPattern p)) := by
  have hjudged := judged_validateKeyPattern pattern?
  generalize validateKeyPattern pattern? = answer at hjudged ⊢
  cases hjudged with
  | accepted => exact .inl rfl
  | refused hgiven => exact .inr ⟨_, hgiven, rfl⟩
  | beyond hgiven _ hshown => exact absurd hshown (hmodest _ hgiven _)

variable {σ : Session} {s t : Store} {o : Organization}

/-- Who administers the organization and gives a name is answered by what becomes of the key
pattern, and by whether the name is free. -/
theorem createTemplate_decides {name organizationKey? : Option String} {trimmed : String}
    (htrimmed : Text.trim (name.getD "") = trimmed) (hname : trimmed ≠ "")
    (hsigned : σ.principal.isSignedIn = true) (ho : s.organizationOf? organizationKey? = some o)
    (hclears : σ.Clears s (.organization o.uuid)) (ht : s.Untouched t)
    (description? pattern? : Option String) :
    Acting.Ensures Store.setting (createTemplate name description? pattern? organizationKey?) σ t
      (fun _ _ _ => validateKeyPattern pattern? = .ok ())
      fun f _ _ => validateKeyPattern pattern? = .error f ∨
        validateKeyPattern pattern? = .ok () ∧ f = .refused (.templateNameTaken trimmed) := by
  have hblank : ¬ trimmed.isEmpty = true := by simpa using hname
  rw [createTemplate]
  dsimp only
  rw [htrimmed, Acting.ensures_bind]
  refine Session.checkSignedIn_ensures (fun _ => ?_) fun hnot => absurd hsigned hnot
  rw [Acting.ensures_bind, Acting.ensures_setting_transaction, Acting.ensures_bind,
    Acting.ensures_lift]
  refine Lookup.organization_finds ht ho ?_
  rw [Acting.ensures_bind]
  refine Session.checkAdministers_decides ht (fun _ τ t' _ ht' => ?_)
    fun hnot => absurd hclears hnot
  rw [if_neg hblank, Acting.ensures_bind, Acting.ensures_liftExcept]
  cases validateKeyPattern pattern? with
  | error f => exact .inl rfl
  | ok a =>
    dsimp only
    have hreads : (Query.templateByName o.uuid trimmed).Reads := trivial
    have hanswer : (s.answer (.templateByName o.uuid trimmed)).1 =
        .ok (s.templateByName? o.uuid trimmed) := rfl
    rw [Acting.ensures_bind, Acting.ensures_read_iff ht' hreads, hanswer]
    dsimp only
    cases s.templateByName? o.uuid trimmed with
    | some tpl => exact .inr ⟨rfl, rfl⟩
    | none =>
      rw [Option.isSome_none, if_neg Bool.false_ne_true]
      refine insertTemplate_ensures (k := fun uuid at? => ⟨uuid, o.uuid, trimmed, description?,
        pattern?, at?, at?⟩) ht' fun at? t'' _ => ?_
      rw [Acting.ensures_bind, Acting.ensures_setting_record]
      exact rfl

end Service

namespace Http

open Service (Command Judged validateKeyPattern)

section

variable {site : Site} {i : Incoming} {s t : Store}

theorem Endpoint.takesCommands_of_command {e : Endpoint} {c : Command}
    (h : e.command i = .ok (some c)) : e.TakesCommands := by
  refine ⟨?_, ?_⟩
  · rintro rfl
    exact nomatch h
  · rintro rfl
    exact nomatch h

/-- A command is served with what the session answers to it. -/
theorem run_serve {e : Endpoint} {c : Command} (h : e.command i = .ok (some c)) (σ : Session)
    (t : Store) :
    (t.run (e.serve i (some σ))).1 = match σ.answer t c.run with
      | .ok reply => .ok (replyResponse reply)
      | .error f => .error (.fault f) := by
  unfold Endpoint.serve Session.answer
  rw [h]
  dsimp only
  rw [Store.run, Program.run_bind, Store.run]
  obtain ⟨⟨answer, τ⟩, t'⟩ := Program.run Store.serve (c.run.run.run σ) t
  cases answer <;> rfl

/-- Who gets a session and asks for a command is told what the session answers to it. -/
theorem respond_gives_for {c : Command} {σ : Session} (hasks : i.AsksFor c)
    (hsession : s.run (Auth.authenticate site.tokens (i.header "Authorization")).run =
      (.ok (some σ), t)) :
    (s.run (site.respond i)).1.Gives
      (match σ.answer t c.run with
        | .ok reply => replyResponse reply
        | .error f => (Failure.fault f).answer) := by
  obtain ⟨e, hpath, hmethod, hcommand⟩ := hasks
  have he := Endpoint.takesCommands_of_command hcommand
  have hhead : i.method ≠ "HEAD" := hmethod ▸ e.method_ne_head
  rw [run_respond he hpath hmethod hsession, Store.run, Program.run_bind]
  have hserve := run_serve hcommand σ t
  rw [Store.run] at hserve
  rw [hserve]
  refine (run_conclude site hhead _ _).trans ?_
  cases σ.answer t c.run <;> exact ⟨rfl, rfl⟩

/-- Who is known by credentials and asks for a command is told what a new session of theirs answers
to it. -/
theorem respond_gives {c : Command} {login : Json.Value} (hasks : i.AsksFor c)
    (hnamed : Auth.Named s.around.introspect site.tokens (i.header "Authorization") login) :
    ∃ t, s.Untouched t ∧ (s.run (site.respond i)).1.Gives
      (match (Session.ofUser? (s.bearer? login)).answer t c.run with
        | .ok reply => replyResponse reply
        | .error f => (Failure.fault f).answer) := by
  obtain ⟨_, t, hrun, rfl, ht⟩ := Work.run_of_ensures (Auth.authenticate_of_named hnamed)
  exact ⟨t, ht, respond_gives_for hasks hrun⟩

/-- The response tells of a refusal, in the words of it. -/
def Response.Tells (r : Response) (refusal : Refusal) : Prop :=
  some r.status = statusOf? refusal.category ∧
    r.body? = some (.object [("error", .text refusal.message)])

end

theorem tells_of_gives {r : Response} {refusal : Refusal} (h : refusal.category = .validation)
    (hr : r.Gives (Failure.fault (.refused refusal)).answer) : r.Tells refusal := by
  have hstatus : statusOf? refusal.category = some 400 := by rw [h, statusOf?]
  have hanswer : (Failure.fault (.refused refusal)).answer =
      Response.json 400 (.object [("error", .text refusal.message)]) := by
    rw [Failure.answer, refusalResponse?, hstatus, Option.map_some, Option.getD_some]
  rw [hanswer] at hr
  exact ⟨by rw [hstatus, hr.1]; rfl, hr.2⟩

/-- A request for a template, from who administers the organization, is answered by what becomes of
the key pattern, and by whether the name is free. -/
theorem createTemplate_gives (s : Store) (site : Site) {i : Incoming} {login : Json.Value}
    {u : User} {o : Organization} {name description? pattern? organizationKey? : Option String}
    (hasks : i.AsksFor (.createTemplate name description? pattern? organizationKey?))
    (hnamed : Auth.Named s.around.introspect site.tokens (i.header "Authorization") login)
    (hu : s.bearer? login = some u) (ho : s.organizationOf? organizationKey? = some o)
    (hclears : (Session.ofUser? (some u)).Clears s (.organization o.uuid))
    (hname : Text.trim (name.getD "") ≠ "") :
    let r := (s.run (site.respond i)).1
    (validateKeyPattern pattern? = .ok () ∧
      (r.status = 200 ∨ r.Tells (.templateNameTaken (Text.trim (name.getD ""))))) ∨
    ∃ f, validateKeyPattern pattern? = .error f ∧ r.Gives (Failure.fault f).answer := by
  intro r
  obtain ⟨t, ht, hgives⟩ := respond_gives hasks hnamed
  rw [hu] at hgives
  generalize htrimmed : Text.trim (name.getD "") = trimmed at hname ⊢
  have hrun : Acting.Ensures Store.setting
      (Command.createTemplate name description? pattern? organizationKey?).run
      (Session.ofUser? (some u)) t
      (fun reply _ _ => validateKeyPattern pattern? = .ok () ∧ (replyResponse reply).status = 200)
      fun f _ _ => validateKeyPattern pattern? = .error f ∨
        validateKeyPattern pattern? = .ok () ∧ f = .refused (.templateNameTaken trimmed) := by
    show Acting.Ensures Store.setting (Service.Reply.template <$> Service.createTemplate name
      description? pattern? organizationKey?) (Session.ofUser? (some u)) t _ _
    rw [Acting.ensures_map]
    exact (Service.createTemplate_decides htrimmed hname rfl ho hclears ht description?
      pattern?).mono (fun _ _ _ h => ⟨h, rfl⟩) fun _ _ _ => id
  rcases Session.answer_of_ensures hrun with ⟨reply, hreply, hok, hstatus⟩ |
    ⟨f, hf, hrefused | ⟨hok, rfl⟩⟩
  · rw [hreply] at hgives
    exact .inl ⟨hok, .inl (hgives.1.trans hstatus)⟩
  · rw [hf] at hgives
    exact .inr ⟨f, hrefused, hgives⟩
  · rw [hf] at hgives
    exact .inl ⟨hok, .inr (tells_of_gives rfl hgives)⟩

/-- The user `root` of the sample asks for a template with a key pattern. -/
def sampleTemplate (pattern : String) : Incoming where
  method := "POST"
  path := "/api/permissions/create_template"
  headers := [("Authorization", "Bearer root")]
  body := ("\x7b\"name\": \"Payroll\", \"project_key_pattern\": \"" ++ pattern ++
    "\"\x7d").toUTF8.toList

theorem sampleTemplate_asksFor {pattern : String} {c : Command}
    (h : (Endpoint.createTemplate.command (sampleTemplate pattern)).toOption = some (some c)) :
    (sampleTemplate pattern).AsksFor c := by
  have hroute : (sampleTemplate pattern).route = "/api/permissions/create_template" :=
    route_of_notMem (by simp only [sampleTemplate]; decide +kernel)
  refine ⟨.createTemplate, by rw [hroute]; decide +kernel, rfl, ?_⟩
  revert h
  cases Endpoint.createTemplate.command (sampleTemplate pattern) with
  | error failure => exact nofun
  | ok c? => exact fun h => congrArg _ (Option.some.inj h)

theorem sampleTemplate_named (answers : String → Auth.Introspection)
    (pattern : String) :
    Auth.Named answers .plain ((sampleTemplate pattern).header "Authorization") (.text "root") := by
  have hheader : (sampleTemplate pattern).header "Authorization" = "Bearer " ++ "root" := by
    unfold Incoming.header sampleTemplate
    dsimp only
    decide +kernel
  rw [hheader]
  exact ⟨"root", rfl, .plain (by decide)⟩

theorem sampleTemplate_clears :
    (Session.ofUser? ((Store.sample default).bearer? (.text "root"))).Clears (Store.sample default)
      (.organization Store.sampleDefault) :=
  ⟨.inr ⟨_, rfl⟩, _, rfl, by decide⟩

end Http

end Entitlements
