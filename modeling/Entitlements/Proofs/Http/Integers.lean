import Entitlements.Proofs.Http.KeyPatterns
import Entitlements.Proofs.Number.Integers

/-!
# Integers of bodies

A field of a body that an integer is asked of may be left out or empty. Otherwise its value stands
for an integer, as a number, a truth value or a text, and is read as this one, or it is refused.
Only an infinite number is neither: such a request fails, and the client does not learn why.
-/

namespace Entitlements

open Json Number

/-- The value stands for the integer. -/
inductive Json.Value.Denotes : Value → Int → Prop
  | int (n : Int) : Denotes (.int n) n
  | bool (b : Bool) : Denotes (.bool b) (if b then 1 else 0)
  | number {d : Double} {x : ℚ} (h : d.value? = some x) : Denotes (.number d) (towardZero x)
  | text {s : String} {n : Int} (h : Writes s n) : Denotes (.text s) n

/-- The value is left out or empty. -/
def Json.Value.IsOmitted (v : Value) : Prop := v = .null ∨ v = .text ""

/-- The value is an infinite number. -/
def Json.Value.IsInfinite (v : Value) : Prop := ∃ negative, v = .number (.infinite negative)

/-- The number of the group that a command is about, where it is told by a number. -/
def Service.Command.groupNumber? : Command → Option Int
  | .changeGroupPermission _ _ n? _ _ _ _ | .addUserToGroup _ n? _ _ => n?
  | _ => none

namespace Http

section

variable {v : Value} {n : Int} {name : String} {fields : List (String × Value)}

theorem integerOf_of_denotes (h : v.Denotes n) : integerOf name v = .ok n := by
  cases h with
  | int | bool => rfl
  | @number d x h =>
    have htruncate : d.truncate? = some (towardZero x) := by
      rw [Double.truncate?_eq, h, Option.map_some]
    cases d with
    | undefined | infinite => exact nomatch h
    | finite =>
      rw [integerOf, htruncate]
      exact nofun
  | text h => rw [integerOf, readInt?_eq_some_iff.mpr h]

/-- A value that stands for no integer is refused, if it is not an infinite number. -/
theorem integerOf_of_not_denotes (h : ∀ n, ¬ v.Denotes n) (hfinite : ¬ v.IsInfinite) :
    integerOf name v = .error (.refused (.parameterNotInteger name)) := by
  cases v with
  | int n => exact absurd (.int n) (h n)
  | bool b => exact absurd (.bool b) (h _)
  | number d =>
    cases d with
    | undefined => rfl
    | infinite negative => exact absurd ⟨negative, rfl⟩ hfinite
    | finite negative m e => exact absurd (.number rfl) (h _)
  | text s =>
    cases hread : readInt? s with
    | none => rw [integerOf, hread]
    | some n => exact absurd (.text (readInt?_eq_some_iff.mp hread)) (h n)
  | null | list | object => rfl

theorem not_denotes_of_isOmitted (h : v.IsOmitted) : ¬ v.Denotes n := by
  have hempty : readInt? "" = none := by decide +kernel
  rintro (_ | _ | _ | h')
  all_goals rcases h with h | h
  all_goals cases h
  exact nomatch hempty.symm.trans (readInt?_eq_some_iff.mpr h')

theorem optionalInteger_of_isOmitted (h : (Value.field fields name).IsOmitted) :
    optionalInteger fields name = .ok none := by
  unfold optionalInteger
  rcases h with h | h
  · rw [h]
  · rw [h]
    rfl

theorem optionalInteger_of_not_isOmitted (h : ¬ (Value.field fields name).IsOmitted) :
    optionalInteger fields name = (integerOf name (Value.field fields name)).map some := by
  unfold optionalInteger
  generalize Value.field fields name = v at h
  split
  next => exact absurd (.inl rfl) h
  next =>
    split
    next => exact absurd (.inr rfl) h
    next => rfl

theorem optionalInteger_of_denotes (h : (Value.field fields name).Denotes n) :
    optionalInteger fields name = .ok (some n) := by
  have hgiven : ¬ (Value.field fields name).IsOmitted :=
    fun homitted => not_denotes_of_isOmitted homitted h
  rw [optionalInteger_of_not_isOmitted hgiven, integerOf_of_denotes h]
  rfl

theorem optionalInteger_of_not_denotes (hgiven : ¬ (Value.field fields name).IsOmitted)
    (h : ∀ n, ¬ (Value.field fields name).Denotes n)
    (hfinite : ¬ (Value.field fields name).IsInfinite) :
    optionalInteger fields name = .error (.refused (.parameterNotInteger name)) := by
  rw [optionalInteger_of_not_isOmitted hgiven, integerOf_of_not_denotes h hfinite]
  rfl

theorem optionalInteger_of_isInfinite (h : (Value.field fields name).IsInfinite) :
    optionalInteger fields name = .error .infiniteInteger := by
  obtain ⟨negative, h⟩ := h
  rw [optionalInteger, h]
  rfl

end

/-- The fields of an endpoint's body of which one has to be given, and the other, looked at after
it, is an integer. -/
def Endpoint.integerFields? : Endpoint → Option (String × String)
  | .changeGroup _ => some ("permission", "group_id")
  | .addUserToGroup => some ("login", "id")
  | _ => none

/-- The request to the endpoint has a body where an integer is asked of the value of the field. -/
structure Incoming.Supplies (i : Incoming) (e : Endpoint) (name : String) (v : Value) : Prop where
  path : Endpoint.ofPath? i.route = some e
  method : i.method = e.method
  value : ∃ fields required given, e.integerFields? = some (required, name) ∧
    i.fields = .ok fields ∧ mandatory fields required = .ok given ∧ Value.field fields name = v

/-- What a session is told when it asks for a command. -/
def answerTo (σ : Session) (s : Store) (c : Service.Command) : Response :=
  match σ.answer s c.run with
  | .ok reply => replyResponse reply
  | .error f => (Failure.fault f).answer

section

variable {site : Site} {i : Incoming} {e : Endpoint} {name : String} {v : Value} {s t : Store}
  {σ : Session}

theorem Endpoint.takesCommands_of_integerFields? {fields : String × String}
    (h : e.integerFields? = some fields) : e.TakesCommands := by
  refine ⟨?_, ?_⟩
  · rintro rfl
    exact nomatch h
  · rintro rfl
    exact nomatch h

/-- The command asked for is about the group with the number that is read, and a number that
cannot be read is all that keeps it from being asked for. -/
theorem command_of_supplies (h : i.Supplies e name v) :
    ∃ fields, Value.field fields name = v ∧ ∃ c : Option Int → Service.Command,
      (∀ n?, (c n?).groupNumber? = n?) ∧
      e.command i = (liftFault (optionalInteger fields name)).map fun n? => some (c n?) := by
  obtain ⟨fields, required, given, he, hfields, hgiven, hv⟩ := h.value
  refine ⟨fields, hv, ?_⟩
  cases e with
  | changeGroup operation =>
    obtain ⟨rfl, rfl⟩ : "permission" = required ∧ "group_id" = name := by
      simpa [Endpoint.integerFields?] using he
    refine ⟨fun n? => .changeGroupPermission operation given n? (optionalText fields "group_name")
      (optionalText fields "project_id") (optionalText fields "project_key")
      (optionalText fields "organization"), fun _ => rfl, ?_⟩
    rw [Endpoint.command, hfields]
    show (liftFault (mandatory fields "permission") >>= _) = _
    rw [hgiven]
    cases optionalInteger fields "group_id" <;> rfl
  | addUserToGroup =>
    obtain ⟨rfl, rfl⟩ : "login" = required ∧ "id" = name := by
      simpa [Endpoint.integerFields?] using he
    refine ⟨fun n? => .addUserToGroup given n? (optionalText fields "name")
      (optionalText fields "organization"), fun _ => rfl, ?_⟩
    rw [Endpoint.command, hfields]
    show (liftFault (mandatory fields "login") >>= _) = _
    rw [hgiven]
    cases optionalInteger fields "id" <;> rfl
  | _ => exact nomatch he

/-- A request that asks for no command since something is wrong with it is told so. -/
theorem respond_gives_failure {failure : Failure} (he : e.TakesCommands)
    (hpath : Endpoint.ofPath? i.route = some e) (hmethod : i.method = e.method)
    (hcommand : e.command i = .error failure)
    (hsession : s.run (Auth.authenticate site.tokens (i.header "Authorization")).run =
      (.ok (some σ), t)) :
    (s.run (site.respond i)).1.Gives failure.answer := by
  have hhead : i.method ≠ "HEAD" := hmethod ▸ e.method_ne_head
  have hserve : e.serve i (some σ) = .done (.error failure) := by
    unfold Endpoint.serve
    dsimp only
    rw [hcommand]
    rfl
  rw [run_respond he hpath hmethod hsession, hserve]
  exact run_conclude site hhead (.error failure) t

/-- An integer that is read, or left out, is the one that the command asked for is about. -/
theorem respond_gives_of_read {n? : Option Int} (h : i.Supplies e name v)
    (hread : ∀ fields, Value.field fields name = v → optionalInteger fields name = .ok n?)
    (hsession : s.run (Auth.authenticate site.tokens (i.header "Authorization")).run =
      (.ok (some σ), t)) :
    ∃ c, i.AsksFor c ∧ c.groupNumber? = n? ∧
      (s.run (site.respond i)).1.Gives (answerTo σ t c) := by
  obtain ⟨fields, hv, c, hnumber, hcommand⟩ := command_of_supplies h
  rw [hread fields hv] at hcommand
  have hasks : i.AsksFor (c n?) := ⟨e, h.path, h.method, hcommand⟩
  exact ⟨c n?, hasks, hnumber n?, respond_gives_for hasks hsession⟩

theorem respond_gives_of_fault {f : Fault} (h : i.Supplies e name v)
    (hread : ∀ fields, Value.field fields name = v → optionalInteger fields name = .error f)
    (hsession : s.run (Auth.authenticate site.tokens (i.header "Authorization")).run =
      (.ok (some σ), t)) :
    (s.run (site.respond i)).1.Gives (Failure.fault f).answer := by
  obtain ⟨fields, hv, c, -, hcommand⟩ := command_of_supplies h
  rw [hread fields hv] at hcommand
  obtain ⟨_, _, _, he, -⟩ := h.value
  exact respond_gives_failure (Endpoint.takesCommands_of_integerFields? he) h.path h.method
    hcommand hsession

end

/-- A value that an integer is asked of is nothing where it is left out or empty, is read as the
integer that it stands for, and is refused where it stands for none, unless it is an infinite
number. It goes like that with the requests about a group, on behalf of any session: the command
is run with the integer that was read, a value that was refused is told, and of an infinite number
the client learns nothing. -/
theorem integer_read_or_refused (fields : List (String × Value)) (name : String) (s t : Store)
    (site : Site) (i : Incoming) (e : Endpoint) (σ : Session) :
    let v := Value.field fields name
    let outcome := optionalInteger fields name
    ((v.IsOmitted → outcome = .ok none) ∧
      (∀ n, v.Denotes n → outcome = .ok (some n)) ∧
      (¬ v.IsOmitted → (∀ n, ¬ v.Denotes n) → ¬ v.IsInfinite →
        outcome = .error (.refused (.parameterNotInteger name))) ∧
      (v.IsInfinite → outcome = .error .infiniteInteger)) ∧
    (i.Supplies e name v →
      s.run (Auth.authenticate site.tokens (i.header "Authorization")).run = (.ok (some σ), t) →
      let r := (s.run (site.respond i)).1
      (v.IsOmitted → ∃ c, i.AsksFor c ∧ c.groupNumber? = none ∧ r.Gives (answerTo σ t c)) ∧
      (∀ n, v.Denotes n →
        ∃ c, i.AsksFor c ∧ c.groupNumber? = some n ∧ r.Gives (answerTo σ t c)) ∧
      (¬ v.IsOmitted → (∀ n, ¬ v.Denotes n) → ¬ v.IsInfinite →
        r.Tells (.parameterNotInteger name)) ∧
      (v.IsInfinite → r.status = 500)) := by
  intro v outcome
  refine ⟨⟨optionalInteger_of_isOmitted, fun _ => optionalInteger_of_denotes,
    optionalInteger_of_not_denotes, optionalInteger_of_isInfinite⟩, fun hsupplies hsession => ?_⟩
  intro r
  refine ⟨fun homitted => ?_, fun n hn => ?_, fun hgiven hnot hfinite => ?_, fun hinfinite => ?_⟩
  · refine respond_gives_of_read hsupplies (fun fields' hv => ?_) hsession
    exact optionalInteger_of_isOmitted (hv ▸ homitted)
  · refine respond_gives_of_read hsupplies (fun fields' hv => ?_) hsession
    exact optionalInteger_of_denotes (hv ▸ hn)
  · have hgives : r.Gives (Failure.fault (.refused (.parameterNotInteger name))).answer := by
      refine respond_gives_of_fault hsupplies (fun fields' hv => ?_) hsession
      rw [← hv] at hgiven hnot hfinite
      exact optionalInteger_of_not_denotes hgiven hnot hfinite
    exact tells_of_gives rfl hgives
  · have hgives : r.Gives (Failure.fault .infiniteInteger).answer := by
      refine respond_gives_of_fault hsupplies (fun fields' hv => ?_) hsession
      exact optionalInteger_of_isInfinite (hv ▸ hinfinite)
    exact hgives.1

/-- The user `root` of the sample asks to grant the permission to scan to a group, with a number
for it. -/
def sampleGroupGrant (number : String) : Incoming where
  method := "POST"
  path := "/api/permissions/add_group"
  headers := [("Authorization", "Bearer root")]
  body := ("\x7b\"permission\": \"scan\", \"group_id\": " ++ number ++ "\x7d").toUTF8.toList

/-- What is read of the body of the sample's request, if it gives a number. -/
def sampleGiven? (number : String) : Option (Option String × Double) := do
  let fields ← (sampleGroupGrant number).fields.toOption
  match Value.field fields "group_id" with
  | .number d => some ((mandatory fields "permission").toOption, d)
  | _ => none

theorem sampleGroupGrant_supplies (number : String) {d : Double}
    (h : sampleGiven? number = some (some "scan", d)) :
    (sampleGroupGrant number).Supplies (.changeGroup .add) "group_id" (.number d) := by
  have hroute : (sampleGroupGrant number).route = "/api/permissions/add_group" :=
    route_of_notMem (by simp only [sampleGroupGrant]; decide +kernel)
  refine ⟨by rw [hroute]; decide +kernel, rfl, ?_⟩
  unfold sampleGiven? at h
  cases hfields : (sampleGroupGrant number).fields with
  | error failure => simp [hfields, Except.toOption] at h
  | ok fields =>
    rw [hfields] at h
    simp only [Except.toOption, Option.bind_eq_bind, Option.bind_some] at h
    split at h
    next d' hvalue =>
      cases hgiven : mandatory fields "permission" with
      | error f => simp [hgiven] at h
      | ok given =>
        rw [hgiven] at h
        obtain ⟨-, rfl⟩ : given = "scan" ∧ d' = d := by simpa using h
        exact ⟨fields, _, given, rfl, rfl, hgiven, hvalue⟩
    next => exact (Option.some_ne_none _ h.symm).elim

/-- The token `root` is good for a session of the user `root` of the sample. -/
theorem sampleGroupGrant_session (number : String) : ∃ t,
    (Store.sample default).run (Auth.authenticate .plain
      ((sampleGroupGrant number).header "Authorization")).run =
      (.ok (some (Session.ofUser? ((Store.sample default).bearer? (.text "root")))), t) := by
  have hheader : (sampleGroupGrant number).header "Authorization" = "Bearer " ++ "root" := by
    unfold Incoming.header sampleGroupGrant
    dsimp only
    decide +kernel
  have hnamed : Auth.Named (Store.sample default).around.introspect .plain
      ((sampleGroupGrant number).header "Authorization") (.text "root") := by
    rw [hheader]
    exact ⟨"root", rfl, .plain (by decide)⟩
  obtain ⟨_, t, hrun, rfl, -⟩ := Work.run_of_ensures (Auth.authenticate_of_named hnamed)
  exact ⟨t, hrun⟩

/-- The number 2.9 stands for the group 2. -/
theorem integer_read_or_refused_fraction :
    let s := Store.sample default
    let site : Site := { tokens := .plain }
    let i := sampleGroupGrant "2.9"
    ∃ c t, i.AsksFor c ∧ c.groupNumber? = some 2 ∧
      (s.run (site.respond i)).1.Gives
        (answerTo (.ofUser? (s.bearer? (.text "root"))) t c) := by
  intro s site i
  have hsupplies := sampleGroupGrant_supplies "2.9"
    (d := .finite false 6530219459687219 (-51)) (by decide +kernel)
  obtain ⟨t, hsession⟩ := sampleGroupGrant_session "2.9"
  have hdenotes : (Value.number (.finite false 6530219459687219 (-51))).Denotes 2 := by
    have htwo : towardZero (6530219459687219 * 2 ^ (-51 : Int)) = 2 := by decide +kernel
    rw [← htwo]
    exact .number rfl
  obtain ⟨-, hresponds⟩ := integer_read_or_refused
    [("group_id", .number (.finite false 6530219459687219 (-51)))] "group_id" s t site i
    (.changeGroup .add) (.ofUser? (s.bearer? (.text "root")))
  obtain ⟨c, hasks, hnumber, hgives⟩ := (hresponds hsupplies hsession).2.1 2 hdenotes
  exact ⟨c, t, hasks, hnumber, hgives⟩

/-- An infinite number is not refused, and the client learns nothing of it. -/
theorem integer_unrefused :
    let s := Store.sample default
    let site : Site := { tokens := .plain }
    let i := sampleGroupGrant "Infinity"
    (i.Supplies (.changeGroup .add) "group_id" (.number (.infinite false)) ∧
      (s.run (site.respond i)).1.status = 500) ∧
    ¬ ∀ fields name, (∃ n?, optionalInteger fields name = .ok n?) ∨
      ∃ r, optionalInteger fields name = .error (.refused r) := by
  intro s site i
  have hsupplies := sampleGroupGrant_supplies "Infinity" (d := .infinite false)
    (by decide +kernel)
  obtain ⟨t, hsession⟩ := sampleGroupGrant_session "Infinity"
  have hgives : (s.run (site.respond i)).1.Gives (Failure.fault .infiniteInteger).answer := by
    refine respond_gives_of_fault hsupplies (fun fields hv => ?_) hsession
    exact optionalInteger_of_isInfinite ⟨false, hv⟩
  refine ⟨⟨hsupplies, hgives.1⟩, fun hall => ?_⟩
  have hfault : optionalInteger [("group_id", .number (.infinite false))] "group_id" =
      .error .infiniteInteger := optionalInteger_of_isInfinite ⟨false, rfl⟩
  rcases hall _ _ with ⟨n?, hread⟩ | ⟨r, hrefused⟩
  · exact nomatch hfault.symm.trans hread
  · exact nomatch hfault.symm.trans hrefused

end Http

end Entitlements
