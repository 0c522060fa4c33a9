import Entitlements.Http.Site
import Entitlements.Proofs.Program.Ensures

/-!
# Answering a request

A request to the site runs at most one command, after its credentials were looked at and its path,
its method and its body were read. What a setting ensures of the requests of programs therefore
holds of everything that the site does as soon as it holds of looking at the credentials and of the
commands that the request can ask for. A response that tells of no failure was given after such a
command was successful, or without any command.
-/

namespace Entitlements.Http

variable {γ : Type} {E : Setting γ} {site : Site} {i : Incoming} {start failed done : γ → Prop}
  {g : γ}

/-- The request asks for the command. -/
def Incoming.AsksFor (i : Incoming) (c : Service.Command) : Prop :=
  ∃ e, Endpoint.ofPath? i.route = some e ∧ i.method = e.method ∧ e.command i = .ok (some c)

/-- The site itself says in the log that something failed. -/
def Complains : Event → Prop
  | .unhandledFailure .. | .readinessCheckFailed _ => True
  | _ => False

/-- What answering a request comes down to in a setting: a command is run from the state `start`,
it fails in the state `failed` and succeeds in the state `done`. -/
structure Handles (E : Setting γ) (site : Site) (i : Incoming) (start failed done : γ → Prop) :
    Prop where
  /-- Looking at the credentials is not more than getting ready for a command. -/
  authenticate : ∀ g, start g →
    Work.Ensures E (Auth.authenticate site.tokens (i.header "Authorization")) g (fun _ => start)
      fun _ => failed
  /-- The commands that the request can ask for. -/
  run : ∀ c σ g, i.AsksFor c → start g →
    Acting.Ensures E c.run σ g (fun _ _ => done) fun _ _ => failed
  /-- Nothing has to be done to fail. -/
  failed_of_start : ∀ g, start g → failed g
  /-- A failure can be said in the log. -/
  log : ∀ e g, Complains e → failed g →
    E.permits g (.log e) ∧ ∀ a h, E.answers g (.log e) a h → failed h
  /-- It can be asked whether the store answers. -/
  probe : ∀ g, start g → E.permits g .probe ∧ ∀ a h, E.answers g .probe a h → failed h

/-- How a request is answered: in a state of failure, or else with success. -/
def Answered (failed done : γ → Prop) (r : Response) (g : γ) : Prop :=
  failed g ∨ done g ∧ r.status < 400

/-- The answer to what a command answers tells of success. -/
theorem replyResponse_status_lt (reply : Service.Reply) : (replyResponse reply).status < 400 := by
  have h200 : (200 : Nat) < 400 := by decide
  have h204 : (204 : Nat) < 400 := by decide
  cases reply with
  | outcome | done | nothing => exact h204
  | template | templateGroups | groups | projects => exact h200

/-- A text without escapes is read as it is. -/
theorem decodePercent_of_notMem {s : String} (h : '%' ∉ s.toList) : decodePercent s = s := by
  have hcontains : s.contains '%' = false := by
    rw [String.contains_char_eq, decide_eq_false h]
  rw [decodePercent, hcontains, if_neg Bool.false_ne_true]

/-- So is one in a query, if no sign in it stands for a space. -/
theorem decodePart_of_notMem {s : String} (hplus : '+' ∉ s.toList) (hpercent : '%' ∉ s.toList) :
    decodePart s = s := by
  have hmap : s.toList.map (fun c => if c == '+' then ' ' else c) = s.toList := by
    refine (List.map_congr_left fun c hc => ?_).trans (List.map_id' _)
    have hne : c ≠ '+' := fun heq => hplus (heq ▸ hc)
    exact if_neg (mt beq_iff_eq.mp hne)
  have hself : plusToSpace s = s := by
    apply String.toList_inj.mp
    rw [plusToSpace, String.toList_map, hmap]
  rw [decodePart, hself, decodePercent_of_notMem hpercent]

theorem route_of_notMem (h : '%' ∉ i.path.toList) : i.route = i.path := decodePercent_of_notMem h

@[simp] theorem status_shareWith (origins : List String) (i : Incoming) (r : Response) :
    (shareWith origins i r).status = r.status := by
  unfold shareWith
  split <;> rfl

@[simp] theorem status_withoutBody (r : Response) : r.withoutBody.status = r.status := rfl

namespace Handles

variable (h : Handles E site i start failed done)
include h

theorem failureResponse_ensures (failure : Failure) (hg : failed g) :
    (failureResponse i failure).Ensures E g fun _ => failed := by
  cases failure with
  | problem p => exact hg
  | fault f =>
    unfold failureResponse
    dsimp only
    split
    next => exact hg
    next =>
      rw [Program.ensures_bind, Program.ensures_request]
      exact h.log _ g trivial hg

theorem reportReadiness_ensures (hg : start g) :
    (reportReadiness site).Ensures E g fun _ => failed := by
  unfold reportReadiness
  split
  · rw [Program.ensures_bind, Program.ensures_request]
    obtain ⟨hpermits, hanswers⟩ := h.probe g hg
    refine ⟨hpermits, fun a g' hg' => ?_⟩
    cases a with
    | ok => exact hanswers _ g' hg'
    | error error =>
      dsimp only
      rw [Program.ensures_bind, Program.ensures_request]
      exact h.log _ g' trivial (hanswers _ g' hg')
  · exact h.failed_of_start g hg

theorem serve_ensures {e : Endpoint} (hpath : Endpoint.ofPath? i.route = some e)
    (hmethod : i.method = e.method) (session? : Option Session) (hg : start g) :
    (e.serve i session?).Ensures E g fun
      | .ok r, g => Answered failed done r g
      | .error _, g => failed g := by
  have hfailed := h.failed_of_start g hg
  unfold Endpoint.serve
  cases session? with
  | none => exact hfailed
  | some σ =>
    cases hc : e.command i with
    | error failure => exact hfailed
    | ok c? =>
      cases c? with
      | none => exact .inl hfailed
      | some c =>
        dsimp only
        rw [Program.ensures_bind]
        refine Program.Ensures.mono (h.run c σ g ⟨e, hpath, hmethod, hc⟩ hg) ?_
        rintro ⟨f | reply, τ⟩ g' hg'
        · exact hg'
        · exact .inr ⟨hg', replyResponse_status_lt reply⟩

theorem endpoint_ensures {e : Endpoint} (hpath : Endpoint.ofPath? i.route = some e)
    (session? : Option Session) (hg : start g) :
    (e.respond site i session?).Ensures E g fun
      | .ok r, g => Answered failed done r g
      | .error _, g => failed g := by
  have hfailed := h.failed_of_start g hg
  unfold Endpoint.respond
  split
  next hm =>
    have hmethod : i.method = e.method := beq_iff_eq.mp hm
    split
    next => exact .inl hfailed
    next =>
      rw [Program.ensures_bind]
      exact (h.reportReadiness_ensures hg).mono fun _ _ hf => .inl hf
    next => exact h.serve_ensures hpath hmethod session? hg
  next =>
    split
    next => exact .inl hfailed
    next => split <;> exact hfailed

theorem route_ensures (hg : start g) :
    (route site i).Ensures E g fun
      | .ok r, g => Answered failed done r g
      | .error _, g => failed g := by
  unfold route
  rw [Program.ensures_bind]
  refine Program.Ensures.mono (h.authenticate g hg) ?_
  rintro (f | session?) g' hg'
  · exact hg'
  · dsimp only
    cases hpath : Endpoint.ofPath? i.route with
    | none => exact h.failed_of_start g' hg'
    | some e => exact h.endpoint_ensures hpath session? hg'

/-- What is ensured of credentials and commands is ensured of all that the site does. -/
theorem respond_ensures (hg : start g) :
    (site.respond i).Ensures E g (Answered failed done) := by
  unfold Site.respond
  dsimp only
  split
  next => exact (Program.ensures_done _ _ _).mpr (.inl (h.failed_of_start g hg))
  next =>
    rw [Program.ensures_bind]
    refine (h.route_ensures hg).mono ?_
    rintro (failure | r) g' hg'
    · dsimp only
      rw [Program.ensures_bind]
      refine (h.failureResponse_ensures failure hg').mono fun r g'' hf => ?_
      exact (Program.ensures_done _ _ _).mpr (.inl hf)
    · -- headers for other origins and leaving out the body keep the status
      have hfinish {r' : Response} (hstatus : r'.status = r.status) :
          Answered failed done r' g' := by
        unfold Answered
        rw [hstatus]
        exact hg'
      refine (Program.ensures_done _ _ _).mpr (hfinish ?_)
      cases site.origins? <;> split <;> simp

end Handles

end Entitlements.Http
