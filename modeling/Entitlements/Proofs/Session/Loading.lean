import Entitlements.Proofs.Program.Preserves
import Entitlements.Proofs.Session.Upkeep
import Entitlements.Sql.Database

/-!
# Loading the permissions of a caller

What a session goes by is loaded when it is first asked for: the permissions of its caller, which
are kept as soon as they have been read, and the default organization, which is kept once the unit
of work that read both has been completed.

A question that fails leaves the session as it was, so that the next check loads again. A unit of
work that cannot be completed comes between the two: the session has permissions and no default
organization. It never loads again, and it refuses its caller whatever is asked of the default
organization. In no other way does a session come to have one without the other.
-/

namespace Entitlements

variable {α γ : Type} {P : Fault → Prop}

/-- Everything may be asked and anything answered, but only some faults keep a unit of work from
being completed. -/
def Setting.failing (P : Fault → Prop) : Setting Unit where
  permits _ _ := True
  answers
    | _, .complete, a, _ => ∀ f, a = .error f → P f
    | _, _, _, _ => True

/-- Whoever answers what a session requests, as they are at the time. -/
structure Backend where
  /-- What they are like. -/
  {State : Type}
  /-- How they answer. -/
  serve : (r : Request) → State → r.Answer × State
  /-- What they are like at the time. -/
  state : State

namespace Backend

/-- The fault can keep a unit of work from being completed. -/
def FailsBy (b : Backend) (f : Fault) : Prop := ∃ s, (b.serve .complete s).1 = .error f

/-- Act for a session. -/
def run (b : Backend) (a : Acting α) (σ : Session) : Except Fault α × Session :=
  ((a.run.run σ).run b.serve b.state).1

/-- What acting ensures is true of how it ends. -/
theorem run_of_ensures {b : Backend} {a : Acting α} {σ : Session}
    {ok : α → Session → Unit → Prop} {err : Fault → Session → Unit → Prop}
    (hb : ∀ f, b.FailsBy f → P f) (h : Acting.Ensures (.failing P) a σ () ok err) :
    (∃ x, (b.run a σ).1 = .ok x ∧ ok x (b.run a σ).2 ()) ∨
      ∃ f, (b.run a σ).1 = .error f ∧ err f (b.run a σ).2 () := by
  have hanswers (r : Request) (s : b.State) :
      (Setting.failing P).answers () r (b.serve r s).1 () := by
    cases r with
    | complete => exact fun f hf => hb f ⟨s, hf⟩
    | _ => trivial
  obtain ⟨⟨⟩, hend, -⟩ := Program.Ensures.of_run (T := fun _ _ => True)
    (fun _ s r _ _ => ⟨(), hanswers r s, trivial⟩) h (s := b.state) trivial
  unfold run
  revert hend
  generalize ((a.run.run σ).run b.serve b.state).1 = left
  obtain ⟨f | x, τ⟩ := left
  · exact fun hend => .inr ⟨f, rfl, hend⟩
  · exact fun hend => .inl ⟨x, rfl, hend⟩

end Backend

namespace Session

variable {σ : Session} {b : Backend} {K : Backend → Prop}

/-- The session has the permissions of its caller exactly if it has the default organization. -/
def IsWhole (σ : Session) : Prop := σ.snapshot? = none ↔ σ.defaultOrganization? = none

/-- The session has the permissions of its caller, but no default organization. -/
def IsHalf (σ : Session) : Prop := (∃ s, σ.snapshot? = some s) ∧ σ.defaultOrganization? = none

/-- Loading gives the session both, or it fails and gives it nothing, unless the unit of work was
not completed after the permissions had been read. -/
theorem load_ensures (h : σ.snapshot? = none) :
    Acting.Ensures (.failing P) load σ ()
      (fun s τ _ => ∃ uuid, τ = { σ with snapshot? := some s, defaultOrganization? := some uuid })
      fun f τ _ => τ = σ ∨ P f ∧ ∃ s, τ = { σ with snapshot? := some s } := by
  unfold load
  rw [Acting.ensures_bind, Acting.ensures_get, h]
  dsimp only
  rw [Acting.ensures_bind, Acting.ensures_transaction]
  refine ⟨trivial, fun _ _ _ => ?_⟩
  rw [Acting.ensures_bind, Acting.ensures_query]
  refine ⟨trivial, ?_⟩
  rintro (f | o) _ -
  · exact ⟨trivial, fun _ _ _ => .inl rfl⟩
  dsimp only
  rw [Acting.ensures_bind, Acting.ensures_query]
  refine ⟨trivial, ?_⟩
  rintro (f | s) _ -
  · exact ⟨trivial, fun _ _ _ => .inl rfl⟩
  refine ⟨trivial, ?_⟩
  rintro (f | ⟨⟩) _ hcomplete
  · exact .inr ⟨hcomplete f rfl, s, rfl⟩
  · exact ⟨o.uuid, rfl⟩

/-- A session that has permissions goes by them. -/
theorem load_of_snapshot? {E : Setting γ} {s : Snapshot} {g : γ}
    {ok : Snapshot → Session → γ → Prop} {err : Fault → Session → γ → Prop}
    (h : σ.snapshot? = some s) (hok : ok s σ g) : Acting.Ensures E load σ g ok err := by
  unfold load
  rw [Acting.ensures_bind, Acting.ensures_get, h]
  exact hok

/-- Looking up leaves the session as it is, however it ends. -/
theorem lookup_keeps (q : Query) (J : Session → Prop) :
    Acting.Keeps (.failing P) (fun σ _ => J σ) (transaction (Query.ask q)) := by
  intro σ g h
  rw [Acting.ensures_transaction]
  refine ⟨trivial, fun _ _ _ => ?_⟩
  rw [Acting.ensures_query]
  refine ⟨trivial, ?_⟩
  rintro (f | a) _ -
  · exact ⟨trivial, fun _ _ _ => h⟩
  · refine ⟨trivial, ?_⟩
    rintro (f | ⟨⟩) _ -
    · exact h
    · exact h

/-- A session is whole, or it is half because a unit of work was not completed. -/
theorem upholds_isWhole_or_isHalf :
    Upholds (.failing P) fun σ _ => σ.IsWhole ∨ σ.IsHalf ∧ ∃ f, P f where
  load := by
    intro σ g h
    cases hs : σ.snapshot? with
    | some s => exact load_of_snapshot? hs h
    | none =>
      refine (load_ensures hs).mono ?_ ?_
      · rintro s _ _ ⟨uuid, rfl⟩
        exact .inl (iff_of_false (Option.some_ne_none s) (Option.some_ne_none uuid))
      · rintro f _ _ (rfl | ⟨hf, s, rfl⟩)
        · exact h
        · have hnone : σ.defaultOrganization? = none := by
            rcases h with hwhole | ⟨⟨-, hnone⟩, -⟩
            · exact hwhole.mp hs
            · exact hnone
          exact .inr ⟨⟨⟨s, rfl⟩, hnone⟩, f, hf⟩
  componentByKey _ := lookup_keeps _ _
  componentByUuid _ := lookup_keeps _ _
  remember _ _ _ h := h

/-- A session that is half stays so. -/
theorem upholds_isHalf : Upholds (.failing P) fun σ _ => σ.IsHalf where
  load := by
    intro σ g h
    obtain ⟨s, hs⟩ := h.1
    exact load_of_snapshot? hs h
  componentByKey _ := lookup_keeps _ _
  componentByUuid _ := lookup_keeps _ _
  remember _ _ _ h := h

/-- Loading that fails leaves the session as it was, unless the unit of work was not completed
after the permissions had been read. -/
theorem run_load_of_error {f : Fault} (h : σ.snapshot? = none) (hf : (b.run load σ).1 = .error f) :
    (b.run load σ).2 = σ ∨
      b.FailsBy f ∧ ∃ s, (b.run load σ).2 = { σ with snapshot? := some s } := by
  rcases b.run_of_ensures (fun _ => id) (load_ensures h) with ⟨s, hs, -⟩ | ⟨f', hf', hleft⟩
  · exact nomatch hs.symm.trans hf
  · obtain rfl : f' = f := Except.error.inj (hf'.symm.trans hf)
    exact hleft

/-- The sessions that come about: one begins with nothing, and is asked one thing after the other,
which somebody of the kind answers every time. -/
inductive Reached (K : Backend → Prop) : Session → Prop
  | opened (u? : Option User) : Reached K (ofUser? u?)
  | asked {σ : Session} {b : Backend} (probe : Probe) (h : Reached K σ) (hb : K b) :
    Reached K (b.run probe.tell σ).2

/-- A session has the permissions of its caller exactly if it has the default organization, unless
somebody did not complete a unit of work. -/
theorem Reached.isWhole_or_isHalf (h : Reached K σ) :
    σ.IsWhole ∨ σ.IsHalf ∧ ∃ f b, K b ∧ b.FailsBy f := by
  induction h with
  | opened u? => exact .inl (iff_of_true rfl rfl)
  | asked probe _ hb ih =>
    have hends := (probe.tell_keeps upholds_isWhole_or_isHalf) _ () ih
    rcases Backend.run_of_ensures (fun f hf => ⟨_, hb, hf⟩) hends with
      ⟨_, -, hleft⟩ | ⟨_, -, hleft⟩
    · exact hleft
    · exact hleft

/-- Where units of work are always completed, a session has the permissions of its caller exactly
if it has the default organization, whatever else fails. -/
theorem Reached.isWhole (h : Reached K σ) (hK : ∀ b f, K b → ¬ b.FailsBy f) : σ.IsWhole := by
  rcases h.isWhole_or_isHalf with hwhole | ⟨-, f, b, hb, hf⟩
  · exact hwhole
  · exact absurd hf (hK b f hb)

/-- Where units of work are always completed, a permission is never judged on a default organization
that the session does not have. -/
theorem Reached.hasPermission (h : Reached K σ) (hK : ∀ b f, K b → ¬ b.FailsBy f) (hb : K b)
    {p : Permission} {allowed : Bool} (ha : (b.run (hasPermission p none) σ).1 = .ok allowed) :
    ∃ s uuid, (b.run (hasPermission p none) σ).2.snapshot? = some s ∧
      (b.run (hasPermission p none) σ).2.defaultOrganization? = some uuid ∧
      allowed = s.allowsOrganization p uuid := by
  have hends : Acting.Ensures (.failing fun _ => False) (Session.hasPermission p none) σ ()
      (fun allowed τ _ => ∃ s uuid, τ.snapshot? = some s ∧ τ.defaultOrganization? = some uuid ∧
        allowed = s.allowsOrganization p uuid) fun _ _ _ => True := by
    unfold Session.hasPermission
    rw [Acting.ensures_bind]
    cases hs : σ.snapshot? with
    | none =>
      refine (load_ensures hs).mono ?_ fun _ _ _ _ => trivial
      rintro s _ _ ⟨uuid, rfl⟩
      exact ⟨s, uuid, rfl, rfl, rfl⟩
    | some s =>
      obtain ⟨uuid, huuid⟩ : ∃ uuid, σ.defaultOrganization? = some uuid := by
        refine Option.ne_none_iff_exists'.mp fun hnone => ?_
        exact absurd (hs.symm.trans ((h.isWhole hK).mpr hnone)) (Option.some_ne_none s)
      refine load_of_snapshot? hs ?_
      rw [Acting.ensures_bind, Acting.ensures_get, huuid]
      exact ⟨s, uuid, hs, huuid, rfl⟩
  rcases b.run_of_ensures (fun f => hK b f hb) hends with ⟨_, hok, hleft⟩ | ⟨_, herror, -⟩
  · obtain rfl := Except.ok.inj (hok.symm.trans ha)
    exact hleft
  · exact nomatch herror.symm.trans ha

namespace IsHalf

/-- A session that is half stays so, whatever it is asked and whoever answers. -/
theorem after (h : σ.IsHalf) (b : Backend) (probe : Probe) : (b.run probe.tell σ).2.IsHalf := by
  have hends := (probe.tell_keeps (upholds_isHalf (P := fun _ => True))) σ () h
  rcases b.run_of_ensures (fun _ _ => trivial) hends with ⟨_, -, hleft⟩ | ⟨_, -, hleft⟩
  · exact hleft
  · exact hleft

/-- A session that is half says that its caller has nothing on the default organization, without
asking anybody. -/
theorem hasPermission (h : σ.IsHalf) (p : Permission) :
    (Session.hasPermission p none).run.run σ = .done (.ok false, σ) := by
  obtain ⟨⟨s, hs⟩, hnone⟩ := h
  obtain ⟨principal, snapshot?, defaultOrganization?, projects⟩ := σ
  subst hs hnone
  rfl

end IsHalf

/-- Sessions that are half do come about: everything was read, but the database did not make it
permanent. The caller is then denied what a new session allows. -/
theorem exists_isHalf_of_failed_commit : ∃ broken mended : Backend, ∃ f p,
    let σ := (broken.run (Session.hasPermission p none) (ofUser? none)).2
    (broken.run (Session.hasPermission p none) (ofUser? none)).1 = .error f ∧ σ.IsHalf ∧
      (mended.run (Session.hasPermission p none) σ).1 = .ok false ∧
      (mended.run (Session.hasPermission p none) (ofUser? none)).1 = .ok true := by
  let d : Sql.Database := {
    responses := [
      .table ⟨[[.text "org-default", .text "default-organization", .text "Default"]], 1⟩,
      .table ⟨[[.text "org-default", .null, .text "scan"]], 1⟩]
    around := { clock := default } }
  let broken : Sql.Database := { d with commitFailure? := some "connection lost" }
  refine ⟨⟨Sql.Database.serve, broken⟩, ⟨Sql.Database.serve, d⟩,
    .statementFailed "connection lost", "scan", ?_, ?_, ?_, ?_⟩
  · rfl
  · exact ⟨⟨_, rfl⟩, rfl⟩
  · rfl
  · rfl

end Session

end Entitlements
