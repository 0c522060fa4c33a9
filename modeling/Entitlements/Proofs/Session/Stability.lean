import Entitlements.Proofs.Session.Turns
import Mathlib.Data.List.Forall2

/-!
# Answers that stay the same

The first turn of a session that needs the permissions of the caller reads the default organization
and the grants, and the session goes by these from then on. A project is what it was when the
session was asked about it first. Components are looked up whenever they are asked about, and lead
to projects. Nothing else that happens to the store shows in the answers of the session.
-/

namespace Entitlements

/-- What the answers of a session go by. -/
structure Ground where
  /-- Who asks, a visitor where there is none. -/
  user? : Option User
  /-- The default organization. -/
  organization : Organization
  /-- The store that the grants and the memberships are taken from. -/
  store : Store

namespace Inquiry

/-- How many questions look up the component of an inquiry. -/
def lookups : Inquiry → Nat
  | onComponent .. | onComponentUuid .. => 1
  | _ => 0

/-- The project that an inquiry leads to, by the components in the store. -/
def project? (s : Store) : Inquiry → Option String
  | onOrganization .. => none
  | onProject _ uuid => some uuid
  | onComponent _ key => (s.components.find? (·.key == key)).map (·.project)
  | onComponentUuid _ uuid => (s.components.find? (·.uuid == uuid)).map (·.project)

/-- The project that an inquiry leads to and the scope that it is found to be. So many questions are
asked between looking up a component and resolving its project. -/
def resolution? (found : Nat → Store) (asked : Nat) (i : Inquiry) :
    Option (String × Option Scope) :=
  (i.project? (found 0)).map fun x => (x, (found (i.lookups + asked)).projectScope? x)

/-- The scope that the project of an inquiry has been found to be first. -/
def scope? (found : Nat → Store) (seen : List (String × Option Scope)) (i : Inquiry) :
    Option Scope :=
  (i.project? (found 0)).bind fun x => (seen.lookup x).join

/-- What the grants say to an inquiry about the default organization or another one, or about a
project of this scope. -/
def GrantedBy (g : Ground) (scope? : Option Scope) : Inquiry → Prop
  | onOrganization p uuid? =>
    (onOrganization p uuid?).Granted g.store g.organization (g.user?.map (·.id))
  | onProject p _ | onComponent p _ | onComponentUuid p _ =>
    ∃ scope, scope? = some scope ∧ g.store.Supported (g.user?.map (·.id)) p scope

end Inquiry

/-- The caller passes, by what the grants say, or by the account itself. -/
def Check.PassesBy (g : Ground) (scope? : Option Scope) : Check → Prop
  | permission i => i.GrantedBy g scope?
  | c => c.Passes g.store g.organization g.user?

namespace Probe

/-- The inquiry to be made. -/
def inquiry? : Probe → Option Inquiry
  | ask i | check (.permission i) => some i
  | check _ => none

/-- How many questions look up the component that a probe is about. -/
def lookups (probe : Probe) : Nat := probe.inquiry?.elim 0 Inquiry.lookups

/-- The project that a probe is about and the scope that it is found to be. -/
def resolution? (found : Nat → Store) (asked : Nat) (probe : Probe) :
    Option (String × Option Scope) :=
  probe.inquiry?.bind (Inquiry.resolution? found asked)

/-- The scope that the project of a probe has been found to be first. -/
def scope? (found : Nat → Store) (seen : List (String × Option Scope)) (probe : Probe) :
    Option Scope :=
  probe.inquiry?.bind (Inquiry.scope? found seen)

/-- The answer is the one that the grants give. -/
def AnsweredBy (g : Ground) (scope? : Option Scope) : Probe → Except Fault Bool → Prop
  | ask i, answer => ∃ b, answer = .ok b ∧ (b = true ↔ i.GrantedBy g scope?)
  | check c, answer =>
    answer = .ok true ∧ c.PassesBy g scope? ∨
      answer = .error (.refused c.refusal) ∧ ¬ c.PassesBy g scope?

/-- The grants give one answer. -/
theorem AnsweredBy.unique {g : Ground} {scope? : Option Scope} {probe : Probe}
    {answer answer' : Except Fault Bool} (h : probe.AnsweredBy g scope? answer)
    (h' : probe.AnsweredBy g scope? answer') : answer = answer' := by
  cases probe with
  | ask i =>
    obtain ⟨b, rfl, hb⟩ := h
    obtain ⟨b', rfl, hb'⟩ := h'
    rw [Bool.eq_iff_iff.mpr (hb.trans hb'.symm)]
  | check c =>
    rcases h with ⟨rfl, hpasses⟩ | ⟨rfl, hrefused⟩
    · rcases h' with ⟨rfl, -⟩ | ⟨-, hrefused⟩
      · rfl
      · exact absurd hpasses hrefused
    · rcases h' with ⟨-, hpasses⟩ | ⟨rfl, -⟩
      · exact absurd hpasses hrefused
      · rfl

end Probe

namespace Turn

/-- The project that a turn is about and the scope that it is found to be. -/
def resolution? (turn : Turn) (asked : Nat) : Option (String × Option Scope) :=
  turn.probe.resolution? turn.found asked

/-- The scope that the project of a turn has been found to be first. -/
def scope? (turn : Turn) (seen : List (String × Option Scope)) : Option Scope :=
  turn.probe.scope? turn.found seen

/-- The turns ask the same, and find the same components. -/
structure Alike (turn turn' : Turn) : Prop where
  probe : turn.probe = turn'.probe
  components : ∀ n, (turn.found n).components = (turn'.found n).components

theorem Alike.resolution?_eq {turn turn' : Turn} (h : turn.Alike turn') (asked : Nat) :
    turn.resolution? asked = turn'.resolution? asked := by
  have hinquiry (i : Inquiry) :
      i.resolution? turn.found asked = i.resolution? turn'.found asked := by
    cases i <;> simp only [Inquiry.resolution?, Inquiry.project?, Store.projectScope?, h.components]
  rw [resolution?, resolution?, Probe.resolution?, Probe.resolution?, h.probe, funext hinquiry]

theorem Alike.scope?_eq {turn turn' : Turn} (h : turn.Alike turn')
    (seen : List (String × Option Scope)) : turn.scope? seen = turn'.scope? seen := by
  have hinquiry (i : Inquiry) : i.scope? turn.found seen = i.scope? turn'.found seen := by
    cases i <;> simp only [Inquiry.scope?, Inquiry.project?, h.components]
  rw [scope?, scope?, Probe.scope?, Probe.scope?, h.probe, funext hinquiry]

/-- What is found out later does not change what has been found out. -/
theorem scope?_append (turn : Turn) (asked : Nat) (seen more : List (String × Option Scope)) :
    turn.scope? (seen ++ (turn.resolution? asked).toList ++ more) =
      turn.scope? (seen ++ (turn.resolution? asked).toList) := by
  unfold scope? resolution? Probe.scope? Probe.resolution? Inquiry.scope? Inquiry.resolution?
  cases turn.probe.inquiry? with
  | none => rfl
  | some i =>
    simp only [Option.bind_some]
    cases i.project? (turn.found 0) with
    | none => rfl
    | some x => simp [List.lookup_append]

end Turn

namespace Session

/-- The session goes by the ground, and by what it has found out about projects. -/
structure Settled (g : Ground) (seen : List (String × Option Scope)) (σ : Session) : Prop where
  principal : σ.principal = .ofUser? g.user?
  snapshot? : σ.snapshot? = some (g.store.snapshot (g.user?.map (·.id)))
  defaultOrganization? : σ.defaultOrganization? = some g.organization.uuid
  lookup : ∀ x, σ.projects.lookup x = seen.lookup x

/-- What a session comes to go by as soon as it needs the permissions of its caller: a session that
has settled asks nothing for it, and one that has been asked nothing yet asks two questions. -/
inductive Settles (u? : Option User) (found : Nat → Store) (n : Nat) :
    Session → Store → Except Fault Organization → List (String × Option Scope) → Nat → Prop
  | held {σ : Session} {s : Store} {d : Organization} {seen : List (String × Option Scope)}
      (h : Settled ⟨u?, d, s⟩ seen σ) : Settles u? found n σ s (.ok d) seen 0
  | fresh : Settles u? found n (ofUser? u?) (found (n + 1)) (found n).defaultOrganization [] 2

/-- A turn leaves a session settled, or as it was where it was asked about no project or there was
no default organization. -/
def Left (u? : Option User) (s : Store) (o : Except Fault Organization)
    (seen seen' : List (String × Option Scope)) (σ τ : Session) : Prop :=
  (∃ d, o = .ok d ∧ Settled ⟨u?, d, s⟩ seen' τ) ∨ τ = σ ∧ (seen' = seen ∨ ∃ f, o = .error f)

section

variable {u? : Option User} {found : Nat → Store} {n asked : Nat} {σ : Session} {s : Store}
  {o : Except Fault Organization} {seen : List (String × Option Scope)} {g : Ground}
  {err : Fault → Session → Nat → Prop}

theorem Settles.load_ensures (h : Settles u? found n σ s o seen asked)
    {ok : Snapshot → Session → Nat → Prop}
    (hok : ∀ d τ, o = .ok d → Settled ⟨u?, d, s⟩ seen τ →
      ok (s.snapshot (u?.map (·.id))) τ (n + asked))
    (herr : ∀ f m, o = .error f → err f σ m) :
    Acting.Ensures (.serving (Store.serveEach found)) load σ n ok err := by
  unfold load
  rw [Acting.ensures_bind, Acting.ensures_get]
  cases h with
  | @held _ _ d _ h =>
    rw [h.snapshot?]
    exact hok d σ rfl h
  | fresh =>
    have hanswer : ((found n).answer .defaultOrganization).1 = (found n).defaultOrganization := rfl
    dsimp only [ofUser?]
    rw [Acting.ensures_bind, Acting.ensures_each_transaction, Acting.ensures_bind,
      Acting.ensures_each_query, hanswer, Principal.id?_ofUser?]
    cases hd : (found n).defaultOrganization with
    | error f => exact herr f _ hd
    | ok d =>
      dsimp only
      rw [Acting.ensures_bind, Acting.ensures_each_query]
      exact hok d _ hd ⟨rfl, rfl, rfl, fun _ => rfl⟩

theorem lookup_append_singleton (x y : String) (scope? : Option Scope) :
    (seen ++ [(x, scope?)]).lookup y =
      (seen.lookup y).or (if y = x then some scope? else none) := by
  rw [List.lookup_append, List.lookup_cons]
  by_cases hy : y = x
  · simp [hy]
  · simp [beq_false_of_ne hy, hy]

theorem Settled.resolveProject_ensures (h : Settled g seen σ) (project : String)
    {ok : Option Scope → Session → Nat → Prop}
    (hok : ∀ τ m, Settled g (seen ++ [(project, (found n).projectScope? project)]) τ →
      ok ((seen ++ [(project, (found n).projectScope? project)]).lookup project).join τ m) :
    Acting.Ensures (.serving (Store.serveEach found)) (resolveProject project) σ n ok err := by
  unfold resolveProject
  rw [Acting.ensures_bind, Acting.ensures_get, h.lookup]
  cases hlookup : seen.lookup project with
  | some scope? =>
    have hseen (x : String) :
        (seen ++ [(project, (found n).projectScope? project)]).lookup x = seen.lookup x := by
      rw [lookup_append_singleton]
      by_cases hx : x = project
      · rw [hx, hlookup, Option.some_or]
      · rw [if_neg hx, Option.or_none]
    have hend := hok σ n
      ⟨h.principal, h.snapshot?, h.defaultOrganization?, fun x => (h.lookup x).trans (hseen x).symm⟩
    rw [hseen, hlookup] at hend
    exact hend
  | none =>
    have hprojects (x : String) :
        ((project, (found n).projectScope? project) :: σ.projects).lookup x =
          (seen ++ [(project, (found n).projectScope? project)]).lookup x := by
      rw [lookup_append_singleton, List.lookup_cons, h.lookup]
      by_cases hx : x = project
      · simp [hx, hlookup]
      · simp [beq_false_of_ne hx, hx]
    dsimp only
    rw [Acting.ensures_bind, Acting.ensures_each_transaction, Acting.ensures_each_query]
    have hend := hok
      { σ with projects := (project, (found n).projectScope? project) :: σ.projects } (n + 1)
      ⟨h.principal, h.snapshot?, h.defaultOrganization?, hprojects⟩
    rw [← hprojects, List.lookup_cons_self] at hend
    exact hend

theorem Settles.hasPermission_ensures (h : Settles u? found n σ s o seen asked) (p : Permission)
    (uuid? : Option String) {ok : Bool → Session → Nat → Prop}
    (hok : ∀ d b τ m, o = .ok d → (b = true ↔ s.Supported (u?.map (·.id)) p
        (.organization ((given? uuid?).getD d.uuid))) → Settled ⟨u?, d, s⟩ seen τ → ok b τ m)
    (herr : ∀ f m, o = .error f → err f σ m) :
    Acting.Ensures (.serving (Store.serveEach found)) (hasPermission p uuid?) σ n ok err := by
  unfold hasPermission
  rw [Acting.ensures_bind]
  refine h.load_ensures (fun d τ hd hτ => ?_) herr
  rw [Acting.ensures_bind, Acting.ensures_get, Acting.ensures_pure]
  refine hok d _ τ _ hd ?_ hτ
  have hmeant : (uuid?.filter (!·.isEmpty)).or τ.defaultOrganization? =
      some ((given? uuid?).getD d.uuid) := by
    rw [hτ.defaultOrganization?, ← given?]
    cases given? uuid? <;> rfl
  rw [hmeant, Option.any_some]
  show (s.snapshot _).allows p (.organization _) = true ↔ _
  exact Store.allows_snapshot_iff_supported

theorem allows?_snapshot_iff {user? : Option Int} {p : Permission} {scope? : Option Scope} :
    (s.snapshot user?).allows? p scope? = true ↔
      ∃ scope, scope? = some scope ∧ s.Supported user? p scope := by
  rw [Snapshot.allows?, Option.any_eq_true]
  exact exists_congr fun scope => and_congr_right fun _ => Store.allows_snapshot_iff_supported

theorem Settles.hasProjectPermission_ensures (h : Settles u? found n σ s o seen asked)
    (p : Permission) (project : String) {ok : Bool → Session → Nat → Prop}
    (hok : ∀ d b τ m, o = .ok d →
      (b = true ↔ ∃ scope,
        ((seen ++ [(project, (found (n + asked)).projectScope? project)]).lookup project).join =
          some scope ∧ s.Supported (u?.map (·.id)) p scope) →
      Settled ⟨u?, d, s⟩ (seen ++ [(project, (found (n + asked)).projectScope? project)]) τ →
      ok b τ m)
    (herr : ∀ f m, o = .error f → err f σ m) :
    Acting.Ensures (.serving (Store.serveEach found)) (hasProjectPermission p project) σ n ok
      err := by
  unfold hasProjectPermission
  rw [Acting.ensures_bind]
  refine h.load_ensures (fun d τ hd hτ => ?_) herr
  rw [Acting.ensures_bind]
  refine hτ.resolveProject_ensures project fun υ m hυ => ?_
  exact hok d _ υ m hd allows?_snapshot_iff hυ

/-- A session answers by what it goes by, and by what the project was found to be first. -/
theorem Settles.ask_ensures {i : Inquiry} (h : Settles u? found i.lookups σ s o seen asked)
    {ok : Bool → Session → Nat → Prop}
    (hok : ∀ b τ m,
      (∀ d, o = .ok d → (b = true ↔
        i.GrantedBy ⟨u?, d, s⟩ (i.scope? found (seen ++ (i.resolution? found asked).toList)))) →
      Left u? s o seen (seen ++ (i.resolution? found asked).toList) σ τ → ok b τ m)
    (herr : ∀ f m, o = .error f → err f σ m) :
    Acting.Ensures (.serving (Store.serveEach found)) i.ask σ 0 ok err := by
  have hcomponent (p : Permission) (c? : Option Component)
      (h : Settles u? found 1 σ s o seen asked) (hlookups : i.lookups = 1)
      (hproject : i.project? (found 0) = c?.map (·.project))
      (hgranted : ∀ g scope?, i.GrantedBy g scope? ↔
        ∃ scope, scope? = some scope ∧ g.store.Supported (g.user?.map (·.id)) p scope) :
      Acting.Ensures (.serving (Store.serveEach found)) (hasPermissionOn p c?) σ 1 ok err := by
    rw [Inquiry.scope?, Inquiry.resolution?, hproject, hlookups] at hok
    cases c? with
    | none =>
      refine hok false σ 1 (fun d _ => ?_) (.inr ⟨rfl, .inl (List.append_nil seen)⟩)
      simp [hgranted]
    | some c =>
      refine h.hasProjectPermission_ensures p c.project (fun d b τ m hd hb hτ => ?_) herr
      refine hok b τ m (fun d' _ => ?_) (.inl ⟨d, hd, hτ⟩)
      rw [hgranted]
      exact hb
  cases i with
  | onOrganization p uuid? =>
    refine h.hasPermission_ensures p uuid? (fun d b τ m hd hb hτ => ?_) herr
    refine hok b τ m (fun d' hd' => ?_) (.inl ⟨d, hd, ?_⟩)
    · obtain rfl : d' = d := Except.ok.inj (hd'.symm.trans hd)
      exact hb
    · rwa [Inquiry.resolution?, Inquiry.project?, Option.map_none, Option.toList_none,
        List.append_nil]
  | onProject p uuid =>
    refine h.hasProjectPermission_ensures p uuid (fun d b τ m hd hb hτ => ?_) herr
    exact hok b τ m (fun d' _ => hb) (.inl ⟨d, hd, hτ⟩)
  | onComponent p key =>
    show Acting.Ensures _ (hasComponentPermission p key) σ 0 ok err
    unfold hasComponentPermission
    rw [Acting.ensures_bind, Acting.ensures_each_transaction, Acting.ensures_each_query]
    exact hcomponent p _ h rfl rfl fun _ _ => Iff.rfl
  | onComponentUuid p uuid =>
    show Acting.Ensures _ (hasComponentUuidPermission p uuid) σ 0 ok err
    unfold hasComponentUuidPermission
    rw [Acting.ensures_bind, Acting.ensures_each_transaction, Acting.ensures_each_query]
    exact hcomponent p _ h rfl rfl fun _ _ => Iff.rfl

theorem Settles.principal (h : Settles u? found n σ s o seen asked) :
    σ.principal = .ofUser? u? := by
  cases h with
  | held h => exact h.principal
  | fresh => rfl

/-- A check passes by what the session goes by, and is refused elsewhere. -/
theorem Settles.check_ensures {c : Check}
    (h : Settles u? found (Probe.check c).lookups σ s o seen asked)
    {seen' : List (String × Option Scope)}
    (hseen : seen ++ ((Probe.check c).resolution? found asked).toList = seen')
    {ok : Unit → Session → Nat → Prop}
    (hok : ∀ τ m,
      (∀ d, o = .ok d → c.PassesBy ⟨u?, d, s⟩ ((Probe.check c).scope? found seen')) →
      Left u? s o seen seen' σ τ → ok () τ m)
    (hrefused : ∀ τ m,
      (∀ d, o = .ok d → ¬ c.PassesBy ⟨u?, d, s⟩ ((Probe.check c).scope? found seen')) →
      Left u? s o seen seen' σ τ → err (.refused c.refusal) τ m)
    (herr : ∀ f m, o = .error f → err f σ m) :
    Acting.Ensures (.serving (Store.serveEach found)) c.run σ 0 ok err := by
  -- every check comes down to a condition that is required in the end
  have hrequire {b : Bool} {τ : Session} {m : Nat}
      (hb : ∀ d, o = .ok d → (b = true ↔
        c.PassesBy ⟨u?, d, s⟩ ((Probe.check c).scope? found seen')))
      (hτ : Left u? s o seen seen' σ τ) :
      Acting.Ensures (.serving (Store.serveEach found)) (require b c.refusal) τ m ok err := by
    rw [Acting.ensures_require]
    by_cases hpasses : b = true
    · rw [if_pos hpasses]
      exact hok τ m (fun d hd => (hb d hd).mp hpasses) hτ
    · rw [if_neg hpasses]
      exact hrefused τ m (fun d hd hp => hpasses ((hb d hd).mpr hp)) hτ
  cases c with
  | permission i =>
    subst hseen
    show Acting.Ensures _ i.demand σ 0 ok err
    rw [Inquiry.demand_eq, demand, Acting.ensures_bind]
    exact h.ask_ensures (fun b τ m hb hτ => hrequire hb hτ) herr
  | administering scope? =>
    obtain rfl : seen = seen' := (List.append_nil seen).symm.trans hseen
    show Acting.Ensures _ (checkAdministers scope?) σ 0 ok err
    rcases scope? with _ | uuid | ⟨uuid, organization⟩
    · show Acting.Ensures _ (demand _) σ 0 ok err
      rw [demand, Acting.ensures_bind, Acting.ensures_bind]
      refine h.load_ensures (fun d τ hd hτ => ?_) herr
      exact hrequire (fun d' _ => iff_of_false Bool.false_ne_true id) (.inl ⟨d, hd, hτ⟩)
    · show Acting.Ensures _ (demand (hasPermission _ (some uuid))) σ 0 ok err
      rw [demand, Acting.ensures_bind]
      refine h.hasPermission_ensures _ _ (fun d b τ m hd hb hτ => ?_) herr
      refine hrequire (fun d' hd' => ?_) (.inl ⟨d, hd, hτ⟩)
      obtain rfl : d' = d := Except.ok.inj (hd'.symm.trans hd)
      exact hb
    · show Acting.Ensures _ (demand _) σ 0 ok err
      rw [demand, Acting.ensures_bind, Acting.ensures_bind]
      refine h.load_ensures (fun d τ hd hτ => ?_) herr
      refine hrequire (fun d' _ => ?_) (.inl ⟨d, hd, hτ⟩)
      rw [Snapshot.allows?, Option.any_some]
      exact Store.allows_snapshot_iff_supported
  | signedIn =>
    obtain rfl : seen = seen' := (List.append_nil seen).symm.trans hseen
    show Acting.Ensures _ checkSignedIn σ 0 ok err
    unfold checkSignedIn signedIn
    rw [Acting.ensures_bind, Acting.ensures_bind, Acting.ensures_get, h.principal,
      Principal.id?_ofUser?]
    cases u? with
    | none => exact hrefused σ 0 (fun _ _ => not_not_intro rfl) (.inr ⟨rfl, .inl rfl⟩)
    | some u => exact hok σ 0 (fun _ _ => Option.some_ne_none u) (.inr ⟨rfl, .inl rfl⟩)
  | root =>
    obtain rfl : seen = seen' := (List.append_nil seen).symm.trans hseen
    show Acting.Ensures _ checkRoot σ 0 ok err
    unfold checkRoot
    rw [Acting.ensures_bind, Acting.ensures_get]
    refine hrequire (fun _ _ => ?_) (.inr ⟨rfl, .inl rfl⟩)
    rw [h.principal, Principal.isRoot_ofUser?, Option.any_eq_true]
    rfl

/-- A turn is answered by what the session goes by, and leaves the session settled on it. -/
theorem Settles.turn {turn : Turn} (h : Settles u? turn.found turn.probe.lookups σ s o seen asked)
    {seen' : List (String × Option Scope)}
    (hseen : seen ++ (turn.resolution? asked).toList = seen') :
    (∀ d, o = .ok d → turn.probe.AnsweredBy ⟨u?, d, s⟩ (turn.scope? seen') (σ.answerTo turn)) ∧
      Left u? s o seen seen' σ (σ.after turn) := by
  have htell : Acting.Ensures (.serving (Store.serveEach turn.found)) turn.probe.tell σ 0
      (fun b τ _ => (∀ d, o = .ok d →
        turn.probe.AnsweredBy ⟨u?, d, s⟩ (turn.scope? seen') (.ok b)) ∧ Left u? s o seen seen' σ τ)
      fun f τ _ => (∀ d, o = .ok d →
        turn.probe.AnsweredBy ⟨u?, d, s⟩ (turn.scope? seen') (.error f)) ∧
          Left u? s o seen seen' σ τ := by
    have hfailed (f : Fault) (hf : o = .error f) :
        (∀ d, o = .ok d → turn.probe.AnsweredBy ⟨u?, d, s⟩ (turn.scope? seen') (.error f)) ∧
          Left u? s o seen seen' σ σ :=
      ⟨fun d hd => (nomatch hd.symm.trans hf), .inr ⟨rfl, .inr ⟨f, hf⟩⟩⟩
    obtain ⟨probe, found⟩ := turn
    cases probe with
    | ask i =>
      subst hseen
      refine h.ask_ensures (fun b τ m hb hτ => ⟨fun d hd => ?_, hτ⟩) fun f m => hfailed f
      exact ⟨b, rfl, hb d hd⟩
    | check c =>
      show Acting.Ensures _ (do c.run; return true) σ 0 _ _
      rw [Acting.ensures_bind]
      refine h.check_ensures hseen (fun τ m hpasses hτ => ⟨fun d hd => ?_, hτ⟩)
        (fun τ m hrefused hτ => ⟨fun d hd => ?_, hτ⟩) fun f m => hfailed f
      · exact .inl ⟨rfl, hpasses d hd⟩
      · exact .inr ⟨rfl, hrefused d hd⟩
  have hend := (Program.ensures_serving_iff _ _ _ _).mp htell
  rw [answerTo, after]
  revert hend
  generalize ((turn.probe.tell.run.run σ).run (Store.serveEach turn.found) 0).1 = left
  obtain ⟨f | b, τ⟩ := left
  · exact id
  · exact id

/-- A settled session stays settled, and answers by what it goes by. -/
theorem Settled.turn (h : Settled g seen σ) (turn : Turn) :
    let seen' := seen ++ (turn.resolution? 0).toList
    turn.probe.AnsweredBy g (turn.scope? seen') (σ.answerTo turn) ∧
      Settled g seen' (σ.after turn) := by
  have hheld : Settles g.user? turn.found turn.probe.lookups σ g.store (.ok g.organization) seen
      0 := .held h
  obtain ⟨hanswer, hleft⟩ := hheld.turn rfl
  refine ⟨hanswer g.organization rfl, ?_⟩
  rcases hleft with ⟨d, hd, hτ⟩ | ⟨hτ, hsame | ⟨f, hf⟩⟩
  · obtain rfl : g.organization = d := Except.ok.inj hd
    exact hτ
  · rw [hτ, hsame]
    exact h
  · exact nomatch hf

theorem Settled.snapshot?_ne_none (h : Settled g seen σ) : σ.snapshot? ≠ none := by
  rw [h.snapshot?]
  exact Option.some_ne_none _

end

/-- The projects of turns and the scopes that they are found to be, where no permissions have to be
read before. -/
def resolutions (turns : List Turn) : List (String × Option Scope) :=
  turns.flatMap fun turn => (turn.resolution? 0).toList

section

variable {g : Ground} {seen : List (String × Option Scope)} {σ τ : Session}

theorem Settled.afterAll (h : Settled g seen σ) (turns : List Turn) :
    Settled g (seen ++ resolutions turns) (σ.afterAll turns) := by
  induction turns generalizing σ seen with
  | nil => rwa [resolutions, List.flatMap_nil, List.append_nil]
  | cons turn rest ih =>
    have hrest := ih (h.turn turn).2
    rw [List.append_assoc] at hrest
    exact hrest

/-- All that a settled session answers goes by the same. -/
theorem Settled.answers (h : Settled g seen σ) (turns : List Turn) :
    List.Forall₂
      (fun turn answer => turn.probe.AnsweredBy g (turn.scope? (seen ++ resolutions turns)) answer)
      turns (σ.answers turns) := by
  suffices hgeneral : ∀ more, List.Forall₂
      (fun turn answer =>
        turn.probe.AnsweredBy g (turn.scope? (seen ++ resolutions turns ++ more)) answer)
      turns (σ.answers turns) by
    have hend := hgeneral []
    rwa [List.append_nil] at hend
  induction turns generalizing σ seen with
  | nil => exact fun _ => .nil
  | cons turn rest ih =>
    intro more
    obtain ⟨hanswer, hτ⟩ := h.turn turn
    have hsplit : seen ++ resolutions (turn :: rest) =
        seen ++ (turn.resolution? 0).toList ++ resolutions rest :=
      (List.append_assoc ..).symm
    rw [hsplit]
    refine .cons ?_ (ih hτ more)
    rw [List.append_assoc, turn.scope?_append]
    exact hanswer

/-- Two sessions that go by the same answer the same to turns that find the same components. -/
theorem Settled.answers_eq (hσ : Settled g seen σ) (hτ : Settled g seen τ)
    {turns turns' : List Turn} (h : List.Forall₂ Turn.Alike turns turns') :
    σ.answers turns = τ.answers turns' := by
  induction h generalizing σ τ seen with
  | nil => rfl
  | @cons turn turn' rest rest' halike _ ih =>
    obtain ⟨hanswer, hafter⟩ := hσ.turn turn
    obtain ⟨hanswer', hafter'⟩ := hτ.turn turn'
    rw [halike.scope?_eq, halike.resolution?_eq, halike.probe] at hanswer
    rw [halike.resolution?_eq] at hafter
    rw [Session.answers, Session.answers, hanswer.unique hanswer', ih hafter hafter']

/-- The first turn that a session needs the permissions of its caller for settles it on what that
turn finds. -/
theorem turn_ofUser? (u? : Option User) (turn : Turn) :
    (ofUser? u?).after turn = ofUser? u? ∨
      ∃ d, (turn.found turn.probe.lookups).defaultOrganization = .ok d ∧
        turn.probe.AnsweredBy ⟨u?, d, turn.found (turn.probe.lookups + 1)⟩
          (turn.scope? (turn.resolution? 2).toList) ((ofUser? u?).answerTo turn) ∧
        Settled ⟨u?, d, turn.found (turn.probe.lookups + 1)⟩ (turn.resolution? 2).toList
          ((ofUser? u?).after turn) := by
  have hfresh : Settles u? turn.found turn.probe.lookups (ofUser? u?)
      (turn.found (turn.probe.lookups + 1)) (turn.found turn.probe.lookups).defaultOrganization [] 2 :=
    .fresh
  obtain ⟨hanswer, ⟨d, hd, hτ⟩ | ⟨hτ, -⟩⟩ := hfresh.turn (List.nil_append _)
  · exact .inr ⟨d, hd, hanswer d hd, hτ⟩
  · exact .inl hτ

/-- A session without the permissions of its caller is as it was made. -/
theorem afterAll_eq_ofUser? {u? : Option User} {turns : List Turn}
    (h : ((ofUser? u?).afterAll turns).snapshot? = none) :
    (ofUser? u?).afterAll turns = ofUser? u? := by
  induction turns with
  | nil => rfl
  | cons turn rest ih =>
    have hcons : (ofUser? u?).afterAll (turn :: rest) =
        ((ofUser? u?).after turn).afterAll rest := rfl
    rw [hcons] at h ⊢
    rcases turn_ofUser? u? turn with hτ | ⟨d, -, -, hτ⟩
    · rw [hτ] at h ⊢
      exact ih h
    · exact absurd h (hτ.afterAll rest).snapshot?_ne_none

end

/-- A session goes by what it found in the first turn that needed the permissions of its caller:
the default organization, the grants and the memberships, and each project as it was when the
session was asked about it first. However the store changes, all later answers are the ones that
these give. What later turns find is seen in the answers by its components only, and no permissions
are read a second time.

In the first turn the question after looking up a component is about the default organization, the
next one is about the grants, and a project is resolved after both. -/
theorem answers_stable (u? : Option User) (earlier : List Turn) (first : Turn)
    (hblank : ((ofUser? u?).afterAll earlier).snapshot? = none)
    (hloaded : ((ofUser? u?).afterAll (earlier ++ [first])).snapshot? ≠ none) :
    ∃ d, (first.found first.probe.lookups).defaultOrganization = .ok d ∧
      (∀ later, List.Forall₂
        (fun turn answer => turn.probe.AnsweredBy ⟨u?, d, first.found (first.probe.lookups + 1)⟩
          (turn.scope? ((first.resolution? 2).toList ++ resolutions later)) answer)
        (first :: later) (((ofUser? u?).afterAll earlier).answers (first :: later))) ∧
      (∀ later later', List.Forall₂ Turn.Alike later later' →
        ((ofUser? u?).afterAll (earlier ++ [first])).answers later =
          ((ofUser? u?).afterAll (earlier ++ [first])).answers later') ∧
      ∀ turns, ((ofUser? u?).requests turns).countP (·.readsSnapshot) ≤ 1 := by
  have hbefore := afterAll_eq_ofUser? hblank
  rw [afterAll_concat, hbefore] at hloaded ⊢
  rcases turn_ofUser? u? first with hτ | ⟨d, hd, hanswer, hτ⟩
  · exact absurd (congrArg Session.snapshot? hτ) hloaded
  · refine ⟨d, hd, fun later => .cons ?_ (hτ.answers later), fun later later' halike => ?_,
      countP_readsSnapshot_le_one u?⟩
    · have hscope := first.scope?_append 2 [] (resolutions later)
      rw [List.nil_append] at hscope
      rwa [hscope]
    · exact hτ.answers_eq hτ halike

/-- The user `alice` of the sample asks about a permission that is granted to her after she asked
first, and is told the same. -/
theorem answers_stable_sample :
    let s := Store.sample default
    let u? := s.caller? (some "alice")
    let i := Inquiry.onOrganization "scan" none
    let g : Grant :=
      ⟨Store.sampleDefault, .user 2 "alice", "scan", .organization Store.sampleDefault⟩
    let asked : Turn := ⟨.ask i, fun _ => s⟩
    let granted : Turn := ⟨.ask i, fun _ => s.addGrant g⟩
    (((ofUser? u?).afterAll []).snapshot? = none ∧
        ((ofUser? u?).afterAll ([] ++ [asked])).snapshot? ≠ none) ∧
      ((ofUser? u?).afterAll ([] ++ [asked])).answers [granted] =
        ((ofUser? u?).afterAll ([] ++ [asked])).answers [asked] := by
  intro s u? i g asked granted
  have hblank : ((ofUser? u?).afterAll []).snapshot? = none := rfl
  have hloaded : ((ofUser? u?).afterAll ([] ++ [asked])).snapshot? ≠ none := by decide +kernel
  obtain ⟨_, _, _, hsame, _⟩ := answers_stable u? [] asked hblank hloaded
  have halike : List.Forall₂ Turn.Alike [granted] [asked] := .cons ⟨rfl, fun _ => rfl⟩ .nil
  exact ⟨⟨hblank, hloaded⟩, hsame [granted] [asked] halike⟩

end Session

end Entitlements
