import Entitlements.Proofs.Session.Authority
import Entitlements.Proofs.Store.Holdings
import Entitlements.Proofs.Store.Orderly
import Entitlements.Store.Sample

/-!
# What sessions answer

A session answers from a snapshot, from the default organization, and from what it has found out
about projects. It reads each of these once and keeps it. As long as what it keeps is what is
stored, it answers exactly what the grants say, whatever it was asked before: a permission is there
when some grant supports it. Checks pass where the answer is yes, and refuse where it is no.
-/

namespace Entitlements

namespace Store

/-- The scope of a project, where the identifier is that of a component that carries permissions. -/
def projectScope? (s : Store) (project : String) : Option Scope :=
  ((s.components.find? (·.uuid == project)).filter (·.carriesPermissions)).map fun c =>
    Scope.project c.uuid c.organization

/-- Some grant gives the permission in the scope to the user, or to a visitor. -/
def Supported (s : Store) (user? : Option Int) (p : Permission) (scope : Scope) : Prop :=
  ∃ g ∈ s.grants, g.Supports s user? p scope

/-- The identifier is that of a project or a view that owns itself, and some grant gives the
permission there: on the project or on the whole organization of it. -/
def SupportedOnProject (s : Store) (user? : Option Int) (p : Permission) (project : String) : Prop :=
  ∃ c ∈ s.components, c.uuid = project ∧ c.carriesPermissions = true ∧
    s.Supported user? p (.project project c.organization)

/-- Some grant lets the user, or a visitor, administer the scope. An organization without an
identifier stands for the default organization; a project is taken as it is given. -/
def SupportedAdministering (s : Store) (d : Organization) (user? : Option Int) :
    Option Scope → Prop
  | some (.organization uuid) =>
    s.Supported user? Permission.administer (.organization ((given? (some uuid)).getD d.uuid))
  | some (.project uuid o) => s.Supported user? Permission.administer (.project uuid o)
  | none => False

variable {s : Store} {user? : Option Int} {p : Permission}

theorem allows_snapshot_iff_supported {scope : Scope} :
    (s.snapshot user?).allows p scope = true ↔ s.Supported user? p scope := by
  rw [allows_snapshot_iff, holds_iff_exists_supports, Supported]

/-- An element is found by a key that no other element has. -/
theorem find?_eq_some_iff_of_nodup {α κ : Type} [BEq κ] [LawfulBEq κ] {key : α → κ} {as : List α}
    (h : (as.map key).Nodup) {k : κ} {a : α} :
    as.find? (key · == k) = some a ↔ a ∈ as ∧ key a = k := by
  constructor
  · intro ha
    have hkey := List.find?_some ha
    exact ⟨List.mem_of_find?_eq_some ha, beq_iff_eq.mp hkey⟩
  · rintro ⟨ha, rfl⟩
    cases hfound : as.find? (key · == key a) with
    | none => exact absurd (beq_self_eq_true (key a)) (List.find?_eq_none.mp hfound a ha)
    | some b =>
      have hkey := List.find?_some hfound
      rw [List.inj_on_of_nodup_map h (List.mem_of_find?_eq_some hfound) ha (beq_iff_eq.mp hkey)]

/-- What a snapshot allows on the project of an identifier is what the grants say about it. -/
theorem allows?_projectScope?_iff (hkeyed : (s.components.map (·.uuid)).Nodup) {project : String} :
    (s.snapshot user?).allows? p (s.projectScope? project) = true ↔
      s.SupportedOnProject user? p project := by
  unfold projectScope? SupportedOnProject Snapshot.allows?
  rw [Option.any_eq_true]
  constructor
  · rintro ⟨scope, hscope, hallows⟩
    obtain ⟨c, hc, rfl⟩ := Option.map_eq_some_iff.mp hscope
    obtain ⟨hfound, hp⟩ := Option.filter_eq_some_iff.mp hc
    obtain ⟨hmem, rfl⟩ := (find?_eq_some_iff_of_nodup hkeyed).mp hfound
    exact ⟨c, hmem, rfl, hp, allows_snapshot_iff_supported.mp hallows⟩
  · rintro ⟨c, hmem, rfl, hp, hsupported⟩
    have hfound := (find?_eq_some_iff_of_nodup hkeyed).mpr ⟨hmem, rfl⟩
    refine ⟨.project c.uuid c.organization, ?_, allows_snapshot_iff_supported.mpr hsupported⟩
    rw [hfound, Option.filter_some_pos hp]
    rfl

end Store

/-- A question to a session about a permission of its caller. -/
inductive Inquiry where
  /-- On an organization, or on the default one. -/
  | onOrganization (p : Permission) (uuid? : Option String)
  /-- On a project. -/
  | onProject (p : Permission) (uuid : String)
  /-- On the project of the component of a key. -/
  | onComponent (p : Permission) (key : String)
  /-- On the project of the component of an identifier. -/
  | onComponentUuid (p : Permission) (uuid : String)

namespace Inquiry

/-- Ask whether the caller has the permission. -/
def ask : Inquiry → Acting Bool
  | onOrganization p uuid? => Session.hasPermission p uuid?
  | onProject p uuid => Session.hasProjectPermission p uuid
  | onComponent p key => Session.hasComponentPermission p key
  | onComponentUuid p uuid => Session.hasComponentUuidPermission p uuid

/-- Demand that the caller has the permission. -/
def demand : Inquiry → Acting Unit
  | onOrganization p uuid? => Session.checkPermission p uuid?
  | onProject p uuid => Session.checkProjectPermission p uuid
  | onComponent p key => Session.checkComponentPermission p key
  | onComponentUuid p uuid => Session.checkComponentUuidPermission p uuid

/-- What the grants say to a question. The component of a key is the first one that has it, and a
reference that leads nowhere gives nothing. -/
def Granted (s : Store) (d : Organization) (user? : Option Int) : Inquiry → Prop
  | onOrganization p uuid? => s.Supported user? p (.organization ((given? uuid?).getD d.uuid))
  | onProject p uuid => s.SupportedOnProject user? p uuid
  | onComponent p key =>
    ∃ c, s.components.find? (·.key == key) = some c ∧ s.SupportedOnProject user? p c.project
  | onComponentUuid p uuid =>
    ∃ c ∈ s.components, c.uuid = uuid ∧ s.SupportedOnProject user? p c.project

theorem demand_eq (i : Inquiry) : i.demand = Session.demand i.ask := by
  cases i <;> rfl

end Inquiry

/-- A check of a session on its caller, which passes or is refused. -/
inductive Check where
  /-- The caller has a permission. -/
  | permission (i : Inquiry)
  /-- The caller administers a scope. -/
  | administering (scope? : Option Scope)
  /-- The caller has signed in. -/
  | signedIn
  /-- The caller is root. -/
  | root

namespace Check

/-- Make the check. -/
def run : Check → Acting Unit
  | permission i => i.demand
  | administering scope? => Session.checkAdministers scope?
  | signedIn => Session.checkSignedIn
  | root => Session.checkRoot

/-- How a caller is refused who does not pass. -/
def refusal : Check → Refusal
  | signedIn => .notSignedIn
  | _ => .insufficientPrivileges

/-- The user, or a visitor, passes: by what the grants say, or by the account itself. -/
def Passes (s : Store) (d : Organization) (u? : Option User) : Check → Prop
  | permission i => i.Granted s d (u?.map (·.id))
  | administering scope? => s.SupportedAdministering d (u?.map (·.id)) scope?
  | signedIn => u? ≠ none
  | root => ∃ u, u? = some u ∧ u.root = true

end Check

/-- Something that a session is asked to tell or to check. -/
inductive Probe where
  /-- Ask about a permission. -/
  | ask (i : Inquiry)
  /-- Make a check. -/
  | check (c : Check)

/-- Ask, or make the check. -/
def Probe.run : Probe → Acting Unit
  | ask i => do let _ ← i.ask
  | check c => c.run

namespace Session

/-- What the session knows is what is stored about the user, or about visitors. -/
structure Current (s : Store) (u? : Option User) (σ : Session) : Prop where
  principal : σ.principal = .ofUser? u?
  view : σ.view s = s.snapshot (u?.map (·.id))
  byDefault? : σ.byDefault? s = s.defaultOrganization.toOption.map (·.uuid)
  projects : ∀ x scope?, σ.projects.lookup x = some scope? → scope? = s.projectScope? x

variable {s t : Store} {u? : Option User} {σ : Session} {d : Organization}
  {err : Fault → Session → Store → Prop}

/-- A session that has asked for nothing yet knows nothing wrong. -/
theorem current_ofUser? (s : Store) (u? : Option User) : Current s u? (ofUser? u?) := by
  refine ⟨rfl, ?_, rfl, nofun⟩
  rw [Session.view, ofUser?, Option.getD_none, Principal.id?_ofUser?]

namespace Current

/-- A current session reads what is stored, and reading it leaves the session current. -/
theorem load_ensures (h : Current s u? σ) (hd : s.defaultOrganization = .ok d)
    (ht : s.Untouched t) {ok : Snapshot → Session → Store → Prop}
    (hok : ∀ τ t', Current s u? τ → τ.defaultOrganization? = some d.uuid → s.Untouched t' →
      ok (s.snapshot (u?.map (·.id))) τ t') :
    Acting.Ensures Store.setting load σ t ok err := by
  have hview := h.view
  have hdefault := h.byDefault?
  rw [Session.view] at hview
  rw [Session.byDefault?, hd] at hdefault
  rw [ensures_load_iff ht, hd]
  cases hs : σ.snapshot? with
  | some held =>
    rw [hs, Option.getD_some] at hview
    rw [hs] at hdefault
    exact hview ▸ hok σ t h hdefault ht
  | none =>
    have hid : σ.principal.id? = u?.map (·.id) := by rw [h.principal, Principal.id?_ofUser?]
    have hbyDefault : some d.uuid = s.defaultOrganization.toOption.map (·.uuid) := by
      rw [hd]
      rfl
    dsimp only
    rw [hid]
    exact hok _ _ ⟨h.principal, rfl, hbyDefault, h.projects⟩ rfl ht.completed

/-- A current session takes a project for what is stored of it, and goes on to do so. -/
theorem resolveProject_ensures (h : Current s u? σ) (ht : s.Untouched t) (project : String)
    {ok : Option Scope → Session → Store → Prop}
    (hok : ∀ τ t', Current s u? τ → s.Untouched t' → ok (s.projectScope? project) τ t') :
    Acting.Ensures Store.setting (resolveProject project) σ t ok err := by
  unfold resolveProject
  rw [Acting.ensures_bind, Acting.ensures_get]
  cases hlookup : σ.projects.lookup project with
  | some scope? =>
    obtain rfl : scope? = s.projectScope? project := h.projects project scope? hlookup
    exact hok σ t h ht
  | none =>
    have hreads : Query.Reads (.componentByUuid project) := trivial
    dsimp only
    rw [Acting.ensures_bind, Acting.ensures_setting_transaction,
      Acting.ensures_read_iff ht hreads]
    refine hok _ _ ⟨h.principal, h.view, h.byDefault?, fun x scope? hx => ?_⟩ ht.completed
    rw [List.lookup_cons] at hx
    by_cases hproject : x = project
    · subst hproject
      rw [beq_self_eq_true] at hx
      exact (Option.some.inj hx).symm
    · rw [beq_false_of_ne hproject] at hx
      exact h.projects x scope? hx

theorem hasPermission_ensures (h : Current s u? σ) (hd : s.defaultOrganization = .ok d)
    (ht : s.Untouched t) (p : Permission) (uuid? : Option String)
    {ok : Bool → Session → Store → Prop}
    (hok : ∀ b τ t', (b = true ↔ s.Supported (u?.map (·.id)) p
        (.organization ((given? uuid?).getD d.uuid))) →
      Current s u? τ → s.Untouched t' → ok b τ t') :
    Acting.Ensures Store.setting (hasPermission p uuid?) σ t ok err := by
  unfold hasPermission
  rw [Acting.ensures_bind]
  refine h.load_ensures hd ht fun τ t' hτ hdefault ht' => ?_
  rw [Acting.ensures_bind, Acting.ensures_get, Acting.ensures_pure]
  refine hok _ τ t' ?_ hτ ht'
  have hmeant : (uuid?.filter (!·.isEmpty)).or τ.defaultOrganization? =
      some ((given? uuid?).getD d.uuid) := by
    rw [hdefault, ← given?]
    cases given? uuid? <;> rfl
  rw [hmeant, Option.any_some]
  show (s.snapshot _).allows p (.organization _) = true ↔ _
  exact Store.allows_snapshot_iff_supported

theorem hasProjectPermission_ensures (h : Current s u? σ)
    (hkeyed : (s.components.map (·.uuid)).Nodup) (hd : s.defaultOrganization = .ok d)
    (ht : s.Untouched t) (p : Permission) (project : String)
    {ok : Bool → Session → Store → Prop}
    (hok : ∀ b τ t', (b = true ↔ s.SupportedOnProject (u?.map (·.id)) p project) →
      Current s u? τ → s.Untouched t' → ok b τ t') :
    Acting.Ensures Store.setting (hasProjectPermission p project) σ t ok err := by
  unfold hasProjectPermission
  rw [Acting.ensures_bind]
  refine h.load_ensures hd ht fun τ t' hτ _ ht' => ?_
  rw [Acting.ensures_bind]
  refine hτ.resolveProject_ensures ht' project fun υ t'' hυ ht'' => ?_
  exact hok _ υ t'' (Store.allows?_projectScope?_iff hkeyed) hυ ht''

/-- A current session answers what the grants say. -/
theorem ask_ensures (h : Current s u? σ) (hkeyed : (s.components.map (·.uuid)).Nodup)
    (hd : s.defaultOrganization = .ok d) (ht : s.Untouched t) (i : Inquiry)
    {ok : Bool → Session → Store → Prop}
    (hok : ∀ b τ t', (b = true ↔ i.Granted s d (u?.map (·.id))) → Current s u? τ →
      s.Untouched t' → ok b τ t') :
    Acting.Ensures Store.setting i.ask σ t ok err := by
  have hcomponent (p : Permission) (c? : Option Component) {t : Store} (ht : s.Untouched t)
      (hc : i.Granted s d (u?.map (·.id)) ↔
        ∃ c, c? = some c ∧ s.SupportedOnProject (u?.map (·.id)) p c.project) :
      Acting.Ensures Store.setting (hasPermissionOn p c?) σ t ok err := by
    cases c? with
    | none =>
      refine hok false σ t ?_ h ht
      simp [hc]
    | some c =>
      refine h.hasProjectPermission_ensures hkeyed hd ht p c.project fun b τ t' hb => hok b τ t' ?_
      simp [hb, hc]
  cases i with
  | onOrganization p uuid? => exact h.hasPermission_ensures hd ht p uuid? hok
  | onProject p uuid => exact h.hasProjectPermission_ensures hkeyed hd ht p uuid hok
  | onComponent p key =>
    have hreads : Query.Reads (.componentByKey key) := trivial
    show Acting.Ensures Store.setting (hasComponentPermission p key) σ t ok err
    unfold hasComponentPermission
    rw [Acting.ensures_bind, Acting.ensures_setting_transaction, Acting.ensures_read_iff ht hreads]
    exact hcomponent p _ ht.completed Iff.rfl
  | onComponentUuid p uuid =>
    have hreads : Query.Reads (.componentByUuid uuid) := trivial
    show Acting.Ensures Store.setting (hasComponentUuidPermission p uuid) σ t ok err
    unfold hasComponentUuidPermission
    rw [Acting.ensures_bind, Acting.ensures_setting_transaction, Acting.ensures_read_iff ht hreads]
    refine hcomponent p _ ht.completed (exists_congr fun c => ?_)
    rw [← and_assoc]
    exact and_congr_left fun _ => (Store.find?_eq_some_iff_of_nodup hkeyed).symm

/-- A check of a current session passes where it should and is refused elsewhere. -/
theorem check_ensures (h : Current s u? σ) (hkeyed : (s.components.map (·.uuid)).Nodup)
    (hd : s.defaultOrganization = .ok d) (ht : s.Untouched t) (c : Check)
    {ok : Unit → Session → Store → Prop}
    (hok : ∀ τ t', c.Passes s d u? → Current s u? τ → s.Untouched t' → ok () τ t')
    (herr : ∀ τ t', ¬ c.Passes s d u? → Current s u? τ → s.Untouched t' →
      err (.refused c.refusal) τ t') :
    Acting.Ensures Store.setting c.run σ t ok err := by
  -- every check comes down to a condition that is required in the end
  have hrequire {b : Bool} {τ : Session} {t' : Store} (hb : b = true ↔ c.Passes s d u?)
      (hτ : Current s u? τ) (ht' : s.Untouched t') :
      Acting.Ensures Store.setting (require b c.refusal) τ t' ok err := by
    rw [Acting.ensures_require]
    by_cases hpasses : c.Passes s d u?
    · rw [if_pos (hb.mpr hpasses)]
      exact hok τ t' hpasses hτ ht'
    · rw [if_neg fun hbtrue => hpasses (hb.mp hbtrue)]
      exact herr τ t' hpasses hτ ht'
  cases c with
  | permission i =>
    show Acting.Ensures Store.setting i.demand σ t ok err
    rw [Inquiry.demand_eq, demand, Acting.ensures_bind]
    exact h.ask_ensures hkeyed hd ht i fun b τ t' hb hτ ht' => hrequire hb hτ ht'
  | administering scope? =>
    show Acting.Ensures Store.setting (checkAdministers scope?) σ t ok err
    match scope? with
    | some (.organization uuid) =>
      show Acting.Ensures Store.setting (demand (hasPermission _ (some uuid))) σ t ok err
      rw [demand, Acting.ensures_bind]
      exact h.hasPermission_ensures hd ht _ _ fun b τ t' hb hτ ht' => hrequire hb hτ ht'
    | some (.project uuid o) =>
      show Acting.Ensures Store.setting (demand _) σ t ok err
      rw [demand, Acting.ensures_bind, Acting.ensures_bind]
      refine h.load_ensures hd ht fun τ t' hτ _ ht' => ?_
      have hallows : (s.snapshot (u?.map (·.id))).allows? Permission.administer
            (some (.project uuid o)) = true ↔
          (Check.administering (some (.project uuid o))).Passes s d u? := by
        rw [Snapshot.allows?, Option.any_some]
        exact Store.allows_snapshot_iff_supported
      exact hrequire hallows hτ ht'
    | none =>
      show Acting.Ensures Store.setting (demand _) σ t ok err
      rw [demand, Acting.ensures_bind, Acting.ensures_bind]
      refine h.load_ensures hd ht fun τ t' hτ _ ht' => ?_
      have hnothing : false = true ↔ (Check.administering none).Passes s d u? :=
        iff_of_false Bool.false_ne_true id
      exact hrequire hnothing hτ ht'
  | signedIn =>
    show Acting.Ensures Store.setting checkSignedIn σ t ok err
    unfold checkSignedIn signedIn
    rw [Acting.ensures_bind, Acting.ensures_bind, Acting.ensures_get, h.principal,
      Principal.id?_ofUser?]
    cases u? with
    | none => exact herr σ t (not_not_intro rfl) h ht
    | some u => exact hok σ t (Option.some_ne_none u) h ht
  | root =>
    show Acting.Ensures Store.setting checkRoot σ t ok err
    unfold checkRoot
    rw [Acting.ensures_bind, Acting.ensures_get]
    refine hrequire ?_ h ht
    rw [h.principal, Principal.isRoot_ofUser?, Option.any_eq_true]
    rfl

/-- Whatever a current session is asked, it stays current. -/
theorem probe_ensures (h : Current s u? σ) (hkeyed : (s.components.map (·.uuid)).Nodup)
    (hd : s.defaultOrganization = .ok d) (ht : s.Untouched t) (probe : Probe) :
    Acting.Ensures Store.setting probe.run σ t
      (fun _ τ t' => Current s u? τ ∧ s.Untouched t')
      fun _ τ t' => Current s u? τ ∧ s.Untouched t' := by
  cases probe with
  | ask i =>
    show Acting.Ensures Store.setting (do let _ ← i.ask) σ t _ _
    rw [Acting.ensures_bind]
    exact h.ask_ensures hkeyed hd ht i fun _ τ t' _ hτ ht' => ⟨hτ, ht'⟩
  | check c =>
    exact h.check_ensures hkeyed hd ht c (fun τ t' _ hτ ht' => ⟨hτ, ht'⟩)
      fun τ t' _ hτ ht' => ⟨hτ, ht'⟩

end Current

/-- What the session answers on the store. -/
def answer {α : Type} (σ : Session) (s : Store) (a : Acting α) : Except Fault α :=
  (s.run (a.run.run σ)).1.1

/-- What is ensured of values and of faults holds of the answer. -/
theorem answer_of_ensures {α : Type} {a : Acting α} {ok : α → Prop} {err : Fault → Prop}
    (h : Acting.Ensures Store.setting a σ t (fun b _ _ => ok b) fun f _ _ => err f) :
    (∃ b, σ.answer t a = .ok b ∧ ok b) ∨ ∃ f, σ.answer t a = .error f ∧ err f := by
  have hend := (Store.ensures_setting_iff _ _ _).mp h
  unfold answer
  revert hend
  generalize t.run (a.run.run σ) = left
  obtain ⟨⟨f | b, τ⟩, t'⟩ := left
  · exact fun hf => .inr ⟨f, rfl, hf⟩
  · exact fun hb => .inl ⟨b, rfl, hb⟩

/-- A session that is asked whether it administers a scope says yes exactly where it passes. -/
theorem answer_checkAdministers_iff {σ : Session} {scope : Scope} :
    σ.answer s (checkAdministers (some scope)) = .ok () ↔ σ.Clears s scope := by
  have hchecked : Acting.Ensures Store.setting (checkAdministers (some scope)) σ s
      (fun _ _ _ => σ.Clears s scope) fun _ _ _ => ¬ σ.Clears s scope :=
    checkAdministers_decides (.refl s) (fun h _ _ _ _ => h) fun h _ _ _ _ _ => h
  rcases answer_of_ensures hchecked with ⟨⟨⟩, hanswer, hclears⟩ | ⟨f, hanswer, hclears⟩
  · exact iff_of_true hanswer hclears
  · rw [hanswer]
    exact iff_of_false nofun hclears

/-- What becomes of a session and its store as one thing is asked after the other. -/
def probed (σ : Session) (s : Store) : List Probe → Session × Store
  | [] => (σ, s)
  | probe :: rest =>
    probed (s.run (probe.run.run.run σ)).1.2 (s.run (probe.run.run.run σ)).2 rest

/-- What a current session was asked before makes no difference. -/
theorem Current.probed (h : Current s u? σ) (hkeyed : (s.components.map (·.uuid)).Nodup)
    (hd : s.defaultOrganization = .ok d) (ht : s.Untouched t) (probes : List Probe) :
    Current s u? (σ.probed t probes).1 ∧ s.Untouched (σ.probed t probes).2 := by
  induction probes generalizing σ t with
  | nil => exact ⟨h, ht⟩
  | cons probe rest ih =>
    have hend := Acting.end_of_ensures (Q := fun τ t' => Current s u? τ ∧ s.Untouched t')
      (h.probe_ensures hkeyed hd ht probe)
    exact ih hend.1 hend.2

/-- The session on the store answers a user, or a visitor, by the grants: every question by
whether they support the permission, and a check passes, or is refused, likewise. -/
structure AnswersBy (s : Store) (d : Organization) (u? : Option User) (σ : Session)
    (t : Store) : Prop where
  asked : ∀ i : Inquiry, ∃ b, σ.answer t i.ask = .ok b ∧
    (b = true ↔ i.Granted s d (u?.map (·.id)))
  checked : ∀ c : Check, σ.answer t c.run = .ok () ∧ c.Passes s d u? ∨
    σ.answer t c.run = .error (.refused c.refusal) ∧ ¬ c.Passes s d u?

theorem Current.answersBy (h : Current s u? σ) (hkeyed : (s.components.map (·.uuid)).Nodup)
    (hd : s.defaultOrganization = .ok d) (ht : s.Untouched t) : AnswersBy s d u? σ t := by
  constructor
  · intro i
    have hasked : Acting.Ensures Store.setting i.ask σ t
        (fun b _ _ => b = true ↔ i.Granted s d (u?.map (·.id))) fun _ _ _ => False :=
      h.ask_ensures hkeyed hd ht i fun b τ t' hb _ _ => hb
    rcases answer_of_ensures hasked with ⟨b, hanswer, hb⟩ | ⟨_, _, hfalse⟩
    · exact ⟨b, hanswer, hb⟩
    · exact hfalse.elim
  · intro c
    have hchecked : Acting.Ensures Store.setting c.run σ t (fun _ _ _ => c.Passes s d u?)
        fun f _ _ => f = .refused c.refusal ∧ ¬ c.Passes s d u? :=
      h.check_ensures hkeyed hd ht c (fun _ _ hpasses _ _ => hpasses)
        fun _ _ hrefused _ _ => ⟨rfl, hrefused⟩
    rcases answer_of_ensures hchecked with ⟨⟨⟩, hanswer, hpasses⟩ | ⟨_, hanswer, rfl, hrefused⟩
    · exact .inl ⟨hanswer, hpasses⟩
    · exact .inr ⟨hanswer, hrefused⟩

/-- Signing in ends with a session of the account behind the login that has asked for nothing. -/
theorem run_create (s : Store) (login? : Option String) :
    ∃ t, s.run (create login?).run = (.ok (ofUser? (s.caller? login?)), t) ∧ s.Untouched t := by
  obtain ⟨σ, t, hrun, rfl, ht⟩ := Work.run_of_ensures (create_ensures login? s)
  exact ⟨t, hrun, ht⟩

/-- A session that somebody signs in to answers by the grants, whatever it was asked before. Who
gives no login, one that nobody has or that of an inactive account is answered as a visitor. -/
theorem create_answersBy (hkeyed : (s.components.map (·.uuid)).Nodup)
    (hd : s.defaultOrganization = .ok d) (login? : Option String) (earlier : List Probe) :
    ∃ σ t, s.run (create login?).run = (.ok σ, t) ∧
      AnswersBy s d (s.caller? login?) (σ.probed t earlier).1 (σ.probed t earlier).2 := by
  obtain ⟨t, hrun, ht⟩ := run_create s login?
  have hfresh : Current s (s.caller? login?) (ofUser? (s.caller? login?)) := current_ofUser? s _
  have hprobed := hfresh.probed hkeyed hd ht earlier
  exact ⟨_, t, hrun, hprobed.1.answersBy hkeyed hd hprobed.2⟩

/-- The user `alice` of the sample asks twice about a permission that she does not have. -/
theorem create_answersBy_sample :
    let s := Store.sample default
    let d : Organization := ⟨Store.sampleDefault, "default-organization", "Default"⟩
    let i := Inquiry.onProject Permission.administer "proj-1"
    ((s.components.map (·.uuid)).Nodup ∧ s.defaultOrganization = .ok d) ∧
      ∃ σ t, s.run (create (some "alice")).run = (.ok σ, t) ∧
        AnswersBy s d (s.caller? (some "alice")) (σ.probed t [.ask i]).1
          (σ.probed t [.ask i]).2 := by
  intro s d i
  have hkeyed : (s.components.map (·.uuid)).Nodup := by decide
  have hd : s.defaultOrganization = .ok d := rfl
  exact ⟨⟨hkeyed, hd⟩, create_answersBy hkeyed hd (some "alice") [.ask i]⟩

end Session

end Entitlements
