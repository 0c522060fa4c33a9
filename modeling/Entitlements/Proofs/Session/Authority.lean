import Entitlements.Proofs.Store.Resolution

/-!
# What a session may do

A session goes by one snapshot of its caller's permissions: the one it has, or the one that the
store has for the caller when it is asked for first. Checks leave the session with the snapshot
that they went by, and a check that ends well says that the session administers the scope.

An organization without an identifier stands for the default organization in a check.
-/

namespace Entitlements

namespace Session

/-- The permissions that the session goes by. -/
def view (σ : Session) (s : Store) : Snapshot := σ.snapshot?.getD (s.snapshot σ.principal.id?)

/-- The default organization that the session goes by. -/
def byDefault? (σ : Session) (s : Store) : Option String :=
  match σ.snapshot? with
  | some _ => σ.defaultOrganization?
  | none => s.defaultOrganization.toOption.map (·.uuid)

/-- The session has the permission to administer a scope: the organization, or the default
organization in place of one without an identifier, and for a project the organization of it or
the project itself. -/
def Administers (σ : Session) (s : Store) : Scope → Prop
  | .organization uuid =>
    ∃ o, (if uuid = "" then σ.byDefault? s else some uuid) = some o ∧
      (σ.view s).allowsOrganization Permission.administer o = true
  | .project uuid o => (σ.view s).allowsProject Permission.administer uuid o = true

/-- The session has read the permissions of its caller, or can read them. -/
def Loads (σ : Session) (s : Store) : Prop :=
  σ.snapshot?.isSome = true ∨ ∃ o, s.defaultOrganization = .ok o

/-- The session passes the check on who administers the scope. -/
def Clears (σ : Session) (s : Store) (scope : Scope) : Prop := σ.Loads s ∧ σ.Administers s scope

/-- The session passes the check on whatever store, by what it has read already. -/
def Cleared (σ : Session) (scope : Scope) : Prop := ∀ s, σ.Clears s scope

/-- The session has read what it goes by. -/
structure Loaded (s : Store) (σ τ : Session) : Prop where
  principal : τ.principal = σ.principal
  snapshot? : τ.snapshot? = some (σ.view s)
  defaultOrganization? : τ.defaultOrganization? = σ.byDefault? s

variable {s t : Store} {σ τ : Session} {err : Fault → Session → Store → Prop}

theorem Loaded.view (h : Loaded s σ τ) : τ.view s = σ.view s := by
  rw [Session.view, h.snapshot?, Option.getD_some]

theorem Loaded.byDefault? (h : Loaded s σ τ) : τ.byDefault? s = σ.byDefault? s := by
  rw [Session.byDefault?, h.snapshot?]
  exact h.defaultOrganization?

/-- A session that has read what it goes by may do what it might before. -/
theorem Loaded.administers_iff (h : Loaded s σ τ) (scope : Scope) :
    τ.Administers s scope ↔ σ.Administers s scope := by
  cases scope with
  | organization uuid => rw [Administers, Administers, h.view, h.byDefault?]
  | project uuid o => rw [Administers, Administers, h.view]

theorem Loaded.loads (h : Loaded s σ τ) (t : Store) : τ.Loads t :=
  .inl (by rw [h.snapshot?, Option.isSome_some])

/-- Reading what it goes by does not change which checks a session passes. -/
theorem Loaded.clears_iff (h : Loaded s σ τ) (hσ : σ.Loads s) (scope : Scope) :
    τ.Clears s scope ↔ σ.Clears s scope := by
  simp [Clears, hσ, h.loads s, h.administers_iff]

/-- What a session has read does not change with what is stored. -/
theorem Loaded.cleared_iff (h : Loaded s σ τ) (scope : Scope) :
    τ.Cleared scope ↔ σ.Administers s scope := by
  have hsame (t : Store) : τ.Administers t scope ↔ τ.Administers s scope := by
    cases scope <;> simp [Administers, Session.view, Session.byDefault?, h.snapshot?]
  rw [← h.administers_iff scope]
  constructor
  · intro hcleared
    exact (hcleared s).2
  · intro hadmin t
    exact ⟨h.loads t, (hsame t).mpr hadmin⟩

theorem Loaded.trans {υ : Session} (h : Loaded s σ τ) (h' : Loaded s τ υ) : Loaded s σ υ where
  principal := h'.principal.trans h.principal
  snapshot? := h'.snapshot?.trans (congrArg some h.view)
  defaultOrganization? := h'.defaultOrganization?.trans h.byDefault?

/-- The session is as it was, or has read what it goes by. -/
def Learned (s : Store) (σ τ : Session) : Prop := τ = σ ∨ Loaded s σ τ

theorem Learned.refl (s : Store) (σ : Session) : Learned s σ σ := .inl rfl

/-- What was read stays so. -/
theorem Loaded.learned {υ : Session} (h : Loaded s σ τ) (h' : Learned s τ υ) : Loaded s σ υ := by
  rcases h' with rfl | h'
  · exact h
  · exact h.trans h'

theorem Learned.trans {υ : Session} (h : Learned s σ τ) (h' : Learned s τ υ) : Learned s σ υ := by
  rcases h with rfl | h
  · exact h'
  · exact .inr (h.learned h')

/-- What a session may do does not change as it reads what it goes by. -/
theorem Learned.administers_iff (h : Learned s σ τ) (scope : Scope) :
    τ.Administers s scope ↔ σ.Administers s scope := by
  rcases h with rfl | h
  · exact Iff.rfl
  · exact h.administers_iff scope

theorem Learned.principal (h : Learned s σ τ) : τ.principal = σ.principal := by
  rcases h with rfl | h
  · rfl
  · exact h.principal

/-- A session that passes a check passes it again. -/
theorem Learned.clears {scope : Scope} (h : Learned s σ τ) (hσ : σ.Clears s scope) :
    τ.Clears s scope := by
  rcases h with rfl | h
  · exact hσ
  · exact (h.clears_iff hσ.1 scope).mpr hσ

/-- Signing in gives a session of the account behind the login, and is only read from the store. It
never fails. -/
theorem create_ensures (login? : Option String) (s : Store) :
    Work.Ensures Store.setting (create login?) s
      (fun σ t => σ = ofUser? (s.caller? login?) ∧ s.Untouched t) fun _ _ => False := by
  unfold create
  cases login? with
  | none => exact ⟨rfl, .refl s⟩
  | some login =>
    by_cases hempty : login.isEmpty = true
    · dsimp only
      rw [if_pos hempty]
      refine ⟨?_, .refl s⟩
      have hgiven : given? (some login) = none := by
        simp only [given?, Option.filter_some, hempty, Bool.not_true, Bool.false_eq_true, if_false]
      rw [Store.caller?, hgiven]
      rfl
    · have hs : s.Untouched s := .refl s
      have hreads : Query.Reads (.userByLogin login) := trivial
      dsimp only
      rw [if_neg hempty, Work.ensures_bind, Work.ensures_setting_transaction,
        Work.ensures_read_iff hs hreads]
      refine ⟨?_, hs.completed⟩
      have hgiven : given? (some login) = some login := by
        simp only [given?, Option.filter_some, hempty, Bool.not_false, if_true]
      rw [Store.caller?, hgiven]
      rfl

theorem signedIn_ensures {ok : Int → Session → Store → Prop}
    (hok : ∀ id, σ.principal.id? = some id → ok id σ t)
    (herr : ¬ σ.principal.isSignedIn = true → ∀ f, err f σ t) :
    Acting.Ensures Store.setting signedIn σ t ok err := by
  unfold signedIn
  rw [Acting.ensures_bind, Acting.ensures_get]
  cases hid : σ.principal.id? with
  | none => exact herr (by simp [Principal.isSignedIn, hid]) _
  | some id => exact hok id hid

theorem checkSignedIn_ensures {ok : Unit → Session → Store → Prop}
    (hok : σ.principal.isSignedIn = true → ok () σ t)
    (herr : ¬ σ.principal.isSignedIn = true → ∀ f, err f σ t) :
    Acting.Ensures Store.setting checkSignedIn σ t ok err := by
  unfold checkSignedIn
  rw [Acting.ensures_bind]
  refine signedIn_ensures (fun id hid => hok ?_) herr
  rw [Principal.isSignedIn, hid]
  rfl

theorem checkRoot_ensures {ok : Unit → Session → Store → Prop}
    (hok : σ.principal.isRoot = true → ok () σ t)
    (herr : ¬ σ.principal.isRoot = true → ∀ f, err f σ t) :
    Acting.Ensures Store.setting checkRoot σ t ok err := by
  unfold checkRoot
  rw [Acting.ensures_bind, Acting.ensures_get, Acting.ensures_require]
  by_cases h : σ.principal.isRoot = true
  · rw [if_pos h]
    exact hok h
  · rw [if_neg h]
    exact herr h _

/-- A session reads its caller's permissions and the default organization together, and only where
it has not read them yet. It fails where there is no default organization. -/
theorem ensures_load_iff {ok : Snapshot → Session → Store → Prop} (ht : s.Untouched t) :
    Acting.Ensures Store.setting load σ t ok err ↔
      match σ.snapshot?, s.defaultOrganization with
      | some held, _ => ok held σ t
      | none, .ok o =>
        ok (s.snapshot σ.principal.id?) { σ with
          snapshot? := some (s.snapshot σ.principal.id?)
          defaultOrganization? := some o.uuid } t.completed
      | none, .error f => err f σ t.abandoned := by
  unfold load
  rw [Acting.ensures_bind, Acting.ensures_get]
  cases hs : σ.snapshot? with
  | some held => exact Iff.rfl
  | none =>
    have hdefault : Query.Reads .defaultOrganization := trivial
    have hsnapshot : Query.Reads (.loadSnapshot σ.principal.id?) := trivial
    have hanswer : (s.answer .defaultOrganization).1 = s.defaultOrganization := rfl
    dsimp only
    rw [Acting.ensures_bind, Acting.ensures_setting_transaction, Acting.ensures_bind,
      Acting.ensures_read_iff ht hdefault, hanswer]
    cases s.defaultOrganization with
    | error f => exact Iff.rfl
    | ok o =>
      dsimp only
      rw [Acting.ensures_bind, Acting.ensures_read_iff ht hsnapshot]
      exact Iff.rfl

/-- Reading gives the snapshot that the session goes by, unless it can read none. -/
theorem load_decides {ok : Snapshot → Session → Store → Prop} (ht : s.Untouched t)
    (hok : σ.Loads s → ∀ τ t', Loaded s σ τ → s.Untouched t' → ok (σ.view s) τ t')
    (herr : ¬ σ.Loads s → ∀ f t', s.Untouched t' → err f σ t') :
    Acting.Ensures Store.setting load σ t ok err := by
  rw [ensures_load_iff ht]
  cases hs : σ.snapshot? with
  | some held =>
    have hview : σ.view s = held := by rw [view, hs, Option.getD_some]
    have hloads : σ.Loads s := .inl (by rw [hs, Option.isSome_some])
    have hloaded : Loaded s σ σ := ⟨rfl, by rw [hview, hs], by rw [byDefault?, hs]⟩
    exact hview ▸ hok hloads σ t hloaded ht
  | none =>
    have hview : σ.view s = s.snapshot σ.principal.id? := by rw [view, hs, Option.getD_none]
    cases hdefault : s.defaultOrganization with
    | error f =>
      have hloads : ¬ σ.Loads s := by simp [Loads, hs, hdefault]
      exact herr hloads f _ ht.abandoned
    | ok o =>
      have hloads : σ.Loads s := .inr ⟨o, hdefault⟩
      have hloaded : Loaded s σ { σ with
          snapshot? := some (s.snapshot σ.principal.id?)
          defaultOrganization? := some o.uuid } := by
        refine ⟨rfl, by rw [hview], ?_⟩
        rw [byDefault?, hs, hdefault]
        rfl
      have hend := hok hloads _ _ hloaded ht.completed
      rw [hview] at hend
      exact hend

private theorem any_allowsOrganization_iff {uuid : String} :
    (((some uuid).filter (!·.isEmpty)).or (σ.byDefault? s)).any
      ((σ.view s).allowsOrganization Permission.administer) = true ↔
      σ.Administers s (.organization uuid) := by
  rw [Option.any_eq_true, Administers]
  refine exists_congr fun o => and_congr_left fun _ => ?_
  by_cases hempty : uuid = ""
  · simp [hempty]
  · simp only [Option.filter_some, hempty, if_false, Option.some.injEq]
    have hgiven : (!uuid.isEmpty) = true := by simpa using hempty
    rw [if_pos hgiven, Option.some_or, Option.some.injEq]

/-- A check passes exactly for a session that can read what it goes by and administers the
scope. -/
theorem checkAdministers_decides {scope : Scope} {ok : Unit → Session → Store → Prop}
    (ht : s.Untouched t)
    (hok : σ.Clears s scope → ∀ τ t', Loaded s σ τ → s.Untouched t' → ok () τ t')
    (herr : ¬ σ.Clears s scope → ∀ f τ t', Learned s σ τ → s.Untouched t' → err f τ t') :
    Acting.Ensures Store.setting (checkAdministers (some scope)) σ t ok err := by
  have hunread (hloads : ¬ σ.Loads s) (f : Fault) (t' : Store) (ht' : s.Untouched t') :
      err f σ t' := herr (fun hclears => hloads hclears.1) f σ t' (.refl s σ) ht'
  -- either way the check ends with a condition on the snapshot that says what is administered
  have hrequire {b : Bool} {τ : Session} {t' : Store} (hloads : σ.Loads s) (hτ : Loaded s σ τ)
      (ht' : s.Untouched t') (hb : b = true ↔ σ.Administers s scope) :
      Acting.Ensures Store.setting (require b .insufficientPrivileges) τ t' ok err := by
    rw [Acting.ensures_require]
    by_cases hadmin : σ.Administers s scope
    · rw [if_pos (hb.mpr hadmin)]
      exact hok ⟨hloads, hadmin⟩ τ t' hτ ht'
    · rw [if_neg fun hbtrue => hadmin (hb.mp hbtrue)]
      exact herr (fun hclears => hadmin hclears.2) _ τ t' (.inr hτ) ht'
  cases scope with
  | organization uuid =>
    show Acting.Ensures Store.setting (demand (hasPermission _ (some uuid))) σ t ok err
    unfold demand hasPermission
    rw [Acting.ensures_bind, Acting.ensures_bind]
    refine load_decides ht (fun hloads τ t' hτ ht' => ?_) hunread
    rw [Acting.ensures_bind, Acting.ensures_get, Acting.ensures_pure, hτ.defaultOrganization?]
    exact hrequire hloads hτ ht' any_allowsOrganization_iff
  | project uuid o =>
    show Acting.Ensures Store.setting (demand _) σ t ok err
    unfold demand
    rw [Acting.ensures_bind, Acting.ensures_bind]
    refine load_decides ht (fun hloads τ t' hτ ht' => ?_) hunread
    rw [Acting.ensures_pure]
    exact hrequire hloads hτ ht' Iff.rfl

/-- A check that ends well says that the session administers the scope. -/
theorem checkAdministers_ensures {scope : Scope} {ok : Unit → Session → Store → Prop}
    (ht : s.Untouched t)
    (hok : ∀ τ t', Learned s σ τ → s.Untouched t' → σ.Administers s scope → ok () τ t')
    (herr : ∀ f τ t', Learned s σ τ → s.Untouched t' → err f τ t') :
    Acting.Ensures Store.setting (checkAdministers (some scope)) σ t ok err :=
  checkAdministers_decides ht (fun hclears τ t' hτ ht' => hok τ t' (.inr hτ) ht' hclears.2)
    fun _ => herr

end Session

namespace Change

variable {s t : Store} {σ : Session} {err : Fault → Session → Store → Prop}

/-- A batch passes its checks exactly when the session passes the check of every change. -/
theorem checkAll_decides {changes : List Change} {ok : Unit → Session → Store → Prop}
    (ht : s.Untouched t)
    (hok : (∀ c ∈ changes, σ.Clears s c.scope) → ∀ τ t', Session.Learned s σ τ →
      (∀ c ∈ changes, τ.Cleared c.scope) → s.Untouched t' → ok () τ t')
    (herr : ¬ (∀ c ∈ changes, σ.Clears s c.scope) → ∀ f τ t', Session.Learned s σ τ →
      s.Untouched t' → err f τ t') :
    Acting.Ensures Store.setting (checkAll changes) σ t ok err := by
  induction changes generalizing σ t with
  | nil => exact hok nofun σ t (.refl s σ) nofun ht
  | cons c rest ih =>
    simp only [List.forall_mem_cons] at hok herr
    rw [checkAll, Acting.ensures_bind]
    refine Session.checkAdministers_decides ht (fun hc τ t' hτ ht' => ?_)
      fun hc => herr fun hall => hc hall.1
    have hrest : (∀ c' ∈ rest, τ.Clears s c'.scope) ↔ ∀ c' ∈ rest, σ.Clears s c'.scope :=
      forall₂_congr fun c' _ => hτ.clears_iff hc.1 c'.scope
    refine ih ht' (fun hall υ t'' hυ hclears ht'' => ?_)
      fun hall f υ t'' hυ => herr (fun h => hall (hrest.mpr h.2)) f υ t'' (.trans (.inr hτ) hυ)
    have hcleared : υ.Cleared c.scope := ((hτ.learned hυ).cleared_iff c.scope).mpr hc.2
    exact hok ⟨hc, hrest.mp hall⟩ υ t'' (.inr (hτ.learned hυ)) ⟨hcleared, hclears⟩ ht''

/-- A batch passes its checks when the session administers the scope of every change. -/
theorem checkAll_ensures {changes : List Change} {ok : Unit → Session → Store → Prop}
    (ht : s.Untouched t)
    (hok : ∀ τ t', Session.Learned s σ τ → s.Untouched t' →
      (∀ c ∈ changes, σ.Administers s c.scope) → ok () τ t')
    (herr : ∀ f τ t', Session.Learned s σ τ → s.Untouched t' → err f τ t') :
    Acting.Ensures Store.setting (checkAll changes) σ t ok err :=
  checkAll_decides ht (fun hall τ t' hτ _ ht' => hok τ t' hτ ht' fun c hc => (hall c hc).2)
    fun _ => herr

end Change

end Entitlements
