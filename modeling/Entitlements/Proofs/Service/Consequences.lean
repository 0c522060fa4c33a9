import Entitlements.Proofs.Service.Toggle
import Entitlements.Proofs.Session.Answers

/-!
# What a change means for what is held

The grants are written by changes and read by sessions. After an added grant, a session that is
made anew finds what it would have found before, and what the grant supports. After a dropped one
it finds what some other grant supports, since one permission can be held in many ways. Whoever has
no benefit of the grant, every other permission and every scope out of its reach is not affected.
-/

namespace Entitlements

/-- Find out whether the caller has a permission in a scope, taken as it is given. -/
def Session.holds (p : Permission) (scope : Scope) : Acting Bool := do
  return (← load).allows p scope

/-- The question is about the permission in the scope. Without an identifier an organization is the
default one, and other references have to lead to a component that carries permissions. -/
def Inquiry.About (s : Store) (d : Organization) (p : Permission) (scope : Scope) :
    Inquiry → Prop
  | onOrganization q uuid? => q = p ∧ .organization ((given? uuid?).getD d.uuid) = scope
  | onProject q uuid => q = p ∧ s.projectScope? uuid = some scope
  | onComponent q key =>
    q = p ∧ ∃ c, s.components.find? (·.key == key) = some c ∧ s.projectScope? c.project = some scope
  | onComponentUuid q uuid =>
    q = p ∧ ∃ c ∈ s.components, c.uuid = uuid ∧ s.projectScope? c.project = some scope

namespace Store

/-- A session that was just made for the user, or for a visitor, answers yes. -/
def Affirms (s : Store) (u? : Option User) (a : Acting Bool) : Prop :=
  (Session.ofUser? u?).answer s a = .ok true

variable {s t : Store} {d : Organization} {u? : Option User} {user? : Option Int}
  {p : Permission} {scope : Scope} {g : Grant}

/-- A new session answers yes where the answer of a current session says so. -/
private theorem affirms_iff {a : Acting Bool} {P : Prop}
    (h : ∀ σ, Session.Current s u? σ →
      Acting.Ensures setting a σ s (fun b _ _ => b = true ↔ P) fun _ _ _ => False) :
    s.Affirms u? a ↔ P := by
  have hfresh := Session.current_ofUser? s u?
  rcases Session.answer_of_ensures (h _ hfresh) with ⟨b, hanswer, hb⟩ | ⟨_, _, hfalse⟩
  · rw [Affirms, hanswer, Except.ok.injEq]
    exact hb
  · exact hfalse.elim

theorem affirms_holds_iff (hd : s.defaultOrganization = .ok d) :
    s.Affirms u? (Session.holds p scope) ↔ s.Supported (u?.map (·.id)) p scope := by
  refine affirms_iff fun σ hσ => ?_
  unfold Session.holds
  rw [Acting.ensures_bind]
  refine hσ.load_ensures hd (.refl s) fun τ t' _ _ _ => ?_
  exact allows_snapshot_iff_supported

theorem affirms_ask_iff (hkeyed : (s.components.map (·.uuid)).Nodup)
    (hd : s.defaultOrganization = .ok d) {i : Inquiry} :
    s.Affirms u? i.ask ↔ i.Granted s d (u?.map (·.id)) :=
  affirms_iff fun _ hσ => hσ.ask_ensures hkeyed hd (.refl s) i fun _ _ _ hb _ _ => hb

/-- What the grants say to a question is whether they support what it is about. -/
theorem granted_iff_supported (hkeyed : (s.components.map (·.uuid)).Nodup) {i : Inquiry}
    (h : i.About s d p scope) : i.Granted s d user? ↔ s.Supported user? p scope := by
  have hproject {uuid : String} (huuid : s.projectScope? uuid = some scope) :
      s.SupportedOnProject user? p uuid ↔ s.Supported user? p scope := by
    rw [← allows?_projectScope?_iff hkeyed, huuid, Snapshot.allows?, Option.any_some]
    exact allows_snapshot_iff_supported
  cases i with
  | onOrganization q uuid? =>
    obtain ⟨rfl, rfl⟩ := h
    rfl
  | onProject q uuid =>
    obtain ⟨rfl, huuid⟩ := h
    exact hproject huuid
  | onComponent q key =>
    obtain ⟨rfl, c, hc, hscope⟩ := h
    simp [Inquiry.Granted, hc, hproject hscope]
  | onComponentUuid q uuid =>
    obtain ⟨rfl, c, hmem, rfl, hscope⟩ := h
    rw [← hproject hscope]
    constructor
    · rintro ⟨c', hmem', huuid, hsupported⟩
      obtain rfl : c' = c := List.inj_on_of_nodup_map hkeyed hmem' hmem huuid
      exact hsupported
    · intro hsupported
      exact ⟨c, hmem, rfl, hsupported⟩

/-- A new session says about a permission in a scope the same as what it has. -/
theorem affirms_ask_iff_holds (hkeyed : (s.components.map (·.uuid)).Nodup)
    (hd : s.defaultOrganization = .ok d) {i : Inquiry} (h : i.About s d p scope) :
    s.Affirms u? i.ask ↔ s.Affirms u? (Session.holds p scope) := by
  rw [affirms_ask_iff hkeyed hd, affirms_holds_iff hd, granted_iff_supported hkeyed h]

/-- Who has the benefit of a grant depends on who is a member of which group, and on nothing else
that is stored. -/
theorem supports_congr (h : t.members = s.members) :
    g.Supports t user? p scope ↔ g.Supports s user? p scope := by
  have hheld : g.HeldBy t user? ↔ g.HeldBy s user? := by
    unfold Grant.HeldBy
    rw [h]
  constructor
  · intro hg
    exact ⟨hheld.mp hg.held, hg.permission, hg.reaches⟩
  · intro hg
    exact ⟨hheld.mpr hg.held, hg.permission, hg.reaches⟩

/-- Adding or dropping a grant leaves everything but the grants as it was. -/
theorem besides_grants (h : ((Effect.grantAdded g).on s).SameData t ∨
      ((Effect.grantRemoved g).on s).SameData t) :
    ∃ grants journal events,
      t = { s with grants, journal, around := { s.around with events } } := by
  rcases h with ⟨journal, events, rfl⟩ | ⟨journal, events, rfl⟩
  · exact ⟨_, journal, events, rfl⟩
  · exact ⟨_, journal, events, rfl⟩

/-- After a grant was added, what is supported is what was supported before and what it supports. -/
theorem supported_of_grantAdded (h : ((Effect.grantAdded g).on s).SameData t) :
    t.Supported user? p scope ↔ s.Supported user? p scope ∨ g.Supports s user? p scope := by
  obtain ⟨journal, events, ht⟩ := h
  have hmembers : t.members = s.members := by rw [ht]; rfl
  have hgrants (g' : Grant) : g' ∈ t.grants ↔ g' ∈ s.grants ∨ g' = g := by
    rw [ht]
    exact mem_insertNew
  constructor
  · rintro ⟨g', hmem, hsupports⟩
    rw [supports_congr hmembers] at hsupports
    rcases (hgrants g').mp hmem with hold | rfl
    · exact .inl ⟨g', hold, hsupports⟩
    · exact .inr hsupports
  · rintro (⟨g', hold, hsupports⟩ | hsupports)
    · exact ⟨g', (hgrants g').mpr (.inl hold), (supports_congr hmembers).mpr hsupports⟩
    · exact ⟨g, (hgrants g).mpr (.inr rfl), (supports_congr hmembers).mpr hsupports⟩

/-- After a grant was dropped, what is supported is what some other grant supported before. -/
theorem supported_of_grantRemoved (h : ((Effect.grantRemoved g).on s).SameData t) :
    t.Supported user? p scope ↔ ∃ g' ∈ s.grants, g' ≠ g ∧ g'.Supports s user? p scope := by
  obtain ⟨journal, events, ht⟩ := h
  have hmembers : t.members = s.members := by rw [ht]; rfl
  have hgrants (g' : Grant) : g' ∈ t.grants ↔ g' ∈ s.grants ∧ g' ≠ g := by
    rw [ht]
    exact mem_removeAll
  simp only [Supported, hgrants, supports_congr hmembers, and_assoc]

/-- A grant that supports nothing here is not missed here. -/
theorem supported_iff_exists_ne (h : ¬ g.Supports s user? p scope) :
    s.Supported user? p scope ↔ ∃ g' ∈ s.grants, g' ≠ g ∧ g'.Supports s user? p scope := by
  constructor
  · rintro ⟨g', hmem, hsupports⟩
    refine ⟨g', hmem, ?_, hsupports⟩
    rintro rfl
    exact h hsupports
  · rintro ⟨g', hmem, _, hsupports⟩
    exact ⟨g', hmem, hsupports⟩

end Store

namespace Change

variable {s t : Store} {c : Change} {h : Holder} {d : Organization}

/-- A change that is answered to have been applied has added or dropped its grant. -/
theorem effect_of_applied (hc : c.target.holder? = some h)
    (happlied : s.run c.apply.run = (.ok .applied, t)) :
    c.operation = .add ∧ ((Effect.grantAdded (c.grantOf h)).on s).SameData t ∨
      c.operation = .remove ∧ ((Effect.grantRemoved (c.grantOf h)).on s).SameData t := by
  have hend := (Store.ensures_setting_iff _ _ _).mp (apply_ensures hc s)
  rw [happlied] at hend
  obtain ⟨e, he, _, hsame⟩ := hend
  cases hop : c.operation with
  | add =>
    obtain rfl : .grantAdded (c.grantOf h) = e := by simpa [hop, Operation.effect?] using he
    exact .inl ⟨rfl, hsame⟩
  | remove =>
    obtain rfl : .grantRemoved (c.grantOf h) = e := by simpa [hop, Operation.effect?] using he
    exact .inr ⟨rfl, hsame⟩
  | other name => simp [hop, Operation.effect?] at he

/-- An applied change makes its grant count, or makes only the other grants count. -/
private theorem supported_of_applied (hc : c.target.holder? = some h)
    (happlied : s.run c.apply.run = (.ok .applied, t)) (user? : Option Int) (p : Permission)
    (scope : Scope) :
    (c.operation = .add → (t.Supported user? p scope ↔
      s.Supported user? p scope ∨ (c.grantOf h).Supports s user? p scope)) ∧
    (c.operation = .remove → (t.Supported user? p scope ↔
      ∃ g ∈ s.grants, g ≠ c.grantOf h ∧ g.Supports s user? p scope)) := by
  rcases effect_of_applied hc happlied with ⟨hop, hsame⟩ | ⟨hop, hsame⟩
  · exact ⟨fun _ => Store.supported_of_grantAdded hsame, by simp [hop]⟩
  · exact ⟨by simp [hop], fun _ => Store.supported_of_grantRemoved hsame⟩

/-- What a change for a holder means for a permission in a scope, as held by a user or by
visitors, from one store to the next. -/
structure Means (c : Change) (h : Holder) (d : Organization) (u? : Option User)
    (p : Permission) (scope : Scope) (s t : Store) : Prop where
  operation : c.operation = .add ∨ c.operation = .remove
  added : c.operation = .add →
    (t.Affirms u? (Session.holds p scope) ↔ s.Affirms u? (Session.holds p scope) ∨
      (c.grantOf h).Supports s (u?.map (·.id)) p scope)
  removed : c.operation = .remove →
    (t.Affirms u? (Session.holds p scope) ↔
      ∃ g ∈ s.grants, g ≠ c.grantOf h ∧ g.Supports s (u?.map (·.id)) p scope)
  kept : ¬ (c.grantOf h).HeldBy s (u?.map (·.id)) ∨ p ≠ c.permission ∨
      ¬ (c.grantOf h).Reaches scope →
    (t.Affirms u? (Session.holds p scope) ↔ s.Affirms u? (Session.holds p scope))
  asked : ∀ i : Inquiry, i.About s d p scope →
    (s.Affirms u? i.ask ↔ s.Affirms u? (Session.holds p scope)) ∧
      (t.Affirms u? i.ask ↔ t.Affirms u? (Session.holds p scope))

/-- A change that is applied means what its grant means: added, it gives what it supports; dropped,
it leaves what the other grants support; and where it supports nothing everything stays. -/
theorem means_of_applied (hkeyed : (s.components.map (·.uuid)).Nodup)
    (hd : s.defaultOrganization = .ok d) (hc : c.target.holder? = some h)
    (happlied : s.run c.apply.run = (.ok .applied, t)) (u? : Option User) (p : Permission)
    (scope : Scope) : c.Means h d u? p scope s t := by
  have heffect := effect_of_applied hc happlied
  obtain ⟨grants, journal, events, ht⟩ := Store.besides_grants (heffect.imp (·.2) (·.2))
  have hkeyed' : (t.components.map (·.uuid)).Nodup := by rwa [ht]
  have hd' : t.defaultOrganization = .ok d := by rwa [ht]
  have habout {i : Inquiry} (hi : i.About s d p scope) : i.About t d p scope := by
    subst ht
    cases i <;> exact hi
  have hsupported := supported_of_applied hc happlied (u?.map (·.id)) p scope
  have hoperation : c.operation = .add ∨ c.operation = .remove := heffect.imp (·.1) (·.1)
  constructor
  case operation => exact hoperation
  case added =>
    rw [Store.affirms_holds_iff hd, Store.affirms_holds_iff hd']
    exact hsupported.1
  case removed =>
    rw [Store.affirms_holds_iff hd']
    exact hsupported.2
  case kept =>
    intro hnot
    have hsupports : ¬ (c.grantOf h).Supports s (u?.map (·.id)) p scope := by
      intro hsupports
      rcases hnot with hheld | hp | hreach
      · exact hheld hsupports.held
      · exact hp hsupports.permission.symm
      · exact hreach hsupports.reaches
    rw [Store.affirms_holds_iff hd, Store.affirms_holds_iff hd']
    rcases hoperation with hop | hop
    · rw [hsupported.1 hop, or_iff_left hsupports]
    · rw [hsupported.2 hop, Store.supported_iff_exists_ne hsupports]
  case asked =>
    intro i hi
    exact ⟨Store.affirms_ask_iff_holds hkeyed hd hi,
      Store.affirms_ask_iff_holds hkeyed' hd' (habout hi)⟩

/-- In the sample the user `alice` comes to administer the default organization. -/
theorem means_of_applied_sample :
    let s := Store.sample default
    let d : Organization := ⟨Store.sampleDefault, "default-organization", "Default"⟩
    let c : Change := ⟨.add, Store.sampleDefault, Permission.administer, none, .user 2 "alice"⟩
    let t := (s.run c.apply.run).2
    ((s.components.map (·.uuid)).Nodup ∧ s.defaultOrganization = .ok d ∧
        c.target.holder? = some (.user 2 "alice") ∧ s.run c.apply.run = (.ok .applied, t)) ∧
      c.Means (.user 2 "alice") d (s.userByLogin? "alice") Permission.administer
        (.organization Store.sampleDefault) s t := by
  intro s d c t
  have hkeyed : (s.components.map (·.uuid)).Nodup := by decide
  have hd : s.defaultOrganization = .ok d := rfl
  have happlied : s.run c.apply.run = (.ok .applied, t) := rfl
  exact ⟨⟨hkeyed, hd, rfl, happlied⟩, means_of_applied hkeyed hd rfl happlied _ _ _⟩

end Change

end Entitlements
