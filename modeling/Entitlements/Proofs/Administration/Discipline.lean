import Entitlements.Proofs.Service.Reads

/-!
# The discipline of grant changes

Grants are written only while their organization is locked, and the permission to administer an
organization is taken away only right after a count that found somebody who keeps it. This is a
rule about the order of requests, and it says nothing of who answers them. Every batch of changes
and every command of the service keeps it, whatever is answered.
-/

namespace Entitlements

variable {α β : Type}

/-- A count found somebody who administers an organization without what one user or one group is
granted. -/
structure Assurance where
  /-- The organization. -/
  organization : String
  /-- The user whose grants were left aside. -/
  exceptUser : Option Int
  /-- The group whose grants were left aside. -/
  exceptGroup : Option Int
  deriving DecidableEq, Repr

/-- The count left aside what the grant gives. -/
def Assurance.Covers (a : Assurance) (g : Grant) : Prop :=
  a.organization = g.organization ∧
    match g.holder with
    | .user id _ => a.exceptUser = some id
    | .group id => a.exceptGroup = some id
    | .anyone => True

/-- The grant makes somebody administer its organization. -/
def Grant.MakesAdministrators (g : Grant) : Prop :=
  g.permission = Permission.administer ∧ g.scope.project? = none ∧ g.holder ≠ .anyone

/-- What the requests made so far allow. -/
structure Standing where
  /-- The organizations locked in the unit of work. -/
  held : List String
  /-- What the request made last found, if it was a count in a locked organization. -/
  assurance? : Option Assurance

namespace Standing

/-- Nothing is locked and nothing is known. -/
def outset : Standing := ⟨[], none⟩

/-- A request and its answer change what is allowed. -/
def after (st : Standing) : (r : Request) → r.Answer → Standing
  | .begin, _ | .complete, _ | .abandon _, _ => outset
  | .query (.lockOrganization o), .ok _ => ⟨o :: st.held, none⟩
  | .query (.countAdministrators o p user group), .ok n =>
    ⟨st.held,
      if o ∈ st.held ∧ p = Permission.administer ∧ n ≠ 0 then some ⟨o, user, group⟩ else none⟩
  | _, _ => ⟨st.held, none⟩

/-- An assurance is about an organization that is locked. -/
theorem organization_mem_held_of_after (st : Standing) {r : Request} {answer : r.Answer}
    {a : Assurance} (h : (st.after r answer).assurance? = some a) :
    a.organization ∈ (st.after r answer).held := by
  unfold after at h ⊢
  split at h
  · cases h
  · cases h
  · cases h
  · cases h
  · obtain ⟨⟨ho, -⟩, rfl⟩ : _ ∧ _ = a := by simpa using h
    exact ho
  · cases h

/-- Nothing is locked but by a lock. -/
theorem mem_held_of_after (st : Standing) {r : Request} {answer : r.Answer} {o : String}
    (hr : ∀ o', r ≠ .query (.lockOrganization o')) (h : o ∈ (st.after r answer).held) :
    o ∈ st.held := by
  unfold after at h
  split at h
  · cases h
  · cases h
  · cases h
  · exact absurd rfl (hr _)
  · exact h
  · exact h

/-- The request keeps the discipline. -/
def Permits (st : Standing) : Request → Prop
  | .query (.insertGrant g) => g.organization ∈ st.held
  | .query (.deleteGrant g) =>
    g.organization ∈ st.held ∧
      (g.MakesAdministrators → ∃ a, st.assurance? = some a ∧ a.Covers g)
  | _ => True

end Standing

/-- The discipline as a setting: whatever is permitted can be answered in any way. -/
def discipline : Setting Standing where
  permits := Standing.Permits
  answers st r a st' := st' = st.after r a

/-- Nothing is asked of those who leave the grants alone. -/
theorem Standing.permits_of_sparesGrants (st : Standing) (r : Request)
    (h : (Setting.asking Query.SparesGrants).permits () r) : st.Permits r := by
  cases r with
  | query q =>
    cases q with
    | insertGrant | deleteGrant => exact h.elim
    | _ => trivial
  | _ => trivial

namespace Work

/-- The work keeps the discipline from a standing. -/
def ObeysFrom (st : Standing) (w : Work α) : Prop :=
  Ensures discipline w st (fun _ _ => True) fun _ _ => True

theorem ObeysFrom.bind {st : Standing} {w : Work α} {k : α → Work β} (hw : ObeysFrom st w)
    (hk : ∀ a st', ObeysFrom st' (k a)) : ObeysFrom st (w >>= k) := by
  unfold ObeysFrom
  rw [ensures_bind]
  exact Ensures.mono hw (fun a st' _ => hk a st') fun _ _ _ => trivial

/-- A permitted query and its answer decide on the standing of what follows. -/
theorem ObeysFrom.bind_query {st : Standing} {q : Query} {k : q.Answer → Work α}
    (hq : st.Permits (.query q)) (hk : ∀ a, ObeysFrom (st.after (.query q) (.ok a)) (k a)) :
    ObeysFrom st (Query.ask q >>= k) := by
  unfold ObeysFrom
  rw [ensures_bind, ensures_query]
  refine ⟨hq, ?_⟩
  rintro (f | a) st' rfl
  · trivial
  · exact hk a

theorem ObeysFrom.record_pure (st : Standing) (e : Event) (a : α) :
    ObeysFrom st (do e.record; return a) := ⟨trivial, fun _ _ _ => trivial⟩

end Work

namespace Change

/-- A change for a group is for a group or for everyone, and for no user. -/
def WellFormed (c : Change) : Prop := ∀ id login, c.target ≠ .group (.user id login)

/-- A grant of a change that makes administrators is what the change is careful about. -/
theorem isGlobalAdministration_of_makesAdministrators {c : Change} {h : Holder}
    (hg : (c.grantOf h).MakesAdministrators) : c.isGlobalAdministration = true := by
  obtain ⟨hp, hs, -⟩ := hg
  have hproject : c.project = none := by simpa [grantOf] using hs
  simp [isGlobalAdministration, isGlobal, hproject, show c.permission = _ from hp]

/-- Where somebody is left to administer the organization, the count assures of it. -/
theorem bind_leavesNobody_obeysFrom (c : Change) (user group : Option Int) {st : Standing}
    {k : Bool → Work α} (hst : c.organization ∈ st.held)
    (hk : ∀ b a?, (b = false → c.isGlobalAdministration = true →
      a? = some ⟨c.organization, user, group⟩) → Work.ObeysFrom ⟨st.held, a?⟩ (k b)) :
    Work.ObeysFrom st (c.leavesNobody user group >>= k) := by
  unfold leavesNobody
  by_cases h : c.isGlobalAdministration = true
  · rw [if_pos h, bind_assoc]
    refine .bind_query trivial fun n => hk (n == 0) _ fun hn _ => ?_
    exact if_pos ⟨hst, rfl, by simpa using hn⟩
  · rw [if_neg h]
    exact hk false st.assurance? fun _ h' => absurd h' h

theorem applyToUser_obeysFrom (c : Change) (id : Int) (login : String) (st : Standing) :
    Work.ObeysFrom st (c.applyToUser id login) := by
  unfold applyToUser
  refine .bind_query trivial fun _ => .bind_query trivial fun existing => ?_
  have hheld : c.organization ∈ c.organization :: st.held := List.mem_cons_self
  cases c.operation with
  | other name => exact trivial
  | add =>
    dsimp only
    split
    · exact .record_pure ..
    · exact .bind_query hheld fun _ => .record_pure ..
  | remove =>
    dsimp only
    split
    · exact .record_pure ..
    · refine bind_leavesNobody_obeysFrom c (some id) none hheld fun b a? ha => ?_
      cases b with
      | true => exact .record_pure ..
      | false =>
        refine .bind_query ⟨hheld, fun hg => ?_⟩ fun _ => .record_pure ..
        exact ⟨_, ha rfl (isGlobalAdministration_of_makesAdministrators hg), rfl, rfl⟩

theorem applyToGroup_obeysFrom (c : Change) {holder : Holder}
    (h : ∀ id login, holder ≠ .user id login) (st : Standing) :
    Work.ObeysFrom st (c.applyToGroup holder) := by
  unfold applyToGroup
  refine .bind_query trivial fun _ => .bind_query trivial fun existing => ?_
  have hheld : c.organization ∈ c.organization :: st.held := List.mem_cons_self
  cases c.operation with
  | other name => exact trivial
  | add =>
    dsimp only
    split
    · exact trivial
    · split
      · exact trivial
      · exact .bind_query hheld fun _ => .record_pure ..
  | remove =>
    dsimp only
    split
    · exact trivial
    · cases holder with
      | user id login => exact absurd rfl (h id login)
      | anyone =>
        -- Nobody administers anything as part of everyone, so no count is due.
        exact .bind_query ⟨hheld, fun hg => absurd rfl hg.2.2⟩ fun _ => .record_pure ..
      | group id =>
        refine bind_leavesNobody_obeysFrom c none (some id) hheld fun b a? ha => ?_
        cases b with
        | true => exact .record_pure ..
        | false =>
          refine .bind_query ⟨hheld, fun hg => ?_⟩ fun _ => .record_pure ..
          exact ⟨_, ha rfl (isGlobalAdministration_of_makesAdministrators hg), rfl, rfl⟩

theorem apply_obeysFrom {c : Change} (hc : c.WellFormed) (st : Standing) :
    Work.ObeysFrom st c.apply := by
  unfold apply
  cases ht : c.target with
  | user id login => exact applyToUser_obeysFrom c id login st
  | group holder =>
    refine applyToGroup_obeysFrom c (fun id login h => hc id login ?_) st
    rw [ht, h]
  | nobody => exact .bind_query trivial fun _ => trivial

theorem applyOrFail_obeysFrom {c : Change} (hc : c.WellFormed) (st : Standing) :
    Work.ObeysFrom st c.applyOrFail := by
  unfold applyOrFail
  split
  next => exact trivial
  next =>
    refine (apply_obeysFrom hc st).bind fun outcome _ => ?_
    cases outcome <;> trivial

/-- A batch keeps the discipline from one change to the next, also where one fails. -/
theorem applyAll_obeysFrom {changes : List Change} (hc : ∀ c ∈ changes, c.WellFormed)
    (st : Standing) : Work.ObeysFrom st (applyAll changes) := by
  induction changes generalizing st with
  | nil => exact trivial
  | cons c rest ih =>
    refine (applyOrFail_obeysFrom (hc c List.mem_cons_self) st).bind fun outcome st' => ?_
    exact (ih (fun c' h => hc c' (List.mem_cons_of_mem c h)) st').bind fun _ _ => trivial

end Change

namespace Acting

/-- Whoever acts so keeps the discipline from wherever it starts. -/
def Disciplined (a : Acting α) : Prop :=
  ∀ σ st, Ensures discipline a σ st (fun _ _ _ => True) fun _ _ _ => True

theorem Disciplined.of_asksOnly {a : Acting α} (h : AsksOnly Query.SparesGrants a) :
    Disciplined a := by
  intro σ st
  have hp : (a.run.run σ).AsksOnly Query.SparesGrants :=
    Program.Ensures.mono (h σ) fun _ _ _ => trivial
  refine Program.Ensures.mono (hp.ensures Standing.permits_of_sparesGrants st) ?_
  rintro ⟨f | a, τ⟩ _ _ <;> trivial

theorem Disciplined.bind {a : Acting α} {k : α → Acting β} (ha : Disciplined a)
    (hk : ∀ b, Disciplined (k b)) : Disciplined (a >>= k) := by
  intro σ st
  rw [ensures_bind]
  exact (ha σ st).mono (fun b τ st' _ => hk b τ st') fun _ _ _ _ => trivial

theorem Disciplined.map {a : Acting α} (f : α → β) (ha : Disciplined a) :
    Disciplined (f <$> a) := by
  intro σ st
  rw [ensures_map]
  exact ha σ st

/-- A unit of work starts with nothing allowed, whatever was allowed before. -/
theorem Disciplined.transaction {w : Work α} (h : w.ObeysFrom .outset) :
    Disciplined (Session.lift (transaction w)) := by
  intro σ st
  rw [ensures_lift, Work.ensures_transaction]
  refine ⟨trivial, ?_⟩
  rintro u st' rfl
  refine Work.Ensures.mono h (fun a st' _ => ⟨trivial, fun c st'' _ => ?_⟩)
    fun f st' _ => ⟨trivial, fun _ _ _ => trivial⟩
  cases c <;> trivial

end Acting

theorem Change.applyBatch_disciplined {changes : List Change}
    (hc : ∀ c ∈ changes, c.WellFormed) : (applyBatch changes).Disciplined :=
  .bind (.of_asksOnly (checkAll_reads changes).sparesGrants) fun _ =>
    .transaction (applyAll_obeysFrom hc .outset)

namespace Service

theorem applyOne_disciplined {c : Change} (hc : c.WellFormed) : (applyOne c).Disciplined := by
  have hbatch : ∀ c' ∈ [c], c'.WellFormed := by
    intro c' h
    rw [List.mem_singleton.mp h]
    exact hc
  refine .bind (Change.applyBatch_disciplined hbatch) fun outcomes => ?_
  cases outcomes <;> exact fun _ _ => trivial

theorem changeUserPermission_disciplined (operation : Operation) (login : String)
    (permission : Permission) (projectId? projectKey? organizationKey? : Option String) :
    (changeUserPermission operation login permission projectId? projectKey?
      organizationKey?).Disciplined := by
  refine .bind (.of_asksOnly (.lift (.transaction ?_))) fun _ => ?_
  · refine .bind (Lookup.user_reads _).sparesGrants fun _ =>
      .bind (Lookup.project?_reads _ _).sparesGrants fun project? => ?_
    cases project? with
    | some project => exact .pure _
    | none => exact .bind (Lookup.organization_reads _).sparesGrants fun _ => .pure _
  · exact .bind (.of_asksOnly (.orRaise _)) fun _ => applyOne_disciplined fun _ _ => nofun

theorem changeGroupPermission_disciplined (operation : Operation) (permission : Permission)
    (groupId? : Option Int) (groupName? projectId? projectKey? organizationKey? : Option String) :
    (changeGroupPermission operation permission groupId? groupName? projectId? projectKey?
      organizationKey?).Disciplined := by
  refine .bind (.of_asksOnly (.lift (.transaction ?_))) fun (o, group?, project?) => ?_
  · exact .bind (Lookup.group_reads _ _ _).sparesGrants fun _ =>
      .bind (Lookup.project?_reads _ _).sparesGrants fun _ => .pure _
  · refine .bind (.of_asksOnly (.orRaise _)) fun _ => .bind (.of_asksOnly (.orRaise _)) fun _ =>
      applyOne_disciplined fun id login => ?_
    cases group? <;> exact nofun

/-- No command of the service breaks the discipline. -/
theorem Command.run_disciplined (c : Command) : c.run.Disciplined := by
  cases c with
  | changeUserPermission => exact .map _ (changeUserPermission_disciplined _ _ _ _ _ _)
  | changeGroupPermission => exact .map _ (changeGroupPermission_disciplined _ _ _ _ _ _ _)
  | createTemplate => exact .map _ (.of_asksOnly (createTemplate_sparesGrants _ _ _ _))
  | removeUserFromTemplate =>
    exact .bind (.of_asksOnly (removeUserFromTemplate_sparesGrants _ _ _ _ _)) fun _ _ _ => trivial
  | templateGroups => exact .map _ (.of_asksOnly (templateGroups_reads _ _ _ _ _ _).sparesGrants)
  | addUserToGroup => exact .map _ (.of_asksOnly (addUserToGroup_sparesGrants _ _ _ _))
  | searchGroups => exact .map _ (.of_asksOnly (searchGroups_reads _ _ _).sparesGrants)
  | searchMyProjects => exact .map _ (.of_asksOnly (searchMyProjects_reads _ _).sparesGrants)
  | unsetRoot => exact .map _ (.of_asksOnly (unsetRoot_sparesGrants _))

end Service

end Entitlements
