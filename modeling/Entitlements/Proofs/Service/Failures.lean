import Entitlements.Proofs.Program.Preserves
import Entitlements.Proofs.Service.Verdict
import Entitlements.Service.Command

/-!
# Failed commands

A store in memory undoes nothing, so a command that fails has to fail before it writes. Every
command reads and checks first; its single write comes last, and on a store in memory neither the
write nor anything after it can fail. A failed command has at most locked an organization, counted
units of work and recorded events.
-/

namespace Entitlements

variable {α β : Type}

/-- The query changes nothing that is stored. It may lock. -/
def Query.SparesData : Query → Prop
  | .setRoot .. | .addMember .. | .insertGrant _ | .deleteGrant _ | .insertTemplate _
  | .deleteTemplateGrant .. => False
  | _ => True

theorem Query.Reads.sparesData {q : Query} (h : q.Reads) : q.SparesData := by
  cases q with
  | setRoot | addMember | insertGrant | deleteGrant | insertTemplate | deleteTemplateGrant =>
    exact h.elim
  | _ => trivial

theorem Work.AsksOnly.sparesData {w : Work α} (h : AsksOnly Query.Reads w) :
    AsksOnly Query.SparesData w := h.mono fun _ => Query.Reads.sparesData

theorem Acting.AsksOnly.sparesData {a : Acting α} (h : AsksOnly Query.Reads a) :
    AsksOnly Query.SparesData a := h.mono fun _ => Query.Reads.sparesData

namespace Store

variable {s t : Store}

/-- Only queries that write change what is stored. -/
theorem Unwritten.serve {r : Request} (h : s.Unwritten t)
    (hr : (Setting.asking Query.SparesData).permits () r) : s.Unwritten (Store.serve r t).2 := by
  obtain ⟨_, _, _, _, rfl⟩ := h
  cases r with
  | query q =>
    cases q with
    | setRoot | addMember | insertGrant | deleteGrant | insertTemplate | deleteTemplateGrant =>
      exact hr.elim
    | _ => exact ⟨_, _, _, _, rfl⟩
  | _ => exact ⟨_, _, _, _, rfl⟩

theorem Unwritten.allows (s : Store) {r : Request}
    (hr : (Setting.asking Query.SparesData).permits () r) : setting.Allows s.Unwritten r := by
  intro t ht
  refine ⟨trivial, ?_⟩
  intro a u ha
  obtain ⟨rfl, rfl⟩ := Prod.mk.inj ha
  exact ht.serve hr

end Store

namespace Work

variable {s t : Store} {ok : α → Store → Prop}

/-- After work that does not write, what comes next finds the same data. -/
theorem ensures_bind_of_sparesData {w : Work β} {k : β → Work α} (ht : s.Unwritten t)
    (hw : AsksOnly Query.SparesData w)
    (hk : ∀ b u, s.Unwritten u → Ensures Store.setting (k b) u ok fun _ v => s.Unwritten v) :
    Ensures Store.setting (w >>= k) t ok fun _ v => s.Unwritten v := by
  have hw' : Preserves Store.setting s.Unwritten w :=
    hw.preserves fun _ => Store.Unwritten.allows s
  rw [ensures_bind]
  exact (hw' t ht).mono (fun b u hu => hk b u hu) fun _ _ hu => hu

end Work

namespace Change

variable {s t : Store} {c : Change}

/-- A change of a batch that makes the batch fail has written nothing itself. -/
theorem applyOrFail_unwritten (ht : s.Unwritten t) :
    Work.Ensures Store.setting c.applyOrFail t (fun _ _ => True) fun _ u => s.Unwritten u := by
  refine (c.applyOrFail_decides t).mono (fun _ _ _ => trivial) fun _ u hend => ht.trans ?_
  rcases hend.2 with rfl | hlocked
  · exact .refl u
  · exact hlocked.unwritten

end Change

namespace Acting

variable {s : Store}

/-- Whoever acts so never fails on a store in memory. -/
def NeverFails (a : Acting α) : Prop :=
  ∀ σ s, Ensures Store.setting a σ s (fun _ _ _ => True) fun _ _ _ => False

/-- Whoever fails at acting so has written nothing to the store in memory. -/
def FailsUnwritten (a : Acting α) : Prop :=
  ∀ σ s, Ensures Store.setting a σ s (fun _ _ _ => True) fun _ _ t => s.Unwritten t

theorem NeverFails.pure (a : α) : NeverFails (pure a) := fun _ _ => trivial

theorem NeverFails.bind {a : Acting α} {k : α → Acting β} (ha : NeverFails a)
    (hk : ∀ b, NeverFails (k b)) : NeverFails (a >>= k) := by
  intro σ s
  rw [ensures_bind]
  exact (ha σ s).mono (fun b τ t _ => hk b τ t) fun _ _ _ h => h

theorem NeverFails.get : NeverFails (get : Acting Session) := fun _ _ => trivial

theorem NeverFails.ask (r : Request) : NeverFails r.ask :=
  fun _ _ => (ensures_setting_ask r).mpr trivial

theorem NeverFails.record (e : Event) : NeverFails e.record := .ask (.log e)

/-- A query that writes is always answered. -/
theorem NeverFails.query {q : Query} (hq : ¬ q.SparesData) : NeverFails (Query.ask q) := by
  intro σ s
  rw [ensures_setting_query]
  cases q with
  | setRoot | addMember | insertGrant | deleteGrant | insertTemplate | deleteTemplateGrant =>
    trivial
  | _ => exact absurd trivial hq

theorem NeverFails.failsUnwritten {a : Acting α} (h : NeverFails a) : FailsUnwritten a :=
  fun σ s => (h σ s).mono (fun _ _ _ _ => trivial) fun _ _ _ hf => hf.elim

/-- Acting that does not write leaves the same data, however it ends. -/
theorem AsksOnly.ensures_unwritten {a : Acting α} (h : AsksOnly Query.SparesData a) (σ : Session)
    (s : Store) : Ensures Store.setting a σ s (fun _ _ t => s.Unwritten t)
      fun _ _ t => s.Unwritten t := by
  have ha : Preserves Store.setting s.Unwritten a :=
    h.preserves fun _ => Store.Unwritten.allows s
  exact ha σ s (.refl s)

theorem AsksOnly.failsUnwritten {a : Acting α} (h : AsksOnly Query.SparesData a) :
    FailsUnwritten a :=
  fun σ s => (h.ensures_unwritten σ s).mono (fun _ _ _ _ => trivial) fun _ _ _ ht => ht

/-- What is done before anything is written can fail. -/
theorem FailsUnwritten.bind {a : Acting α} {k : α → Acting β} (ha : AsksOnly Query.SparesData a)
    (hk : ∀ b, FailsUnwritten (k b)) : FailsUnwritten (a >>= k) := by
  intro σ s
  rw [ensures_bind]
  refine (ha.ensures_unwritten σ s).mono (fun b τ t ht => ?_) fun _ _ _ ht => ht
  exact (hk b τ t).mono (fun _ _ _ _ => trivial) fun _ _ _ hu => ht.trans hu

/-- What is done after it was written cannot. -/
theorem FailsUnwritten.bind_neverFails {a : Acting α} {k : α → Acting β} (ha : FailsUnwritten a)
    (hk : ∀ b, NeverFails (k b)) : FailsUnwritten (a >>= k) := by
  intro σ s
  rw [ensures_bind]
  exact (ha σ s).mono (fun b τ t _ => (hk b τ t).mono (fun _ _ _ _ => trivial)
    fun _ _ _ hf => hf.elim) fun _ _ _ ht => ht

theorem FailsUnwritten.map {a : Acting α} (f : α → β) (ha : FailsUnwritten a) :
    FailsUnwritten (f <$> a) := by
  rw [map_eq_pure_bind]
  exact ha.bind_neverFails fun b => .pure (f b)

/-- On a store in memory a unit of work fails only where the work in it does. -/
theorem FailsUnwritten.transaction {a : Acting α} (ha : FailsUnwritten a) :
    FailsUnwritten (transaction a) := by
  intro σ s
  rw [ensures_setting_transaction]
  exact (ha σ s).mono (fun _ _ _ _ => trivial) fun _ _ t ht => ht.trans ⟨_, _, _, _, rfl⟩

end Acting

namespace Service

open Acting

theorem applyOne_failsUnwritten (c : Change) : FailsUnwritten (applyOne c) := by
  have hbatch : FailsUnwritten (Change.applyBatch [c]) := by
    refine .bind (Change.checkAll_reads _).sparesData fun _ σ s => ?_
    rw [ensures_lift, Work.ensures_setting_transaction, Change.applyAll, Work.ensures_bind]
    exact (Change.applyOrFail_unwritten (.refl s)).mono (fun _ _ _ => trivial)
      fun _ _ hu => hu.trans ⟨_, _, _, _, rfl⟩
  refine hbatch.bind_neverFails fun outcomes => ?_
  cases outcomes <;> exact .pure _

theorem changeUserPermission_failsUnwritten (operation : Operation) (login : String)
    (permission : Permission) (projectId? projectKey? organizationKey? : Option String) :
    FailsUnwritten (changeUserPermission operation login permission projectId? projectKey?
      organizationKey?) := by
  refine .bind (.lift (.transaction ?_)) fun _ => .bind (.orRaise _) fun _ =>
    applyOne_failsUnwritten _
  refine .bind (Lookup.user_reads _).sparesData fun _ =>
    .bind (Lookup.project?_reads _ _).sparesData fun project? => ?_
  cases project? with
  | some project => exact .pure _
  | none => exact .bind (Lookup.organization_reads _).sparesData fun _ => .pure _

theorem changeGroupPermission_failsUnwritten (operation : Operation) (permission : Permission)
    (groupId? : Option Int) (groupName? projectId? projectKey? organizationKey? : Option String) :
    FailsUnwritten (changeGroupPermission operation permission groupId? groupName? projectId?
      projectKey? organizationKey?) := by
  refine .bind (.lift (.transaction ?_)) fun _ => .bind (.orRaise _) fun _ =>
    .bind (.orRaise _) fun _ => applyOne_failsUnwritten _
  exact .bind (Lookup.group_reads _ _ _).sparesData fun _ =>
    .bind (Lookup.project?_reads _ _).sparesData fun _ => .pure _

theorem createTemplate_failsUnwritten
    (name description? keyPattern? organizationKey? : Option String) :
    FailsUnwritten (createTemplate name description? keyPattern? organizationKey?) := by
  refine .bind Session.checkSignedIn_asksOnly fun _ =>
    FailsUnwritten.bind_neverFails (.transaction ?_) fun _ => .bind (.record _) fun _ => .pure _
  refine .bind (.lift (Lookup.organization_reads _).sparesData) fun o =>
    .bind (Session.checkAdministers_reads _).sparesData fun _ => ?_
  dsimp only
  split
  · exact (AsksOnly.raise_bind _ _).failsUnwritten
  · refine .bind (.liftExcept _) fun _ => .bind (.query trivial) fun found => ?_
    split
    · exact (AsksOnly.raise_bind _ _).failsUnwritten
    · exact (NeverFails.bind (.ask _) fun _ => .bind (.ask _) fun _ => .bind (.query id) fun _ =>
        .pure _).failsUnwritten

theorem removeUserFromTemplate_failsUnwritten (login : String) (permission : Permission)
    (templateId? templateName? organizationKey? : Option String) :
    FailsUnwritten
      (removeUserFromTemplate login permission templateId? templateName? organizationKey?) := by
  refine .bind Session.checkSignedIn_asksOnly fun _ => .bind (.orRaise _) fun _ =>
    FailsUnwritten.bind_neverFails (.transaction ?_) fun _ => .record _
  exact .bind (.lift (Lookup.template_reads _ _ _).sparesData) fun _ =>
    .bind (Session.checkAdministers_reads _).sparesData fun _ =>
    .bind (.lift (Lookup.user_reads _).sparesData) fun _ =>
    (NeverFails.bind (.query id) fun _ => .pure _).failsUnwritten

theorem addUserToGroup_failsUnwritten (login : String) (groupId? : Option Int)
    (groupName? organizationKey? : Option String) :
    FailsUnwritten (addUserToGroup login groupId? groupName? organizationKey?) := by
  refine .bind Session.checkSignedIn_asksOnly fun _ =>
    FailsUnwritten.bind_neverFails (.transaction ?_) fun joined? => ?_
  · refine .bind (.lift (Lookup.group_reads _ _ _).sparesData) fun (o, group?) =>
      .bind (Session.checkAdministers_reads _).sparesData fun _ => ?_
    cases group? with
    | none => exact (AsksOnly.raise _).failsUnwritten
    | some group =>
      refine .bind (.lift (Lookup.user_reads _).sparesData) fun _ => .bind (.query trivial)
        fun there => ?_
      cases there with
      | true => exact (NeverFails.pure _).failsUnwritten
      | false => exact (NeverFails.bind (.query id) fun _ => .pure _).failsUnwritten
  · cases joined? with
    | none => exact .pure _
    | some joined => exact .bind (.record _) fun _ => .pure _

theorem unsetRoot_failsUnwritten (login? : Option String) : FailsUnwritten (unsetRoot login?) := by
  refine .bind Session.checkRoot_reads.sparesData fun _ => ?_
  cases given? login? with
  | none => exact (AsksOnly.raise _).failsUnwritten
  | some login =>
    refine FailsUnwritten.bind_neverFails
      (.transaction (NeverFails.query id).failsUnwritten) fun changed => ?_
    cases changed with
    | true => exact .bind .get fun _ => .bind (.record _) fun _ => .pure _
    | false => exact .pure _

/-- A command that fails has written nothing. -/
theorem Command.run_failsUnwritten (c : Command) : FailsUnwritten c.run := by
  cases c with
  | changeUserPermission => exact .map _ (changeUserPermission_failsUnwritten _ _ _ _ _ _)
  | changeGroupPermission => exact .map _ (changeGroupPermission_failsUnwritten _ _ _ _ _ _ _)
  | createTemplate => exact .map _ (createTemplate_failsUnwritten _ _ _ _)
  | removeUserFromTemplate =>
    exact FailsUnwritten.bind_neverFails (removeUserFromTemplate_failsUnwritten _ _ _ _ _)
      fun _ => .pure _
  | templateGroups => exact .map _ (templateGroups_reads _ _ _ _ _ _).sparesData.failsUnwritten
  | addUserToGroup => exact .map _ (addUserToGroup_failsUnwritten _ _ _ _)
  | searchGroups => exact .map _ (searchGroups_reads _ _ _).sparesData.failsUnwritten
  | searchMyProjects => exact .map _ (searchMyProjects_reads _ _).sparesData.failsUnwritten
  | unsetRoot => exact .map _ (unsetRoot_failsUnwritten _)

end Service

end Entitlements
