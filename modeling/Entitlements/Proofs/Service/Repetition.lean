import Entitlements.Proofs.Service.Failures
import Entitlements.Proofs.Service.Lasting
import Entitlements.Proofs.Session.Answers
import Entitlements.Store.Sample

/-!
# Commands that are repeated

A command that ended well can be repeated safely. What it found out before it wrote it finds out
again, and then there is nothing left to write: the grant is as asked for, the user is a member
already, the name of the template is taken. Nothing is written whoever repeats it. The session that
has called the command is told so even where the command has taken away what it was allowed by.

What can be repeated is put together from a single step that can, from lookups and checks before it
that last, and from words in the log after it.
-/

namespace Entitlements

variable {α β : Type} {P : Query → Prop}

namespace Store

variable {s t : Store}

/-- What requests refer to is no matter of memberships, of grants or of what templates give. -/
theorem answersAlike_looks {members : List (Int × Int)} {grants : List Grant}
    {templateGrants : List TemplateGrant} {journal : Journal} {around : Surroundings} :
    s.AnswersAlike Query.Looks { s with members, grants, templateGrants, journal, around } := by
  intro q hq _
  cases q with
  | userByLogin | organizationByKey | organizationByUuid | defaultOrganization | componentByUuid
  | componentByKey | groupById | groupByName | templateByUuid | templateByName => rfl
  | _ => exact hq.elim

/-- Nor are organizations a matter of templates. -/
theorem answersAlike_namesOrganization {templates : List Template} {journal : Journal}
    {around : Surroundings} :
    s.AnswersAlike Query.NamesOrganization { s with templates, journal, around } := by
  intro q hq _
  cases q with
  | organizationByKey | organizationByUuid | defaultOrganization => rfl
  | _ => exact hq.elim

end Store

namespace Acting

/-- Nothing is left to do on the store in acting so: whoever does writes nothing, and comes to the
answer or fails. The session comes to the answer, and so does whoever has read what it has read. -/
def Spent (a : Acting α) (τ : Session) (t : Store) (again : Except Fault α) : Prop :=
  ∀ υ u, t.Unwritten u → Ensures Store.setting a υ u (fun b _ v => t.Unwritten v ∧ again = .ok b)
    fun f _ v => t.Unwritten v ∧ (τ.Within υ → again = .error f)

/-- Acting so, if it does not fail, leaves nothing to do in acting so again, and questions of the
kind are answered afterwards as before. What it comes to the second time can depend on what it came
to the first time. -/
def Repeatable (P : Query → Prop) (a : Acting α) (again : α → Except Fault α) : Prop :=
  ∀ σ s, Ensures Store.setting a σ s
    (fun b τ t => σ.Within τ ∧ s.AnswersAlike P t ∧ Spent a τ t (again b)) fun _ _ _ => True

/-- The acting comes to the value in any case and at most says something in the log. -/
def OnlyLogs (a : Acting α) (b : α) : Prop :=
  ∀ σ s, Ensures Store.setting a σ s (fun c τ t => c = b ∧ τ = σ ∧ s.Unwritten t)
    fun _ _ _ => False

variable {τ : Session} {t : Store}

theorem OnlyLogs.pure (b : α) : OnlyLogs (pure b) b := fun _ s => ⟨rfl, rfl, .refl s⟩

theorem OnlyLogs.record (e : Event) : OnlyLogs e.record () := by
  intro σ s
  rw [ensures_setting_record]
  exact ⟨rfl, rfl, (Store.Unwritten.refl s).record e⟩

theorem OnlyLogs.record_pure (e : Event) (b : α) : OnlyLogs (do e.record; return b) b := by
  intro σ s
  rw [ensures_bind, ensures_setting_record]
  exact ⟨rfl, rfl, (Store.Unwritten.refl s).record e⟩

variable {again : α → Except Fault α}

/-- Where nothing is left to do nothing is written, whoever acts. -/
theorem Spent.unwritten {a : Acting α} {again : Except Fault α} (h : Spent a τ t again)
    (υ : Session) {u : Store} (hu : t.Unwritten u) : t.Unwritten (u.run (a.run.run υ)).2 :=
  end_of_ensures (Q := fun _ v => t.Unwritten v)
    ((h υ u hu).mono (fun _ _ _ hend => hend.1) fun _ _ _ hend => hend.1)

theorem Spent.answer {a : Acting α} {again : Except Fault α} (h : Spent a τ t again) :
    τ.answer t a = again := by
  have hagain : Ensures Store.setting a τ t (fun b _ _ => again = .ok b)
      fun f _ _ => again = .error f :=
    (h τ t (.refl t)).mono (fun _ _ _ hend => hend.2) fun _ _ _ hend => hend.2 (.refl τ)
  rcases Session.answer_of_ensures hagain with ⟨b, hanswer, rfl⟩ | ⟨f, hanswer, rfl⟩
  · exact hanswer
  · exact hanswer

theorem Repeatable.spent {a : Acting α} {b : α} {σ : Session} {s : Store}
    (ha : Repeatable P a again) (h : s.run (a.run.run σ) = ((.ok b, τ), t)) :
    Spent a τ t (again b) := by
  have hend := (Store.ensures_setting_iff _ _ _).mp (ha σ s)
  rw [h] at hend
  exact hend.2.2

theorem Repeatable.raise (r : Refusal) : Repeatable P r.raise again := fun _ _ => trivial

theorem Repeatable.raise_bind (r : Refusal) (k : β → Acting α) :
    Repeatable P (r.raise >>= k) again := fun _ _ => trivial

/-- What lasts is found out again, and so the rest is repeated just as it was done. -/
theorem Repeatable.bind {a : Acting β} {k : β → Acting α} (ha : Lasts P a)
    (hk : ∀ b, Repeatable P (k b) again) : Repeatable P (a >>= k) again := by
  intro σ s
  rw [ensures_bind]
  refine (ha σ s).mono (fun b τ t ⟨hτ, ht, hlast⟩ => ?_) fun _ _ _ _ => trivial
  refine (hk b τ t).mono (fun c τ' t' ⟨hτ', ht', hspent⟩ => ?_) fun _ _ _ _ => trivial
  have hkept : s.AnswersAlike P t' := ht.unwritten.answersAlike.trans ht'
  refine ⟨hτ.trans hτ', hkept, fun υ u hu => ?_⟩
  rw [ensures_bind]
  refine (hlast υ u (hkept.trans hu.answersAlike)).mono (fun b' υ' v hend => ?_)
    fun _ _ v hend => ⟨hu.trans hend.1.unwritten, ?_⟩
  · obtain ⟨rfl, hυ', hv⟩ := hend
    refine (hspent υ' v (hu.trans hv.unwritten)).mono (fun _ _ _ hend' => hend')
      fun _ _ _ hend' => ⟨hend'.1, fun hwithin => hend'.2 (hwithin.trans hυ')⟩
  · exact fun hwithin => absurd (hτ'.trans hwithin) hend.2

theorem Repeatable.transaction {a : Acting α} (ha : Repeatable P a again) :
    Repeatable P (transaction a) again := by
  intro σ s
  rw [ensures_setting_transaction]
  refine (ha σ s).mono (fun b τ t ⟨hτ, ht, hspent⟩ => ?_) fun _ _ _ _ => trivial
  have hdone : t.Unwritten t.completed := (Store.Unwritten.refl t).completed
  refine ⟨hτ, ht.trans hdone.answersAlike, fun υ u hu => ?_⟩
  have hback : t.completed.Unwritten t := hdone.symm
  rw [ensures_setting_transaction]
  refine (hspent υ u (hdone.trans hu)).mono (fun _ _ v hend => ?_) fun _ _ v hend => ?_
  · exact ⟨(hback.trans hend.1).completed, hend.2⟩
  · exact ⟨(hback.trans hend.1).abandoned, hend.2⟩

/-- What is only said in the log afterwards makes no difference to what is left to do. -/
theorem Repeatable.bind_onlyLogs {a : Acting β} {k : β → Acting α} {r : β → Except Fault β}
    {c : β → α} (ha : Repeatable P a r) (hk : ∀ b, OnlyLogs (k b) (c b))
    (hagain : ∀ b, (r b).map c = again (c b)) : Repeatable P (a >>= k) again := by
  intro σ s
  rw [ensures_bind]
  refine (ha σ s).mono (fun b τ t ⟨hτ, ht, hspent⟩ => ?_) fun _ _ _ _ => trivial
  refine (hk b τ t).mono (fun x τ' t' hend => ?_) fun _ _ _ _ => trivial
  obtain ⟨rfl, rfl, hlogged⟩ := hend
  refine ⟨hτ, ht.trans hlogged.answersAlike, fun υ u hu => ?_⟩
  have hback : t'.Unwritten t := hlogged.symm
  rw [ensures_bind]
  refine (hspent υ u (hlogged.trans hu)).mono (fun b' υ' v hend => ?_) fun f _ v hend => ?_
  · refine (hk b' υ' v).mono (fun y _ v' hend' => ?_) fun _ _ _ => False.elim
    obtain ⟨rfl, -, hv'⟩ := hend'
    refine ⟨(hback.trans hend.1).trans hv', ?_⟩
    rw [← hagain, hend.2]
    rfl
  · refine ⟨hback.trans hend.1, fun hwithin => ?_⟩
    rw [← hagain, hend.2 hwithin]
    rfl

theorem Repeatable.map {a : Acting β} {f : β → α} {r : β → Except Fault β}
    (ha : Repeatable P a r) (hagain : ∀ b, (r b).map f = again (f b)) :
    Repeatable P (f <$> a) again := by
  rw [map_eq_pure_bind]
  exact ha.bind_onlyLogs (fun b => .pure (f b)) hagain

end Acting

open Acting (Repeatable OnlyLogs)

namespace Change

/-- A change that was applied, or did not have to be, makes no difference any more. -/
theorem applyAll_singleton_repeatable (c : Change) :
    Repeatable Query.Looks (Session.lift (transaction (applyAll [c])))
      fun _ => .ok [.unchanged] := by
  intro σ s
  rw [Acting.ensures_lift, Work.ensures_setting_transaction, applyAll, Work.ensures_bind]
  refine (c.applyOrFail_decides s).mono (fun outcome t hend => ?_) fun _ _ _ => trivial
  obtain ⟨⟨g, hc⟩, ⟨rfl, hleft⟩, hr⟩ := hend
  rw [leave_of_ne_rejected hr] at hleft
  obtain ⟨events, rfl⟩ := hleft
  refine ⟨.refl σ, Store.answersAlike_looks, fun υ u hu => ?_⟩
  have hspent : ¬ c.Alters u.grants := by
    obtain ⟨_, _, _, _, rfl⟩ := hu
    exact hc.not_alters_settle
  have hverdict : c.verdict u = .unchanged := verdict_eq_unchanged_iff.mpr hspent
  rw [Acting.ensures_lift, Work.ensures_setting_transaction, Work.ensures_bind]
  refine (c.applyOrFail_decides u).mono (fun outcome v hend => ?_) fun _ v hrejected => ?_
  · obtain ⟨-, ⟨rfl, hv⟩, hr'⟩ := hend
    rw [leave_of_ne_rejected hr', carryOut_of_not_alters hspent] at hv
    rw [hverdict]
    exact ⟨(hu.trans hv.unwritten).completed, rfl⟩
  · obtain ⟨r, hr'⟩ := hrejected.1 ⟨g, hc⟩
    rw [hverdict] at hr'
    cases hr'

end Change

namespace Service

theorem applyOne_repeatable (c : Change) :
    Repeatable Query.Looks (applyOne c) fun _ => .ok .unchanged := by
  have hbatch : Repeatable Query.Looks (Change.applyBatch [c]) fun _ => .ok [.unchanged] :=
    .bind (Change.checkAll_lasts _) fun _ => c.applyAll_singleton_repeatable
  refine hbatch.bind_onlyLogs (c := fun outcomes => outcomes.headD .unchanged)
    (fun outcomes => ?_) fun _ => rfl
  cases outcomes <;> exact .pure _

theorem changeUserPermission_repeatable (operation : Operation) (login : String)
    (permission : Permission) (projectId? projectKey? organizationKey? : Option String) :
    Repeatable Query.Looks
      (changeUserPermission operation login permission projectId? projectKey? organizationKey?)
      fun _ => .ok .unchanged := by
  refine .bind (.lookup_unit ?_) fun _ => .bind (.orRaise _) fun _ => applyOne_repeatable _
  refine .bind (Lookup.user_looks _) fun _ => .bind (Lookup.project?_refers _ _).looks
    fun project? => ?_
  cases project? with
  | some project => exact .pure _
  | none => exact .bind (Lookup.organization_refers _).looks fun _ => .pure _

theorem changeGroupPermission_repeatable (operation : Operation) (permission : Permission)
    (groupId? : Option Int) (groupName? projectId? projectKey? organizationKey? : Option String) :
    Repeatable Query.Looks
      (changeGroupPermission operation permission groupId? groupName? projectId? projectKey?
        organizationKey?)
      fun _ => .ok .unchanged := by
  refine .bind (.lookup_unit ?_) fun _ => .bind (.orRaise _) fun _ => .bind (.orRaise _) fun _ =>
    applyOne_repeatable _
  exact .bind (Lookup.group_refers _ _ _).looks fun _ =>
    .bind (Lookup.project?_refers _ _).looks fun _ => .pure _

/-- Whoever is a member is not made one again. -/
theorem join_repeatable (group user : Int) (login : String) :
    Repeatable Query.Looks (do
      if ← Query.ask (.isMember group user) then return none
      else
        Query.ask (.addMember group user)
        return some (login, group)) fun _ => .ok none := by
  intro σ s
  have hspent (t : Store) (h : (group, user) ∈ t.members) : Acting.Spent (do
      if ← Query.ask (.isMember group user) then return none
      else
        Query.ask (.addMember group user)
        return some (login, group)) σ t (.ok none) := by
    intro υ u hu
    have hthere : u.members.contains (group, user) = true := by
      obtain ⟨_, _, _, _, rfl⟩ := hu
      exact List.contains_iff_mem.mpr h
    rw [Acting.ensures_bind, Acting.ensures_setting_query]
    show Acting.Ensures _ (if u.members.contains (group, user) then _ else _) _ _ _ _
    rw [if_pos hthere]
    exact ⟨hu, rfl⟩
  rw [Acting.ensures_bind, Acting.ensures_setting_query]
  show Acting.Ensures _ (if s.members.contains (group, user) then _ else _) _ _ _ _
  by_cases h : s.members.contains (group, user) = true
  · rw [if_pos h]
    exact ⟨.refl σ, (Store.Unwritten.refl s).answersAlike, hspent s (List.contains_iff_mem.mp h)⟩
  · rw [if_neg h, Acting.ensures_bind, Acting.ensures_setting_query]
    exact ⟨.refl σ, Store.answersAlike_looks, hspent _ (mem_insertNew.mpr (.inr rfl))⟩

theorem addUserToGroup_repeatable (login : String) (groupId? : Option Int)
    (groupName? organizationKey? : Option String) :
    Repeatable Query.Looks (addUserToGroup login groupId? groupName? organizationKey?)
      fun _ => .ok false := by
  refine .bind Session.checkSignedIn_lasts fun _ => ?_
  refine Repeatable.bind_onlyLogs (r := fun _ => .ok none) (c := Option.isSome) (.transaction ?_)
    (fun joined? => ?_) fun _ => rfl
  · refine .bind (.lookup (Lookup.group_refers _ _ _).looks) fun (o, group?) =>
      .bind (Session.checkAdministers_lasts _) fun _ => ?_
    cases group? with
    | none => exact .raise _
    | some group =>
      exact .bind (.lookup (Lookup.user_looks _)) fun (id, login) => join_repeatable group id login
  · cases joined? with
    | none => exact .pure _
    | some joined => exact .record_pure _ _

/-- What a template does not give is not taken out of it again. -/
theorem deleteTemplateGrant_repeatable (template : String) (holder : Holder)
    (permission : Permission) (a : α) :
    Repeatable Query.Looks (do
      Query.ask (.deleteTemplateGrant template holder permission)
      return a) .ok := by
  intro σ s
  rw [Acting.ensures_bind, Acting.ensures_setting_query]
  refine ⟨.refl σ, Store.answersAlike_looks, fun υ u hu => ?_⟩
  have hgone : (⟨template, holder, permission⟩ : TemplateGrant) ∉ u.templateGrants := by
    obtain ⟨_, _, _, _, rfl⟩ := hu
    exact fun hmem => (mem_removeAll.mp hmem).2 rfl
  have hsame : (u.answer (.deleteTemplateGrant template holder permission)).2 = u := by
    show u.removeTemplateGrant ⟨template, holder, permission⟩ = u
    rw [Store.removeTemplateGrant, removeAll_of_not_mem hgone]
  rw [Acting.ensures_bind, Acting.ensures_setting_query, hsame]
  exact ⟨hu, rfl⟩

theorem removeUserFromTemplate_repeatable (login : String) (permission : Permission)
    (templateId? templateName? organizationKey? : Option String) :
    Repeatable Query.Looks
      (removeUserFromTemplate login permission templateId? templateName? organizationKey?)
      fun _ => .ok () := by
  refine .bind Session.checkSignedIn_lasts fun _ => .bind (.orRaise _) fun _ => ?_
  refine Repeatable.bind_onlyLogs (r := .ok) (.transaction ?_) (fun _ => .record _) fun _ => rfl
  exact .bind (.lookup (Lookup.template_refers _ _ _).looks) fun _ =>
    .bind (Session.checkAdministers_lasts _) fun _ => .bind (.lookup (Lookup.user_looks _))
    fun (id, login) => deleteTemplateGrant_repeatable _ (.user id login) _ _

/-- A name that a template was given is taken. -/
theorem insertTemplate_repeatable {organization name : String}
    {k : String → Option String → Template}
    (hk : ∀ uuid at?, (k uuid at?).organization = organization ∧ (k uuid at?).name = name) :
    Repeatable Query.NamesOrganization (do
      if (← Query.ask (.templateByName organization name)).isSome then
        (Refusal.templateNameTaken name).raise
      let now ← Request.ask .now
      let uuid ← Request.ask .freshUuid
      Query.ask (.insertTemplate (k uuid (some now.toUniversal.text)))
      return k uuid (some now.toUniversal.text))
      fun _ => .error (.refused (.templateNameTaken name)) := by
  intro σ s
  rw [Acting.ensures_bind, Acting.ensures_setting_query]
  show Acting.Ensures _ (if (s.templateByName? organization name).isSome then _ else _) _ _ _ _
  by_cases htaken : (s.templateByName? organization name).isSome = true
  · rw [if_pos htaken]
    trivial
  · rw [if_neg htaken]
    refine (Acting.ensures_bind _ _).mpr ((Acting.ensures_setting_ask .now).mpr ?_)
    refine (Acting.ensures_bind _ _).mpr ((Acting.ensures_setting_ask .freshUuid).mpr ?_)
    refine (Acting.ensures_bind _ _).mpr (Acting.ensures_setting_query.mpr ?_)
    refine ⟨.refl σ, Store.answersAlike_namesOrganization, fun υ u hu => ?_⟩
    have htaken : (u.templateByName? organization name).isSome = true := by
      obtain ⟨_, _, _, _, rfl⟩ := hu
      rw [Store.templateByName?, List.find?_isSome]
      exact ⟨_, mem_replaceOrAdd_self .., by simp [hk]⟩
    rw [Acting.ensures_bind, Acting.ensures_setting_query]
    show Acting.Ensures _ (if (u.templateByName? organization name).isSome then _ else _) _ _ _ _
    rw [if_pos htaken]
    exact ⟨hu, fun _ => rfl⟩

/-- The trimmed name has a name of its own, or else the trimming is evaluated at every step. -/
theorem createTemplate_repeatable {name : Option String} {trimmed : String}
    (htrimmed : Text.trim (name.getD "") = trimmed)
    (description? keyPattern? organizationKey? : Option String) :
    Repeatable Query.NamesOrganization
      (createTemplate name description? keyPattern? organizationKey?)
      fun _ => .error (.refused (.templateNameTaken trimmed)) := by
  rw [createTemplate]
  dsimp only
  rw [htrimmed]
  refine .bind Session.checkSignedIn_lasts fun _ => ?_
  refine Repeatable.bind_onlyLogs (r := fun _ => .error (.refused (.templateNameTaken trimmed)))
    (c := id) (.transaction ?_) (fun _ => .record_pure _ _) fun _ => rfl
  have hreads (q : Query) (h : q.NamesOrganization) : q.Reads := h.refers.looks.reads
  refine .bind (.lift ((Lookup.organization_namesOrganization _).lasts hreads)) fun o =>
    .bind (Session.checkAdministers_lasts _) fun _ => ?_
  by_cases hblank : trimmed.isEmpty = true
  · rw [if_pos hblank]
    exact .raise_bind _ _
  · rw [if_neg hblank]
    refine .bind (.liftExcept _) fun _ => ?_
    exact insertTemplate_repeatable (k := fun uuid at? => ⟨uuid, o.uuid, trimmed, description?,
      keyPattern?, at?, at?⟩) fun _ _ => ⟨rfl, rfl⟩

theorem unsetRoot_repeatable (login? : Option String) :
    Repeatable (fun _ => False) (unsetRoot login?) fun _ => .ok false := by
  refine .bind Session.checkRoot_lasts fun _ => ?_
  cases given? login? with
  | none => exact .raise _
  | some login =>
    refine Repeatable.bind_onlyLogs (r := fun _ => .ok false) (c := id) (.transaction ?_)
      (fun changed => ?_) fun _ => rfl
    · intro σ s
      rw [Acting.ensures_setting_query, Store.answer_setRoot]
      refine ⟨.refl σ, nofun, fun υ u hu => ?_⟩
      have hagain : u.setRoot login false = (false, u) := by
        obtain ⟨_, _, _, _, rfl⟩ := hu
        exact Store.setRoot_of_root fun _ => Store.root_of_setRoot
      rw [Acting.ensures_setting_query, Store.answer_setRoot, hagain]
      exact ⟨hu, rfl⟩
    · cases changed with
      | false => exact .pure _
      | true =>
        intro σ s
        refine (Acting.ensures_bind _ _).mpr ((Acting.ensures_bind _ _).mpr ?_)
        exact Acting.ensures_setting_record.mpr ⟨rfl, rfl, (Store.Unwritten.refl s).record _⟩

/-- What a command that ended well answers when it is repeated, unless it is a search. -/
def Command.again? : Command → Option (Except Fault Reply)
  | .changeUserPermission .. | .changeGroupPermission .. => some (.ok (.outcome .unchanged))
  | .createTemplate name _ _ _ =>
    some (.error (.refused (.templateNameTaken (Text.trim (name.getD "")))))
  | .removeUserFromTemplate .. => some (.ok .nothing)
  | .addUserToGroup .. | .unsetRoot _ => some (.ok (.done false))
  | .templateGroups .. | .searchGroups .. | .searchMyProjects .. => none

theorem Command.run_repeatable {c : Command} {again : Except Fault Reply}
    (h : c.again? = some again) : ∃ P, Repeatable P c.run fun _ => again := by
  cases c with
  | changeUserPermission =>
    obtain rfl := Option.some.inj h
    exact ⟨_, (changeUserPermission_repeatable _ _ _ _ _ _).map fun _ => rfl⟩
  | changeGroupPermission =>
    obtain rfl := Option.some.inj h
    exact ⟨_, (changeGroupPermission_repeatable _ _ _ _ _ _ _).map fun _ => rfl⟩
  | createTemplate name =>
    obtain rfl := Option.some.inj h
    exact ⟨_, (createTemplate_repeatable rfl _ _ _).map fun _ => rfl⟩
  | removeUserFromTemplate =>
    obtain rfl := Option.some.inj h
    exact ⟨_, (removeUserFromTemplate_repeatable _ _ _ _ _).bind_onlyLogs (fun _ => .pure _)
      fun _ => rfl⟩
  | addUserToGroup =>
    obtain rfl := Option.some.inj h
    exact ⟨_, (addUserToGroup_repeatable _ _ _ _).map fun _ => rfl⟩
  | unsetRoot =>
    obtain rfl := Option.some.inj h
    exact ⟨_, (unsetRoot_repeatable _).map fun _ => rfl⟩
  | templateGroups | searchGroups | searchMyProjects => cases h

/-- What is left of a command that ended well is left for good: repeating it writes nothing. -/
theorem Command.run_unwritten {c : Command} {σ τ υ : Session} {s t u : Store} {reply : Reply}
    (h : s.run (c.run.run.run σ) = ((.ok reply, τ), t)) (hu : t.Unwritten u) :
    t.Unwritten (u.run (c.run.run.run υ)).2 := by
  cases hagain : c.again? with
  | some again =>
    obtain ⟨P, hrepeatable⟩ := c.run_repeatable hagain
    exact (hrepeatable.spent h).unwritten υ hu
  | none =>
    have hsearch : Acting.AsksOnly Query.SparesData c.run := by
      cases c with
      | templateGroups => exact .map _ (templateGroups_reads _ _ _ _ _ _).sparesData
      | searchGroups => exact .map _ (searchGroups_reads _ _ _).sparesData
      | searchMyProjects => exact .map _ (searchMyProjects_reads _ _).sparesData
      | _ => cases hagain
    exact hu.trans (Acting.end_of_ensures (Q := fun _ v => u.Unwritten v)
      (hsearch.ensures_unwritten υ u))

/-- Any command that ended well can be repeated safely. Whoever repeats it writes nothing: grants,
memberships, accounts, templates, what templates give and the lists of grants that were to be added
or dropped are what the command has left. This goes for a new session of the same login as well. The
session that has called the command is answered that there was nothing to do; only a template of the
name is refused as there is one already. -/
theorem Command.run_again {c : Command} {σ τ : Session} {s t : Store} {reply : Reply}
    (h : s.run (c.run.run.run σ) = ((.ok reply, τ), t)) :
    (∀ υ : Session, t.Unwritten (t.run (c.run.run.run υ)).2) ∧
      (∃ υ u, t.run (Session.create σ.principal.login?).run = (.ok υ, u) ∧
        t.Unwritten (u.run (c.run.run.run υ)).2) ∧
      ∀ again, c.again? = some again → τ.answer t c.run = again := by
  refine ⟨fun υ => Command.run_unwritten h (.refl t), ?_, fun again hagain => ?_⟩
  · obtain ⟨u, hcreate, hu⟩ := Session.run_create t σ.principal.login?
    exact ⟨_, u, hcreate, Command.run_unwritten h hu.unwritten⟩
  · obtain ⟨P, hrepeatable⟩ := c.run_repeatable hagain
    exact (hrepeatable.spent h).answer

/-- The user `root` of the sample makes itself an ordinary one. -/
theorem run_again_root :
    let s := Store.sample default
    let σ := Session.ofUser? (s.userByLogin? "root")
    let c : Command := .unsetRoot (some "root")
    let left := s.run (c.run.run.run σ)
    let τ := left.1.2
    let t := left.2
    left = ((.ok (.done true), τ), t) ∧
      (∀ υ : Session, t.Unwritten (t.run (c.run.run.run υ)).2) ∧
      (∃ υ u, t.run (Session.create σ.principal.login?).run = (.ok υ, u) ∧
        t.Unwritten (u.run (c.run.run.run υ)).2) ∧
      ∀ again, c.again? = some again → τ.answer t c.run = again := by
  intro s σ c left τ t
  have h : s.run (c.run.run.run σ) = ((.ok (.done true), τ), t) := rfl
  exact ⟨h, Command.run_again h⟩

end Service

end Entitlements
