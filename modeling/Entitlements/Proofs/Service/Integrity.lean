import Entitlements.Proofs.Service.Confinement
import Entitlements.Proofs.Service.Requests
import Entitlements.Proofs.Store.Integral

/-!
# Commands keep the integrity of a store

What a grant says is put together from references that are looked up one by one. Whatever they are,
a command never inserts a grant whose permission makes no sense for its scope, or one by which
everyone administers an organization, however the store answers. On a store where everything is
linked it links what it adds. So a store keeps its integrity, whoever calls what in whichever order.
-/

namespace Entitlements

variable {s t : Store}

/-- A grant that the query inserts is lawful. -/
def Query.InsertsLawful : Query → Prop
  | .insertGrant g => g.Lawful
  | _ => True

theorem Query.SparesGrants.insertsLawful {q : Query} (h : q.SparesGrants) : q.InsertsLawful := by
  cases q with
  | insertGrant => exact h.elim
  | _ => trivial

theorem Acting.AsksOnly.insertsLawful {α : Type} {a : Acting α}
    (h : AsksOnly Query.SparesGrants a) : AsksOnly Query.InsertsLawful a :=
  h.mono fun _ => Query.SparesGrants.insertsLawful

namespace Permission

theorem isGlobal_of_validate {p : Permission} (h : p.validate false = .ok ()) :
    p.isGlobal = true := by
  by_contra hnot
  simp [validate, hnot] at h

theorem isProject_of_validate {p : Permission} (h : p.validate true = .ok ()) :
    p.isProject = true := by
  by_contra hnot
  simp [validate, validateForProject, hnot] at h

end Permission

namespace Change

/-- The grant of a change is lawful where its permission fits its scope and it is not for everyone
to administer an organization. -/
theorem lawful_grantOf {c : Change} {h : Holder}
    (hvalid : c.permission.validate c.project.isSome = .ok ())
    (hanyone : h = .anyone → c.isGlobalAdministration = false) : (c.grantOf h).Lawful where
  onOrganization hscope := by
    have hproject : c.project = none := c.project?_scope ▸ hscope
    rw [hproject] at hvalid
    exact Permission.isGlobal_of_validate hvalid
  onProject uuid hscope := by
    have hproject : c.project = some uuid := c.project?_scope ▸ hscope
    rw [hproject] at hvalid
    exact Permission.isProject_of_validate hvalid
  anyone hholder hscope := by
    have hproject : c.project = none := c.project?_scope ▸ hscope
    have hnot := hanyone hholder
    rintro (hadmin : c.permission = Permission.administer)
    simp [isGlobalAdministration, isGlobal, hproject, hadmin] at hnot

/-- A batch of changes whose permissions fit their scopes inserts lawful grants only. -/
theorem applyBatch_insertsLawful {changes : List Change}
    (hvalid : ∀ c ∈ changes, c.permission.validate c.project.isSome = .ok ()) :
    Acting.AsksOnly Query.InsertsLawful (applyBatch changes) := by
  refine .bind (checkAll_reads changes).sparesGrants.insertsLawful fun _ =>
    .lift (.transaction ((applyAll_makesOnly changes).asksOnly ?_))
  rintro q ⟨c, hc, h, -, hq⟩
  cases q with
  | insertGrant g =>
    obtain ⟨-, rfl, hanyone⟩ := hq
    exact lawful_grantOf (hvalid c hc) hanyone
  | _ => trivial

end Change

namespace Service

theorem applyOne_insertsLawful {c : Change}
    (hvalid : c.permission.validate c.project.isSome = .ok ()) :
    Acting.AsksOnly Query.InsertsLawful (applyOne c) := by
  have hbatch : ∀ c' ∈ [c], c'.permission.validate c'.project.isSome = .ok () := by
    intro c' hc'
    rw [List.mem_singleton.mp hc']
    exact hvalid
  refine .bind (Change.applyBatch_insertsLawful hbatch) fun outcomes => ?_
  cases outcomes with
  | nil => exact .pure _
  | cons outcome rest => exact .pure _

theorem changeUserPermission_insertsLawful (operation : Operation) (login : String)
    (permission : Permission) (projectId? projectKey? organizationKey? : Option String) :
    Acting.AsksOnly Query.InsertsLawful (changeUserPermission operation login permission
      projectId? projectKey? organizationKey?) := by
  refine .bind (Acting.AsksOnly.sparesGrants (.lift (.transaction ?_))).insertsLawful
    fun ((id, login), project?, organization) => .orRaise_bind fun _ hvalid => ?_
  · refine .bind (Lookup.user_reads _) fun _ => .bind (Lookup.project?_reads _ _)
      fun project? => ?_
    cases project? with
    | some project => exact .pure _
    | none => exact .bind (Lookup.organization_reads _) fun _ => .pure _
  · refine applyOne_insertsLawful ?_
    rw [Option.isSome_map]
    exact hvalid

theorem changeGroupPermission_insertsLawful (operation : Operation) (permission : Permission)
    (groupId? : Option Int) (groupName? projectId? projectKey? organizationKey? : Option String) :
    Acting.AsksOnly Query.InsertsLawful (changeGroupPermission operation permission groupId?
      groupName? projectId? projectKey? organizationKey?) := by
  refine .bind (Acting.AsksOnly.sparesGrants (.lift (.transaction ?_))).insertsLawful
    fun (o, group?, project?) => .orRaise_bind fun _ hvalid => .orRaise_bind fun _ _ => ?_
  · exact .bind (Lookup.group_reads _ _ _) fun _ => .bind (Lookup.project?_reads _ _) fun _ =>
      .pure _
  · refine applyOne_insertsLawful ?_
    rw [Option.isSome_map]
    exact hvalid

/-- No command inserts a grant that is not lawful, however it is answered. -/
theorem Command.run_insertsLawful (c : Command) : Acting.AsksOnly Query.InsertsLawful c.run := by
  cases c with
  | changeUserPermission => exact .map _ (changeUserPermission_insertsLawful _ _ _ _ _ _)
  | changeGroupPermission => exact .map _ (changeGroupPermission_insertsLawful _ _ _ _ _ _ _)
  | createTemplate => exact .map _ (createTemplate_sparesGrants _ _ _ _).insertsLawful
  | removeUserFromTemplate =>
    exact .bind (removeUserFromTemplate_sparesGrants _ _ _ _ _).insertsLawful fun _ => .pure _
  | templateGroups => exact .map _ (templateGroups_reads _ _ _ _ _ _).sparesGrants.insertsLawful
  | addUserToGroup => exact .map _ (addUserToGroup_sparesGrants _ _ _ _).insertsLawful
  | searchGroups => exact .map _ (searchGroups_reads _ _ _).sparesGrants.insertsLawful
  | searchMyProjects => exact .map _ (searchMyProjects_reads _ _).sparesGrants.insertsLawful
  | unsetRoot => exact .map _ (unsetRoot_sparesGrants _).insertsLawful

end Service

namespace Store

/-- A request adds no grant but the one that it inserts. -/
theorem mem_grants_of_serve {r : Request} {g : Grant} (h : g ∈ (serve r s).2.grants) :
    g ∈ s.grants ∨ r = .query (.insertGrant g) := by
  cases r with
  | query q =>
    cases q with
    | insertGrant g' =>
      rcases mem_insertNew.mp h with hold | rfl
      · exact .inl hold
      · exact .inr rfl
    | deleteGrant g' => exact .inl (mem_removeAll.mp h).1
    | setRoot login root =>
      left
      have hsame : (s.setRoot login root).2.grants = s.grants := by
        unfold setRoot
        split
        · rfl
        · split <;> rfl
      exact hsame ▸ h
    | _ => exact .inl h
  | _ => exact .inl h

/-- A request that spares accounts, memberships and grants leaves everything linked. -/
theorem Linked.serve (hs : s.Linked) {r : Request}
    (hr : (Setting.asking Query.SparesAccess).permits () r) : (serve r s).2.Linked := by
  cases r with
  | query q =>
    cases q with
    | setRoot | addMember | insertGrant | deleteGrant => exact hr.elim
    | _ => exact hs.congr rfl rfl rfl rfl rfl
  | _ => exact hs.congr rfl rfl rfl rfl rfl

end Store

namespace Service

variable {c : Command} {σ : Session}

private theorem links_of_effect? {operation : Operation} {g : Grant} {e : Effect}
    (he : operation.effect? g = some e) (hproper : e.Proper s)
    (huser : ∀ id login, g.holder = .user id login → ∃ u ∈ s.users, u.id = id ∧ u.login = login) :
    e.Links s := by
  cases operation with
  | add =>
    obtain rfl : Effect.grantAdded g = e := Option.some.inj he
    exact ⟨hproper, huser⟩
  | remove =>
    obtain rfl : Effect.grantRemoved g = e := Option.some.inj he
    trivial
  | other name => cases he

/-- What commands ask for is linked to what is stored. -/
theorem Command.AsksFor.links {e : Effect} (h : c.AsksFor s e) : e.Links s := by
  have hproper := h.proper
  cases c with
  | changeUserPermission operation login permission projectId? projectKey? organizationKey? =>
    obtain ⟨u, project?, organization, hu, -, -, he⟩ := h
    refine links_of_effect? he hproper fun id login hholder => ?_
    obtain ⟨rfl, rfl⟩ := Holder.user.inj hholder
    exact ⟨u, Store.mem_of_activeUser? hu, rfl, rfl⟩
  | changeGroupPermission operation permission groupId? groupName? projectId? projectKey?
      organizationKey? =>
    obtain ⟨o, group?, project?, -, -, -, he⟩ := h
    refine links_of_effect? he hproper fun id login hholder => ?_
    cases group? <;> cases hholder
  | createTemplate name description? keyPattern? organizationKey? =>
    obtain ⟨o, at?, -, rfl⟩ := h
    trivial
  | removeUserFromTemplate login permission templateId? templateName? organizationKey? =>
    obtain ⟨u, tpl, -, -, rfl⟩ := h
    trivial
  | addUserToGroup login groupId? groupName? organizationKey? =>
    obtain ⟨u, o, g, hu, hgroup, rfl⟩ := h
    obtain ⟨hg, -⟩ := Store.mem_of_groupOf? hgroup
    exact ⟨⟨g, hg, rfl⟩, u, Store.mem_of_activeUser? hu, rfl⟩
  | unsetRoot login? =>
    obtain ⟨login, -, rfl⟩ := h
    trivial
  | templateGroups => exact h.elim
  | searchGroups => exact h.elim
  | searchMyProjects => exact h.elim

/-- A command leaves lawful grants where it finds them. -/
theorem Command.lawful_of_run (c : Command) (σ : Session) (hs : ∀ g ∈ s.grants, g.Lawful) :
    ∀ g ∈ (s.run (c.run.run.run σ)).2.grants, g.Lawful := by
  refine c.run_insertsLawful.keeps (I := fun s : Store => ∀ g ∈ s.grants, g.Lawful)
    (fun r t hr ht g hg => ?_) σ hs
  rcases Store.mem_grants_of_serve hg with hold | rfl
  · exact ht g hold
  · exact hr

/-- A command leaves everything linked where it is. Should the identifier of a new template be one
that is taken, it only takes the place of another template. -/
theorem Command.linked_of_run (c : Command) (σ : Session) (hs : s.Linked) :
    (s.run (c.run.run.run σ)).2.Linked := by
  by_cases hdraws : c.DrawsUuid
  · cases c with
    | createTemplate name description? keyPattern? organizationKey? =>
      have hspares : Acting.AsksOnly Query.SparesAccess
          (Command.createTemplate name description? keyPattern? organizationKey?).run :=
        .map _ (createTemplate_sparesAccess _ _ _ _)
      exact hspares.keeps (I := Store.Linked) (fun r t hr ht => ht.serve hr) σ hs
    | _ => exact hdraws.elim
  · have hfresh : c.DrawsUuid → s.NextUuidFresh := fun h => absurd h hdraws
    have hend := Acting.end_of_ensures (c.run_ensures σ hfresh)
    rcases hend.2 with hsame | ⟨e, hask, -, -, hsame⟩
    · exact hs.of_sameData hsame
    · exact (hs.on hask.links).of_sameData hsame

end Service

namespace World

/-- No move of anybody takes away the integrity of the store. -/
theorem step_integral {w : World} (h : w.store.Integral) (m : Move) :
    (w.step m).store.Integral := by
  cases m with
  | signIn login? =>
    have hsame := (w.step_signIn login?).1
    refine ⟨h.toLinked.of_sameData hsame, ?_⟩
    obtain ⟨journal, events, hstore⟩ := hsame
    rw [hstore]
    exact h.lawful
  | call session c =>
    rw [step]
    cases hσ : w.sessions[session]? with
    | none => exact h
    | some σ => exact ⟨c.linked_of_run σ h.toLinked, c.lawful_of_run σ h.lawful⟩

/-- A store keeps its integrity, whatever is done on it by however many sessions, the ones that are
at work already and the ones that are still to be made. -/
theorem run_integral {w : World} (h : w.store.Integral) (moves : List Move) :
    (w.run moves).store.Integral := by
  induction moves generalizing w with
  | nil => exact h
  | cons m rest ih => exact ih (step_integral h m)

/-- In the sample the user `root` grants `alice` a permission on a project. -/
theorem run_integral_sample :
    let w : World := ⟨Store.sample default, []⟩
    let moves : List Move := [.signIn (some "root"),
      .call 0 (.changeUserPermission .add "alice" "scan" none (some "project-one") none)]
    w.store.Integral ∧ (w.run moves).store.Integral := by
  intro w moves
  have hgrants (g : Grant) (hg : g ∈ w.store.grants) :
      g = ⟨Store.sampleDefault, .user 1 "root", Permission.administer,
        .organization Store.sampleDefault⟩ := List.mem_singleton.mp hg
  have hintegral : w.store.Integral := by
    refine ⟨⟨fun g hg => ?_, nofun⟩, fun g hg => ?_⟩
    · obtain rfl := hgrants g hg
      refine ⟨⟨rfl, nofun, nofun⟩, fun id login hholder => ?_⟩
      obtain ⟨rfl, rfl⟩ := Holder.user.inj hholder
      exact ⟨_, List.mem_cons_self, rfl, rfl⟩
    · obtain rfl := hgrants g hg
      exact ⟨fun _ => by decide, nofun, nofun⟩
  exact ⟨hintegral, run_integral hintegral moves⟩

end World

end Entitlements
