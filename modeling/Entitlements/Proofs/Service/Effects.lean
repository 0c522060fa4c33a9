import Entitlements.Proofs.Service.Toggle
import Entitlements.Service.Command
import Entitlements.Store.Sample

/-!
# Effects of commands

A command leaves what is stored as it is, or it has one effect: the one that it asks for, with its
references resolved on the store that it found. The session was entitled to the effect by the
permissions that it goes by. Searches have no effect at all.
-/

namespace Entitlements

/-- The effect is for the session to bring about. -/
def Session.EntitledTo (σ : Session) (s : Store) : Effect → Prop
  | .grantAdded g | .grantRemoved g => σ.Administers s g.scope
  | .memberAdded group _ => σ.principal.isSignedIn = true ∧
    ∃ g ∈ s.groups, g.id = group ∧ σ.Administers s (.organization g.organization)
  | .templateAdded tpl => σ.principal.isSignedIn = true ∧
    σ.Administers s (.organization tpl.organization)
  | .templateGrantRemoved given => σ.principal.isSignedIn = true ∧
    ∃ tpl ∈ s.templates, tpl.uuid = given.template ∧
      σ.Administers s (.organization tpl.organization)
  | .rootCleared _ => σ.principal.isRoot = true

/-- No template has the identifier that is given out next. -/
def Store.NextUuidFresh (s : Store) : Prop :=
  ∀ tpl ∈ s.templates, tpl.uuid ≠ uuidOf (s.around.issued + 1)

namespace Service

open Session (Learned)

/-- The effect that a command asks for, with its references resolved on the store. -/
def Command.AsksFor (s : Store) : Command → Effect → Prop
  | .changeUserPermission operation login permission projectId? projectKey? organizationKey?, e =>
    ∃ u project? organization, s.activeUser? login = some u ∧
      s.LeadsTo projectId? projectKey? project? ∧
      s.IsOwner organizationKey? organization project? ∧
      operation.effect? ⟨organization, .user u.id u.login, permission,
        .ofProject? organization (project?.map (·.uuid))⟩ = some e
  | .changeGroupPermission operation permission groupId? groupName? projectId? projectKey?
      organizationKey?, e =>
    ∃ o group? project?, s.groupOf? organizationKey? groupId? groupName? = some (o, group?) ∧
      s.LeadsTo projectId? projectKey? project? ∧
      (∀ project, project? = some project → project.organization = o.uuid) ∧
      operation.effect? ⟨o.uuid, .ofGroup? (group?.map (·.id)), permission,
        .ofProject? o.uuid (project?.map (·.uuid))⟩ = some e
  | .createTemplate name description? keyPattern? organizationKey?, e =>
    ∃ o at?, s.organizationOf? organizationKey? = some o ∧
      e = .templateAdded ⟨uuidOf (s.around.issued + 1), o.uuid, Text.trim (name.getD ""),
        description?, keyPattern?, at?, at?⟩
  | .removeUserFromTemplate login permission templateId? templateName? organizationKey?, e =>
    ∃ u tpl, s.activeUser? login = some u ∧
      s.templateOf? templateId? templateName? organizationKey? = some tpl ∧
      e = .templateGrantRemoved ⟨tpl.uuid, .user u.id u.login, permission⟩
  | .addUserToGroup login groupId? groupName? organizationKey?, e =>
    ∃ u o g, s.activeUser? login = some u ∧
      s.groupOf? organizationKey? groupId? groupName? = some (o, some g) ∧
      e = .memberAdded g.id u.id
  | .unsetRoot login?, e => ∃ login, given? login? = some login ∧ e = .rootCleared login
  | .templateGroups .., _ | .searchGroups .., _ | .searchMyProjects .., _ => False

/-- What a command can leave: the same data, or the data with the one effect that it asks for, to
which the session is entitled. -/
def Command.Leaves (c : Command) (σ : Session) (s t : Store) : Prop :=
  s.SameData t ∨
    ∃ e, c.AsksFor s e ∧ e.Genuine s ∧ σ.EntitledTo s e ∧ (e.on s).SameData t

/-- How a command can end, well or not: the session has at most read what it goes by. -/
def Command.Ends (c : Command) (σ : Session) (s : Store) (τ : Session) (t : Store) : Prop :=
  Learned s σ τ ∧ c.Leaves σ s t

variable {σ τ : Session} {s t u : Store}

theorem Command.Leaves.trans {c : Command} (h : c.Leaves σ s t) (h' : t.SameData u) :
    c.Leaves σ s u := by
  rcases h with h | ⟨e, hask, hgenuine, hentitled, h⟩
  · exact .inl (h.trans h')
  · exact .inr ⟨e, hask, hgenuine, hentitled, h.trans h'⟩

theorem Command.ends_of_untouched (c : Command) (hτ : Learned s σ τ) (ht : s.Untouched t) :
    c.Ends σ s τ t := ⟨hτ, .inl ht.sameData⟩

theorem Command.Ends.completed {c : Command} (h : c.Ends σ s τ t) : c.Ends σ s τ t.completed :=
  ⟨h.1, h.2.trans (.completed (.refl t))⟩

theorem Command.Ends.record {c : Command} (h : c.Ends σ s τ t) (event : Event) :
    c.Ends σ s τ { t with around := t.around.record event } :=
  ⟨h.1, h.2.trans (.record (.refl t) event)⟩

/-- A command that asks for the grant of a change may have the change applied. -/
theorem applyOne_ensures {command : Command} {c : Change} {h : Holder}
    (hc : c.target.holder? = some h) (ht : s.Untouched t)
    (hask : ∀ e, c.operation.effect? (c.grantOf h) = some e → command.AsksFor s e) :
    Acting.Ensures Store.setting (applyOne c) σ t (fun _ τ t' => command.Ends σ s τ t')
      fun _ τ t' => command.Ends σ s τ t' := by
  have hleaves {t' : Store} (happlied : c.Applied h σ s t') : command.Leaves σ s t' := by
    rcases happlied with hsame | ⟨hscope, e, he, hgenuine, hdata⟩
    · exact .inl hsame
    · refine .inr ⟨e, hask e he, hgenuine, ?_, hdata⟩
      cases hop : c.operation with
      | add =>
        obtain rfl : Effect.grantAdded (c.grantOf h) = e := by simpa [hop, Operation.effect?] using he
        exact hscope
      | remove =>
        obtain rfl : Effect.grantRemoved (c.grantOf h) = e := by
          simpa [hop, Operation.effect?] using he
        exact hscope
      | other name => simp [hop, Operation.effect?] at he
  unfold applyOne
  rw [Acting.ensures_bind]
  refine (Change.applyBatch_singleton_ensures hc ht).mono (fun outcomes τ t' hend => ?_)
    fun _ τ t' hend => ⟨hend.1, hleaves hend.2⟩
  cases outcomes <;> exact ⟨hend.1, hleaves hend.2⟩

theorem organization_of_sameOrganization {o : Organization} {project : Component}
    (h : sameOrganization o (some project) = .ok ()) : project.organization = o.uuid := by
  by_cases heq : project.organization = o.uuid
  · exact heq
  · simp [sameOrganization, heq] at h

theorem changeUserPermission_ensures (operation : Operation) (login : String)
    (permission : Permission) (projectId? projectKey? organizationKey? : Option String)
    (σ : Session) (s : Store) :
    let c : Command := .changeUserPermission operation login permission projectId? projectKey?
      organizationKey?
    Acting.Ensures Store.setting c.run σ s (fun _ => c.Ends σ s) fun _ => c.Ends σ s := by
  intro c
  have hs : s.Untouched s := .refl s
  have herr {t : Store} (ht : s.Untouched t) : c.Ends σ s σ t := c.ends_of_untouched (.refl s σ) ht
  show Acting.Ensures Store.setting (Reply.outcome <$> changeUserPermission operation login
    permission projectId? projectKey? organizationKey?) σ s _ _
  rw [Acting.ensures_map, changeUserPermission, Acting.ensures_bind, Acting.ensures_lift,
    Work.ensures_setting_transaction, Work.ensures_bind]
  refine Lookup.user_ensures hs (fun u hu => ?_) fun _ => herr hs.abandoned
  rw [Work.ensures_bind]
  refine Lookup.project?_ensures hs (fun project? hproject => ?_) fun _ => herr hs.abandoned
  have happly {organization : String} (ho : s.IsOwner organizationKey? organization project?) :
      Acting.Ensures Store.setting (do
        orRaise (permission.validate project?.isSome)
        applyOne ⟨operation, organization, permission, project?.map (·.uuid),
          .user u.id u.login⟩) σ s.completed (fun _ => c.Ends σ s) fun _ => c.Ends σ s := by
    rw [Acting.ensures_bind, Acting.ensures_orRaise]
    cases permission.validate project?.isSome with
    | error r => exact herr hs.completed
    | ok a =>
      exact applyOne_ensures rfl hs.completed fun e he =>
        ⟨u, project?, organization, hu, hproject, ho, he⟩
  cases project? with
  | some project => exact happly rfl
  | none =>
    dsimp only
    rw [Work.ensures_bind]
    refine Lookup.organization_ensures hs (fun o ho => ?_) fun _ => herr hs.abandoned
    exact happly ⟨o, ho, rfl⟩

theorem changeGroupPermission_ensures (operation : Operation) (permission : Permission)
    (groupId? : Option Int) (groupName? projectId? projectKey? organizationKey? : Option String)
    (σ : Session) (s : Store) :
    let c : Command := .changeGroupPermission operation permission groupId? groupName? projectId?
      projectKey? organizationKey?
    Acting.Ensures Store.setting c.run σ s (fun _ => c.Ends σ s) fun _ => c.Ends σ s := by
  intro c
  have hs : s.Untouched s := .refl s
  have herr {t : Store} (ht : s.Untouched t) : c.Ends σ s σ t := c.ends_of_untouched (.refl s σ) ht
  show Acting.Ensures Store.setting (Reply.outcome <$> changeGroupPermission operation permission
    groupId? groupName? projectId? projectKey? organizationKey?) σ s _ _
  rw [Acting.ensures_map, changeGroupPermission, Acting.ensures_bind, Acting.ensures_lift,
    Work.ensures_setting_transaction, Work.ensures_bind]
  refine Lookup.group_ensures hs (fun o group? hgroup => ?_) fun _ => herr hs.abandoned
  rw [Work.ensures_bind]
  refine Lookup.project?_ensures hs (fun project? hproject => ?_) fun _ => herr hs.abandoned
  show Acting.Ensures Store.setting _ σ s.completed _ _
  rw [Acting.ensures_bind, Acting.ensures_orRaise]
  cases permission.validate project?.isSome with
  | error r => exact herr hs.completed
  | ok a =>
    dsimp only
    rw [Acting.ensures_bind, Acting.ensures_orRaise]
    cases hsame : sameOrganization o project? with
    | error r => exact herr hs.completed
    | ok a =>
      refine applyOne_ensures rfl hs.completed fun e he =>
        ⟨o, group?, project?, hgroup, hproject, ?_, he⟩
      rintro project rfl
      exact organization_of_sameOrganization hsame

theorem addUserToGroup_ensures (login : String) (groupId? : Option Int)
    (groupName? organizationKey? : Option String) (σ : Session) (s : Store) :
    let c : Command := .addUserToGroup login groupId? groupName? organizationKey?
    Acting.Ensures Store.setting c.run σ s (fun _ => c.Ends σ s) fun _ => c.Ends σ s := by
  intro c
  have hs : s.Untouched s := .refl s
  show Acting.Ensures Store.setting (Reply.done <$> addUserToGroup login groupId? groupName?
    organizationKey?) σ s _ _
  rw [Acting.ensures_map, addUserToGroup, Acting.ensures_bind]
  refine Session.checkSignedIn_ensures (fun hsigned => ?_)
    fun _ _ => c.ends_of_untouched (.refl s σ) hs
  rw [Acting.ensures_bind, Acting.ensures_setting_transaction, Acting.ensures_bind,
    Acting.ensures_lift]
  refine Lookup.group_ensures hs (fun o group? hgroup => ?_)
    fun _ => c.ends_of_untouched (.refl s σ) hs.abandoned
  dsimp only
  rw [Acting.ensures_bind]
  refine Session.checkAdministers_ensures hs (fun τ t hτ ht hadmin => ?_)
    fun _ τ t hτ ht => c.ends_of_untouched hτ ht.abandoned
  cases group? with
  | none => exact c.ends_of_untouched hτ ht.abandoned
  | some g =>
    dsimp only [Option.map_some]
    rw [Acting.ensures_bind, Acting.ensures_lift]
    refine Lookup.user_ensures ht (fun u hu => ?_) fun _ => c.ends_of_untouched hτ ht.abandoned
    dsimp only
    rw [Acting.ensures_bind]
    refine Acting.ensures_read ht trivial (fun there hthere => ?_)
      fun _ => c.ends_of_untouched hτ ht.abandoned
    obtain rfl : s.members.contains (g.id, u.id) = there := Except.ok.inj hthere
    by_cases hmember : s.members.contains (g.id, u.id) = true
    · rw [if_pos hmember]
      exact c.ends_of_untouched hτ ht.completed
    · rw [if_neg hmember, Acting.ensures_bind, Acting.ensures_setting_query]
      have hdone : c.Ends σ s τ (t.addMember g.id u.id).completed := by
        obtain ⟨hg, ho⟩ := Store.mem_of_groupOf? hgroup
        refine ⟨hτ, .inr ⟨.memberAdded g.id u.id, ⟨u, o, g, hu, hgroup, rfl⟩, ?_, ?_,
          (ht.sameData.on _).completed⟩⟩
        · exact fun hmem => hmember (List.contains_iff_mem.mpr hmem)
        · exact ⟨hsigned, g, hg, rfl, ho ▸ hadmin⟩
      show Acting.Ensures Store.setting _ τ (t.addMember g.id u.id).completed _ _
      rw [Acting.ensures_bind, Acting.ensures_setting_record]
      exact hdone.record _

theorem removeUserFromTemplate_ensures (login : String) (permission : Permission)
    (templateId? templateName? organizationKey? : Option String) (σ : Session) (s : Store) :
    let c : Command := .removeUserFromTemplate login permission templateId? templateName?
      organizationKey?
    Acting.Ensures Store.setting c.run σ s (fun _ => c.Ends σ s) fun _ => c.Ends σ s := by
  intro c
  have hs : s.Untouched s := .refl s
  show Acting.Ensures Store.setting (do
    removeUserFromTemplate login permission templateId? templateName? organizationKey?
    return Reply.nothing) σ s _ _
  rw [Acting.ensures_bind, removeUserFromTemplate, Acting.ensures_bind]
  refine Session.checkSignedIn_ensures (fun hsigned => ?_)
    fun _ _ => c.ends_of_untouched (.refl s σ) hs
  rw [Acting.ensures_bind, Acting.ensures_orRaise]
  cases permission.validateForProject with
  | error r => exact c.ends_of_untouched (.refl s σ) hs
  | ok a =>
    dsimp only
    rw [Acting.ensures_bind, Acting.ensures_setting_transaction, Acting.ensures_bind,
      Acting.ensures_lift]
    refine Lookup.template_ensures hs (fun tpl htpl => ?_)
      fun _ => c.ends_of_untouched (.refl s σ) hs.abandoned
    rw [Acting.ensures_bind]
    refine Session.checkAdministers_ensures hs (fun τ t hτ ht hadmin => ?_)
      fun _ τ t hτ ht => c.ends_of_untouched hτ ht.abandoned
    rw [Acting.ensures_bind, Acting.ensures_lift]
    refine Lookup.user_ensures ht (fun u hu => ?_) fun _ => c.ends_of_untouched hτ ht.abandoned
    dsimp only
    rw [Acting.ensures_bind, Acting.ensures_setting_query]
    have hdone : c.Ends σ s τ (t.removeTemplateGrant ⟨tpl.uuid, .user u.id u.login, permission⟩) := by
      refine ⟨hτ, ?_⟩
      by_cases hgiven : (⟨tpl.uuid, .user u.id u.login, permission⟩ : TemplateGrant) ∈
          s.templateGrants
      · refine .inr ⟨.templateGrantRemoved _, ⟨u, tpl, hu, htpl, rfl⟩, hgiven, ?_,
          ht.sameData.on _⟩
        exact ⟨hsigned, tpl, Store.mem_of_templateOf? htpl, rfl, hadmin⟩
      · exact .inl (ht.sameData.removeTemplateGrant_of_not_mem hgiven)
    show Acting.Ensures Store.setting _ τ (Store.completed _) _ _
    rw [Acting.ensures_setting_record]
    exact hdone.completed.record _

/-- A new template gets the identifier that is given out next. -/
theorem insertTemplate_ensures {k : String → Option String → Template}
    {ok : Template → Session → Store → Prop} {err : Fault → Session → Store → Prop}
    (ht : s.Untouched t)
    (hok : ∀ at? t', ((Effect.templateAdded (k (uuidOf (s.around.issued + 1)) at?)).on s).SameData
      t' → ok (k (uuidOf (s.around.issued + 1)) at?) τ t') :
    Acting.Ensures Store.setting (do
      let now ← Request.ask .now
      let uuid ← Request.ask .freshUuid
      Query.ask (.insertTemplate (k uuid (some now.toUniversal.text)))
      return k uuid (some now.toUniversal.text)) τ t ok err := by
  obtain ⟨commits, rollbacks, rfl⟩ := ht
  refine (Acting.ensures_bind _ _).mpr ((Acting.ensures_setting_ask .now).mpr ?_)
  refine (Acting.ensures_bind _ _).mpr ((Acting.ensures_setting_ask .freshUuid).mpr ?_)
  refine (Acting.ensures_bind _ _).mpr (Acting.ensures_setting_query.mpr ?_)
  exact hok _ _ ⟨_, _, rfl⟩

/-- Making a template ends with what was found, or with one more template: its name is the trimmed
one, which says something and which no template of the organization had before in any case. The
trimmed name has a name of its own, or else the trimming is evaluated at every step. -/
theorem createTemplate_makes {name : Option String} {trimmed : String}
    (htrimmed : Text.trim (name.getD "") = trimmed)
    (description? keyPattern? organizationKey? : Option String) (σ : Session) (s : Store)
    {Q : Session → Store → Prop} (hfound : ∀ τ t, Learned s σ τ → s.Untouched t → Q τ t)
    (hmade : ∀ o at? τ t, s.organizationOf? organizationKey? = some o →
      ¬ trimmed.isEmpty = true → s.templateByName? o.uuid trimmed = none →
      σ.principal.isSignedIn = true → Learned s σ τ → σ.Administers s (.organization o.uuid) →
      ((Effect.templateAdded ⟨uuidOf (s.around.issued + 1), o.uuid, trimmed, description?,
        keyPattern?, at?, at?⟩).on s).SameData t → Q τ t) :
    Acting.Ensures Store.setting (createTemplate name description? keyPattern? organizationKey?)
      σ s (fun _ => Q) fun _ => Q := by
  have hs : s.Untouched s := .refl s
  rw [createTemplate]
  dsimp only
  rw [htrimmed, Acting.ensures_bind]
  refine Session.checkSignedIn_ensures (fun hsigned => ?_) fun _ _ => hfound σ s (.refl s σ) hs
  rw [Acting.ensures_bind, Acting.ensures_setting_transaction, Acting.ensures_bind,
    Acting.ensures_lift]
  refine Lookup.organization_ensures hs (fun o ho => ?_)
    fun _ => hfound σ _ (.refl s σ) hs.abandoned
  rw [Acting.ensures_bind]
  refine Session.checkAdministers_ensures hs (fun τ t hτ ht hadmin => ?_)
    fun _ τ t hτ ht => hfound τ _ hτ ht.abandoned
  have herr : Q τ t.abandoned := hfound τ _ hτ ht.abandoned
  by_cases hblank : trimmed.isEmpty = true
  · rw [if_pos hblank]
    exact herr
  · rw [if_neg hblank, Acting.ensures_bind, Acting.ensures_liftExcept]
    cases validateKeyPattern keyPattern? with
    | error f => exact herr
    | ok a =>
      dsimp only
      rw [Acting.ensures_bind]
      refine Acting.ensures_read ht trivial (fun found hfree => ?_) fun _ => herr
      cases found with
      | some tpl => exact herr
      | none =>
        rw [Option.isSome_none, if_neg Bool.false_ne_true]
        refine insertTemplate_ensures (k := fun uuid at? => ⟨uuid, o.uuid, trimmed, description?,
          keyPattern?, at?, at?⟩) ht fun at? t' ht' => ?_
        rw [Acting.ensures_bind, Acting.ensures_setting_record]
        exact hmade o at? τ _ ho hblank (Except.ok.inj hfree) hsigned hτ hadmin
          (ht'.completed.record _)

theorem createTemplate_ensures (name description? keyPattern? organizationKey? : Option String)
    (σ : Session) {s : Store} (hfresh : s.NextUuidFresh) :
    let c : Command := .createTemplate name description? keyPattern? organizationKey?
    Acting.Ensures Store.setting c.run σ s (fun _ => c.Ends σ s) fun _ => c.Ends σ s := by
  intro c
  show Acting.Ensures Store.setting (Reply.template <$> createTemplate name description?
    keyPattern? organizationKey?) σ s _ _
  rw [Acting.ensures_map]
  generalize htrimmed : Text.trim (name.getD "") = trimmed
  refine createTemplate_makes htrimmed description? keyPattern? organizationKey? σ s
    (fun _ _ => c.ends_of_untouched) fun o at? τ t ho _ _ hsigned hτ hadmin ht => ?_
  refine ⟨hτ, .inr ⟨_, ?_, ?_, ?_, ht⟩⟩
  · exact ⟨o, at?, ho, by rw [htrimmed]⟩
  · exact hfresh
  · exact ⟨hsigned, hadmin⟩

theorem unsetRoot_ensures (login? : Option String) (σ : Session) (s : Store) :
    let c : Command := .unsetRoot login?
    Acting.Ensures Store.setting c.run σ s (fun _ => c.Ends σ s) fun _ => c.Ends σ s := by
  intro c
  have hs : s.Untouched s := .refl s
  show Acting.Ensures Store.setting (Reply.done <$> unsetRoot login?) σ s _ _
  rw [Acting.ensures_map, unsetRoot, Acting.ensures_bind]
  refine Session.checkRoot_ensures (fun hroot => ?_) fun _ _ => c.ends_of_untouched (.refl s σ) hs
  cases hlogin : given? login? with
  | none => exact c.ends_of_untouched (.refl s σ) hs
  | some login =>
    dsimp only
    rw [Acting.ensures_bind, Acting.ensures_setting_transaction, Acting.ensures_setting_query]
    have hdone : c.Ends σ s σ (s.setRoot login false).2 := by
      refine ⟨.refl s σ, ?_⟩
      rcases s.setRoot_false login with hsame | ⟨hgenuine, heffect⟩
      · rw [hsame]
        exact .inl (.refl s)
      · rw [heffect]
        exact .inr ⟨.rootCleared login, ⟨login, hlogin, rfl⟩, hgenuine, hroot, .refl _⟩
    rw [Store.answer_setRoot]
    dsimp only
    cases (s.setRoot login false).1 with
    | false => exact hdone.completed
    | true =>
      refine (Acting.ensures_bind _ _).mpr ((Acting.ensures_bind _ _).mpr ?_)
      exact Acting.ensures_setting_record.mpr (hdone.completed.record _)

theorem searchGroups_ensures (query? : Option String) (page : Page)
    (organizationKey? : Option String) (σ : Session) (s : Store) :
    let c : Command := .searchGroups query? page organizationKey?
    Acting.Ensures Store.setting c.run σ s (fun _ => c.Ends σ s) fun _ => c.Ends σ s := by
  intro c
  have hs : s.Untouched s := .refl s
  have herr {t : Store} (ht : s.Untouched t) : c.Ends σ s σ t := c.ends_of_untouched (.refl s σ) ht
  show Acting.Ensures Store.setting (Reply.groups <$> searchGroups query? page organizationKey?)
    σ s _ _
  rw [Acting.ensures_map, searchGroups, Acting.ensures_bind]
  refine Session.checkSignedIn_ensures (fun _ => ?_) fun _ _ => herr hs
  rw [Acting.ensures_bind, Acting.ensures_orRaise]
  cases page.validate with
  | error r => exact herr hs
  | ok a =>
    dsimp only
    rw [Acting.ensures_setting_transaction, Acting.ensures_bind, Acting.ensures_lift]
    refine Lookup.organization_ensures hs (fun o _ => ?_) fun _ => herr hs.abandoned
    rw [Acting.ensures_bind]
    refine Acting.ensures_read hs trivial (fun total _ => ?_) fun _ => herr hs.abandoned
    rw [Acting.ensures_bind]
    refine Acting.ensures_read hs trivial (fun rows _ => ?_) fun _ => herr hs.abandoned
    exact herr hs.completed

theorem searchMyProjects_ensures (query? : Option String) (page : Page) (σ : Session)
    (s : Store) :
    let c : Command := .searchMyProjects query? page
    Acting.Ensures Store.setting c.run σ s (fun _ => c.Ends σ s) fun _ => c.Ends σ s := by
  intro c
  have hs : s.Untouched s := .refl s
  have herr {t : Store} (ht : s.Untouched t) : c.Ends σ s σ t := c.ends_of_untouched (.refl s σ) ht
  show Acting.Ensures Store.setting (Reply.projects <$> searchMyProjects query? page) σ s _ _
  rw [Acting.ensures_map, searchMyProjects, Acting.ensures_bind]
  refine Session.signedIn_ensures (fun caller _ => ?_) fun _ _ => herr hs
  rw [Acting.ensures_bind, Acting.ensures_orRaise]
  cases page.validate with
  | error r => exact herr hs
  | ok a =>
    dsimp only
    rw [Acting.ensures_bind, Acting.ensures_orRaise]
    cases validateQueryLength (searchText query?) with
    | error r => exact herr hs
    | ok a =>
      dsimp only
      rw [Acting.ensures_setting_transaction, Acting.ensures_bind]
      refine Acting.ensures_read hs trivial (fun total _ => ?_) fun _ => herr hs.abandoned
      rw [Acting.ensures_bind]
      refine Acting.ensures_read hs trivial (fun rows _ => ?_) fun _ => herr hs.abandoned
      exact herr hs.completed

theorem templateGroups_ensures (templateId? templateName? permission? query? : Option String)
    (page : Page) (organizationKey? : Option String) (σ : Session) (s : Store) :
    let c : Command := .templateGroups templateId? templateName? permission? query? page
      organizationKey?
    Acting.Ensures Store.setting c.run σ s (fun _ => c.Ends σ s) fun _ => c.Ends σ s := by
  intro c
  have hs : s.Untouched s := .refl s
  have herr {t : Store} (ht : s.Untouched t) : c.Ends σ s σ t := c.ends_of_untouched (.refl s σ) ht
  show Acting.Ensures Store.setting (Reply.templateGroups <$> templateGroups templateId?
    templateName? permission? query? page organizationKey?) σ s _ _
  rw [Acting.ensures_map, templateGroups, Acting.ensures_bind]
  refine Session.checkSignedIn_ensures (fun _ => ?_) fun _ _ => herr hs
  have hlist : Acting.Ensures Store.setting (do
      orRaise page.validate
      transaction do
        let template ← Session.lift (Lookup.template templateId? templateName? organizationKey?)
        Session.checkAdministers (some (.organization template.organization))
        let total ← Query.ask (.countTemplateGroups template.uuid template.organization
          permission? (searchText query?))
        let groups ← Query.ask (.searchTemplateGroups template.uuid template.organization
          permission? (searchText query?) page.offset page.size)
        return (⟨groups, page, total⟩ : Listing TemplateGroup)) σ s (fun _ => c.Ends σ s)
      fun _ => c.Ends σ s := by
    rw [Acting.ensures_bind, Acting.ensures_orRaise]
    cases page.validate with
    | error r => exact herr hs
    | ok a =>
      dsimp only
      rw [Acting.ensures_setting_transaction, Acting.ensures_bind, Acting.ensures_lift]
      refine Lookup.template_ensures hs (fun tpl _ => ?_) fun _ => herr hs.abandoned
      rw [Acting.ensures_bind]
      refine Session.checkAdministers_ensures hs (fun τ t hτ ht _ => ?_)
        fun _ τ t hτ ht => c.ends_of_untouched hτ ht.abandoned
      rw [Acting.ensures_bind]
      refine Acting.ensures_read ht trivial (fun total _ => ?_)
        fun _ => c.ends_of_untouched hτ ht.abandoned
      rw [Acting.ensures_bind]
      refine Acting.ensures_read ht trivial (fun rows _ => ?_)
        fun _ => c.ends_of_untouched hτ ht.abandoned
      exact c.ends_of_untouched hτ ht.completed
  dsimp only
  cases given? permission? with
  | none => exact hlist
  | some permission =>
    dsimp only
    rw [Acting.ensures_bind, Acting.ensures_orRaise]
    cases Permission.validateForProject permission with
    | error r => exact herr hs
    | ok a => exact hlist

/-- The command gives out an identifier. -/
def Command.DrawsUuid : Command → Prop
  | .createTemplate .. => True
  | _ => False

/-- Whatever is called, by whomever, on whichever store: the command ends as it may. -/
theorem Command.run_ensures (c : Command) (σ : Session) {s : Store}
    (hfresh : c.DrawsUuid → s.NextUuidFresh) :
    Acting.Ensures Store.setting c.run σ s (fun _ => c.Ends σ s) fun _ => c.Ends σ s := by
  cases c with
  | changeUserPermission => exact changeUserPermission_ensures ..
  | changeGroupPermission => exact changeGroupPermission_ensures ..
  | createTemplate => exact createTemplate_ensures _ _ _ _ σ (hfresh trivial)
  | removeUserFromTemplate => exact removeUserFromTemplate_ensures ..
  | templateGroups => exact templateGroups_ensures ..
  | addUserToGroup => exact addUserToGroup_ensures ..
  | searchGroups => exact searchGroups_ensures ..
  | searchMyProjects => exact searchMyProjects_ensures ..
  | unsetRoot => exact unsetRoot_ensures ..

/-- How a command ends is how its run ends. -/
theorem Command.ends_of_run (c : Command) (σ : Session) {s : Store} (hfresh : s.NextUuidFresh) :
    c.Ends σ s (s.run (c.run.run.run σ)).1.2 (s.run (c.run.run.run σ)).2 :=
  Acting.end_of_ensures (c.run_ensures σ fun _ => hfresh)

/-- The command looks for something and is not meant to change anything. -/
def Command.IsSearch : Command → Prop
  | .templateGroups .. | .searchGroups .. | .searchMyProjects .. => True
  | _ => False

/-- A search asks for no effect. -/
theorem Command.Leaves.sameData {c : Command} (h : c.Leaves σ s t) (hc : c.IsSearch) :
    s.SameData t := by
  rcases h with h | ⟨e, hask, -⟩
  · exact h
  · cases c with
    | templateGroups | searchGroups | searchMyProjects => exact hask.elim
    | _ => exact hc.elim

/-- Whatever a session does to a store is a single effect that it asked for and was entitled to by
the permissions it goes by; searches do nothing, and a batch does nothing at all, not even lock an
organization, unless the session administers the scope of every change of it. -/
theorem effects_authorized (σ : Session) {s : Store} (hfresh : s.NextUuidFresh) :
    (∀ c : Command, c.Leaves σ s (s.run (c.run.run.run σ)).2) ∧
      (∀ c : Command, c.IsSearch → s.SameData (s.run (c.run.run.run σ)).2) ∧
      ∀ changes, s.Untouched (s.run ((Change.applyBatch changes).run.run σ)).2 ∨
        ∀ c ∈ changes, σ.Administers s c.scope := by
  refine ⟨fun c => (c.ends_of_run σ hfresh).2, fun c hc => ?_, fun changes => ?_⟩
  · exact (c.ends_of_run σ hfresh).2.sameData hc
  · exact Acting.end_of_ensures (Change.applyBatch_ensures changes σ s)

/-- In the sample with a template the user `root` adds a grant, makes a second template and applies
a batch of one change, and was entitled to all of it; a search changes nothing. -/
theorem effects_authorized_root :
    let s : Store := { Store.sample default with
      templates := [⟨uuidOf 0, Store.sampleDefault, "Standard", none, none, none, none⟩] }
    let σ := Session.ofUser? (s.userByLogin? "root")
    let add : Command := .changeUserPermission .add "alice" "scan" none none none
    let make : Command := .createTemplate (some "Strict") none none none
    let search : Command := .searchGroups none ⟨1, 10⟩ none
    let change : Change := ⟨.add, Store.sampleDefault, "scan", none, .user 2 "alice"⟩
    s.NextUuidFresh ∧
      (∃ e, add.AsksFor s e ∧ e.Genuine s ∧ σ.EntitledTo s e ∧
        (e.on s).SameData (s.run (add.run.run.run σ)).2) ∧
      (∃ e, make.AsksFor s e ∧ e.Genuine s ∧ σ.EntitledTo s e ∧
        (e.on s).SameData (s.run (make.run.run.run σ)).2) ∧
      s.SameData (s.run (search.run.run.run σ)).2 ∧ σ.Administers s change.scope := by
  intro s σ add make search change
  have hfresh : s.NextUuidFresh := by
    intro tpl htpl heq
    obtain rfl := List.mem_singleton.mp htpl
    exact absurd (uuidOf_injective heq) (by decide)
  obtain ⟨hleaves, hsearch, hbatch⟩ := effects_authorized σ hfresh
  refine ⟨hfresh, ?_, ?_, hsearch search trivial, ?_⟩
  · refine (hleaves add).resolve_left fun ⟨_, _, hsame⟩ => ?_
    have hgrants : (s.run (add.run.run.run σ)).2.grants = s.grants := by rw [hsame]
    exact absurd hgrants (by decide)
  · refine (hleaves make).resolve_left fun ⟨_, _, hsame⟩ => ?_
    have htemplates : (s.run (make.run.run.run σ)).2.templates = s.templates :=
      by rw [hsame]
    exact absurd htemplates (by decide)
  · refine (hbatch [change]).resolve_left (fun ⟨_, _, hsame⟩ => ?_) change List.mem_cons_self
    have hgrants : (s.run ((Change.applyBatch [change]).run.run σ)).2.grants = s.grants :=
      by rw [hsame]
    exact absurd hgrants (by decide)

/-- The sample with one more organization, which has no identifier. -/
def sampleNameless (around : Surroundings) : Store :=
  { Store.sample around with
    organizations := (Store.sample around).organizations ++ [⟨"", "nameless", "Nameless"⟩] }

/-- An organization without an identifier is in the hands of those who administer the default
organization: the user `root` adds a grant of it without the permission to administer it. -/
theorem grant_added_to_nameless :
    let s := sampleNameless default
    let σ := Session.ofUser? (s.userByLogin? "root")
    let g : Grant := ⟨"", .user 2 "alice", "scan", .organization ""⟩
    let c : Command := .changeUserPermission .add "alice" "scan" none none (some "nameless")
    s.NextUuidFresh ∧ g ∉ s.grants ∧ g ∈ (s.run (c.run.run.run σ)).2.grants ∧
      (σ.view s).allowsOrganization Permission.administer "" = false := by
  refine ⟨nofun, ?_, ?_, ?_⟩ <;> decide

end Service

end Entitlements
