import Entitlements.Proofs.Service.Effects
import Entitlements.Proofs.Store.Accounts

/-!
# What refused callers learn about accounts

A caller who does not administer what a command is about is refused, and nearly always before any
account is looked at: whichever accounts there are, the command fails in the same way. Only the
commands that change a permission of a user look for the user first, so that the refusal tells
whether there is an active user of the login. Nothing else about accounts shows in it.
-/

namespace Entitlements

variable {α β γ δ : Type} {us : List User} {σ : Session} {s t : Store}

namespace Acting

/-- After a failure nothing is done any more. -/
theorem Agree.stop {a : Acting α} {a' : Acting β} {k : α → Acting γ} {k' : β → Acting δ}
    {ok : γ → δ → Session → Store → Prop} (h : Agree us a a' σ s fun _ _ _ _ => False) :
    Agree us (a >>= k) (a' >>= k') σ s ok :=
  h.bind fun _ _ _ _ => False.elim

end Acting

namespace Lookup

theorem run_user (login : String) (s : Store) :
    s.run (user login).run =
      (match s.activeUser? login with
        | none => .error (.refused (.notFound "User" (.text login)))
        | some u => .ok (u.id, u.login), s) := by
  show s.run (orNotFound "User" (.text login) (s.activeUser? login) >>= fun u =>
    (pure (u.id, u.login) : Work (Int × String))).run = _
  cases s.activeUser? login <;> rfl

/-- Looking for a user tells whether there is one who is active. -/
theorem user_agree {login : String} (h : (s.activeUser? login).isSome =
    ((s.withUsers us).activeUser? login).isSome) :
    Work.Agree us (user login) (user login) s fun _ _ t => s = t := by
  refine ⟨_, _, s, run_user login s, run_user login (s.withUsers us), ?_⟩
  cases hu : s.activeUser? login with
  | none =>
    rw [hu] at h
    rw [Option.not_isSome_iff_eq_none.mp (Bool.eq_false_iff.mp h.symm)]
    exact .fault _
  | some u =>
    rw [hu] at h
    obtain ⟨u', hu'⟩ := Option.isSome_iff_exists.mp h.symm
    rw [hu']
    exact .value rfl

theorem organization_agree (key? : Option String) :
    Work.Agree us (organization key?) (organization key?) s fun o o' t =>
      o = o' ∧ s = t ∧ s.organizationOf? key? = some o :=
  (organization_skipsUsers key?).skipsUsers.agree
    (organization_ensures (.refl s) (fun _ ho => ⟨rfl, ho⟩) fun _ => trivial)

theorem project?_agree (id? key? : Option String) :
    Work.Agree us (project? id? key?) (project? id? key?) s fun c? c?' t =>
      c? = c?' ∧ s = t ∧ s.LeadsTo id? key? c? :=
  (project?_skipsUsers id? key?).skipsUsers.agree
    (project?_ensures (.refl s) (fun _ hc => ⟨rfl, hc⟩) fun _ => trivial)

theorem group_agree (organizationKey? : Option String) (id? : Option Int)
    (name? : Option String) :
    Work.Agree us (group organizationKey? id? name?) (group organizationKey? id? name?) s
      fun found found' t => found = found' ∧ s = t ∧
        ∃ g?, s.groupOf? organizationKey? id? name? = some (found.1, g?) :=
  (group_skipsUsers organizationKey? id? name?).skipsUsers.agree
    (group_ensures (.refl s) (fun _ g? hg => ⟨rfl, g?, hg⟩) fun _ => trivial)

theorem template_agree (id? name? organizationKey? : Option String) :
    Work.Agree us (template id? name? organizationKey?) (template id? name? organizationKey?) s
      fun tpl tpl' t => tpl = tpl' ∧ s = t ∧
        s.templateOf? id? name? organizationKey? = some tpl :=
  (template_skipsUsers id? name? organizationKey?).skipsUsers.agree
    (template_ensures (.refl s) (fun _ htpl => ⟨rfl, htpl⟩) fun _ => trivial)

end Lookup

namespace Session

theorem checkSignedIn_agree :
    Acting.Agree us checkSignedIn checkSignedIn σ s fun _ _ τ t => σ = τ ∧ s = t :=
  (checkSignedIn_asksOnly.agree (P := fun _ τ t => σ = τ ∧ s = t)
    (checkSignedIn_ensures (fun _ => ⟨rfl, rfl⟩) fun _ _ => trivial)).mono fun _ _ _ _ => And.right

/-- Whoever does not administer a scope is told so without a look at accounts. -/
theorem checkAdministers_agree {scope : Scope} (ht : s.Untouched t) (h : ¬ σ.Administers s scope) :
    Acting.Agree us (checkAdministers (some scope)) (checkAdministers (some scope)) σ t
      fun _ _ _ _ => False := by
  have hrefused : Acting.Ensures Store.setting (checkAdministers (some scope)) σ t
      (fun _ _ _ => False) fun _ _ _ => True :=
    checkAdministers_ensures ht (fun _ _ _ _ => h) fun _ _ _ _ _ => trivial
  exact ((checkAdministers_skipsUsers (some scope)).agree hrefused).mono fun _ _ _ _ => And.right

end Session

namespace Service

/-- What the command is about, with its references resolved on the store. -/
def Command.Targets (s : Store) : Command → Scope → Prop
  | .changeUserPermission _ _ _ projectId? projectKey? organizationKey?, scope =>
    ∃ project? organization, s.LeadsTo projectId? projectKey? project? ∧
      s.IsOwner organizationKey? organization project? ∧
      scope = .ofProject? organization (project?.map (·.uuid))
  | .changeGroupPermission _ _ groupId? groupName? projectId? projectKey? organizationKey?,
      scope =>
    ∃ o group? project?, s.groupOf? organizationKey? groupId? groupName? = some (o, group?) ∧
      s.LeadsTo projectId? projectKey? project? ∧
      (∀ project, project? = some project → project.organization = o.uuid) ∧
      scope = .ofProject? o.uuid (project?.map (·.uuid))
  | .createTemplate _ _ _ organizationKey?, scope =>
    ∃ o, s.organizationOf? organizationKey? = some o ∧ scope = .organization o.uuid
  | .removeUserFromTemplate _ _ templateId? templateName? organizationKey?, scope =>
    ∃ tpl, s.templateOf? templateId? templateName? organizationKey? = some tpl ∧
      scope = .organization tpl.organization
  | .addUserToGroup _ groupId? groupName? organizationKey?, scope =>
    ∃ o group?, s.groupOf? organizationKey? groupId? groupName? = some (o, group?) ∧
      scope = .organization o.uuid
  | .templateGroups .., _ | .searchGroups .., _ | .searchMyProjects .., _ | .unsetRoot _, _ => False

/-- The command changes permissions, groups or templates. -/
def Command.Manages : Command → Prop
  | .changeUserPermission .. | .changeGroupPermission .. | .createTemplate ..
  | .removeUserFromTemplate .. | .addUserToGroup .. => True
  | .templateGroups .. | .searchGroups .. | .searchMyProjects .. | .unsetRoot _ => False

/-- The login that a command looks for before it knows what the caller may do. -/
def Command.probed? : Command → Option String
  | .changeUserPermission _ login .. => some login
  | _ => none

variable (us)

/-- Changes of one scope are refused in the same way, whomever they are for. -/
theorem applyOne_agree {c c' : Change} (hscope : c'.scope = c.scope) (ht : s.Untouched t)
    (h : ¬ σ.Administers s c.scope) :
    Acting.Agree us (applyOne c) (applyOne c') σ t fun _ _ _ _ => False := by
  simp only [applyOne, Change.applyBatch, Change.checkAll, hscope]
  exact .stop (.stop (.stop (Session.checkAdministers_agree ht h)))

/-- The user that was found is left aside: what is refused is a change of the scope. -/
theorem changeUserPermission_agree (operation : Operation) {login : String}
    (permission : Permission) {projectId? projectKey? organizationKey? : Option String}
    (hlogin : (s.activeUser? login).isSome = ((s.withUsers us).activeUser? login).isSome)
    (h : ∀ scope, (Command.changeUserPermission operation login permission projectId? projectKey?
      organizationKey?).Targets s scope → ¬ σ.Administers s scope) :
    let a := changeUserPermission operation login permission projectId? projectKey?
      organizationKey?
    Acting.Agree us a a σ s fun _ _ _ _ => False := by
  have hs : s.Untouched s := .refl s
  intro a
  refine (Acting.Agree.lift (R := fun found found' t => found.2 = found'.2 ∧ s.Untouched t ∧
    s.LeadsTo projectId? projectKey? found.2.1 ∧
    s.IsOwner organizationKey? found.2.2 found.2.1) ?_).bind ?_
  · refine .transaction ((Lookup.user_agree hlogin).bind ?_)
    rintro user user' _ rfl
    refine (Lookup.project?_agree _ _).bind ?_
    rintro project? _ _ ⟨rfl, rfl, hproject⟩
    cases project? with
    | some project => exact .value ⟨rfl, hs.completed, hproject, rfl⟩
    | none =>
      refine (Lookup.organization_agree _).bind ?_
      rintro o _ _ ⟨rfl, rfl, ho⟩
      exact .value ⟨rfl, hs.completed, hproject, o, ho, rfl⟩
  · rintro ⟨⟨id, login⟩, project?, organization⟩ ⟨⟨id', login'⟩, _, _⟩ _ t
      ⟨rfl, ⟨⟩, ht, hproject, howner⟩
    refine (Acting.Agree.orRaise _).bind ?_
    rintro _ _ _ _ ⟨-, rfl, rfl, rfl⟩
    exact applyOne_agree us rfl ht (h _ ⟨project?, organization, hproject, howner, rfl⟩)

theorem changeGroupPermission_agree (operation : Operation) (permission : Permission)
    {groupId? : Option Int} {groupName? projectId? projectKey? organizationKey? : Option String}
    (h : ∀ scope, (Command.changeGroupPermission operation permission groupId? groupName?
      projectId? projectKey? organizationKey?).Targets s scope → ¬ σ.Administers s scope) :
    let a := changeGroupPermission operation permission groupId? groupName? projectId?
      projectKey? organizationKey?
    Acting.Agree us a a σ s fun _ _ _ _ => False := by
  have hs : s.Untouched s := .refl s
  intro a
  refine (Acting.Agree.lift (R := fun found found' t => found = found' ∧ s.Untouched t ∧
    (∃ group?, s.groupOf? organizationKey? groupId? groupName? = some (found.1, group?)) ∧
    s.LeadsTo projectId? projectKey? found.2.2) ?_).bind ?_
  · refine .transaction ((Lookup.group_agree _ _ _).bind ?_)
    rintro ⟨o, id?⟩ _ _ ⟨rfl, rfl, hgroup⟩
    refine (Lookup.project?_agree _ _).bind ?_
    rintro project? _ _ ⟨rfl, rfl, hproject⟩
    exact .value ⟨rfl, hs.completed, hgroup, hproject⟩
  · rintro ⟨o, id?, project?⟩ _ _ t ⟨rfl, rfl, ht, ⟨group?, hgroup⟩, hproject⟩
    refine (Acting.Agree.orRaise _).bind ?_
    rintro _ _ _ _ ⟨-, rfl, rfl, rfl⟩
    refine (Acting.Agree.orRaise _).bind ?_
    rintro _ _ _ _ ⟨hsame, rfl, rfl, rfl⟩
    refine applyOne_agree us rfl ht (h _ ⟨o, group?, project?, hgroup, hproject, ?_, rfl⟩)
    rintro project rfl
    exact organization_of_sameOrganization hsame

theorem createTemplate_agree (name description? keyPattern? : Option String)
    {organizationKey? : Option String}
    (h : ∀ scope, (Command.createTemplate name description? keyPattern?
      organizationKey?).Targets s scope → ¬ σ.Administers s scope) :
    let a := createTemplate name description? keyPattern? organizationKey?
    Acting.Agree us a a σ s fun _ _ _ _ => False := by
  intro a
  refine Session.checkSignedIn_agree.bind ?_
  rintro _ _ _ _ ⟨rfl, rfl⟩
  refine .stop (.transaction ((Acting.Agree.lift (Lookup.organization_agree _)).bind ?_))
  rintro o _ _ _ ⟨rfl, rfl, rfl, ho⟩
  exact .stop (Session.checkAdministers_agree (.refl s) (h _ ⟨o, ho, rfl⟩))

theorem removeUserFromTemplate_agree (login : String) (permission : Permission)
    {templateId? templateName? organizationKey? : Option String}
    (h : ∀ scope, (Command.removeUserFromTemplate login permission templateId? templateName?
      organizationKey?).Targets s scope → ¬ σ.Administers s scope) :
    let a := removeUserFromTemplate login permission templateId? templateName? organizationKey?
    Acting.Agree us a a σ s fun _ _ _ _ => False := by
  intro a
  refine Session.checkSignedIn_agree.bind ?_
  rintro _ _ _ _ ⟨rfl, rfl⟩
  refine (Acting.Agree.orRaise _).bind ?_
  rintro _ _ _ _ ⟨-, rfl, rfl, rfl⟩
  refine .stop (.transaction ((Acting.Agree.lift (Lookup.template_agree _ _ _)).bind ?_))
  rintro tpl _ _ _ ⟨rfl, rfl, rfl, htpl⟩
  exact .stop (Session.checkAdministers_agree (.refl s) (h _ ⟨tpl, htpl, rfl⟩))

theorem addUserToGroup_agree (login : String) {groupId? : Option Int}
    {groupName? organizationKey? : Option String}
    (h : ∀ scope, (Command.addUserToGroup login groupId? groupName?
      organizationKey?).Targets s scope → ¬ σ.Administers s scope) :
    let a := addUserToGroup login groupId? groupName? organizationKey?
    Acting.Agree us a a σ s fun _ _ _ _ => False := by
  intro a
  refine Session.checkSignedIn_agree.bind ?_
  rintro _ _ _ _ ⟨rfl, rfl⟩
  refine .stop (.transaction ((Acting.Agree.lift (Lookup.group_agree _ _ _)).bind ?_))
  rintro ⟨o, id?⟩ _ _ _ ⟨rfl, rfl, rfl, group?, hgroup⟩
  exact .stop (Session.checkAdministers_agree (.refl s) (h _ ⟨o, group?, hgroup, rfl⟩))

/-- Whoever does not administer what a command is about is refused, and in the same way whichever
other users there are, the caller's own account included. For the commands that look for their user
first this is so as long as there is an active user of the login or there is none. -/
theorem refused_alike (c : Command) (hc : c.Manages) (σ : Session) (s : Store)
    (h : ∀ scope, c.Targets s scope → ¬ σ.Administers s scope) (us : List User)
    (hprobed : ∀ login, c.probed? = some login →
      (s.activeUser? login).isSome = ((s.withUsers us).activeUser? login).isSome) :
    ∃ f τ t, s.run (c.run.run.run σ) = ((.error f, τ), t) ∧
      (s.withUsers us).run (c.run.run.run σ) = ((.error f, τ), t.withUsers us) := by
  have hagree : Acting.Agree us c.run c.run σ s fun _ _ _ _ => False := by
    cases c with
    | changeUserPermission operation login permission =>
      exact .stop (changeUserPermission_agree us operation permission (hprobed login rfl) h)
    | changeGroupPermission operation permission =>
      exact .stop (changeGroupPermission_agree us operation permission h)
    | createTemplate => exact .stop (createTemplate_agree us _ _ _ h)
    | removeUserFromTemplate login permission =>
      exact .stop (removeUserFromTemplate_agree us login permission h)
    | addUserToGroup login => exact .stop (addUserToGroup_agree us login h)
    | templateGroups | searchGroups | searchMyProjects | unsetRoot => exact hc.elim
  obtain ⟨⟨x, τ⟩, ⟨y, υ⟩, t, hx, hy, hτ, hxy⟩ := hagree
  obtain rfl : τ = υ := hτ
  cases hxy with
  | value h => exact h.elim
  | fault f => exact ⟨f, τ, t, hx, hy⟩

/-- In the sample `bob` administers nothing. -/
theorem not_administers_bob (scope : Scope) :
    ¬ (Session.ofUser? ((Store.sample default).userByLogin? "bob")).Administers
      (Store.sample default) scope := by
  cases scope with
  | organization uuid =>
    rintro ⟨o, -, hallows⟩
    exact absurd hallows Bool.false_ne_true
  | project uuid o => exact fun hallows => absurd hallows Bool.false_ne_true

/-- In the sample `bob` may not grant `alice` anything, and it does not matter to him that `ghost`
can sign in, or that the account of `alice` is another one. -/
theorem refused_alike_bob :
    let s := Store.sample default
    let σ := Session.ofUser? (s.userByLogin? "bob")
    let c : Command := .changeUserPermission .add "alice" "scan" none none none
    let us : List User :=
      [⟨3, "bob", none, none, true, false⟩, ⟨4, "ghost", none, none, true, false⟩,
        ⟨5, "alice", none, none, true, true⟩]
    (c.Manages ∧ (∀ scope, c.Targets s scope → ¬ σ.Administers s scope) ∧
      ∀ login, c.probed? = some login →
        (s.activeUser? login).isSome = ((s.withUsers us).activeUser? login).isSome) ∧
      ∃ f τ t, s.run (c.run.run.run σ) = ((.error f, τ), t) ∧
        (s.withUsers us).run (c.run.run.run σ) = ((.error f, τ), t.withUsers us) := by
  intro s σ c us
  have hbarred : ∀ scope, c.Targets s scope → ¬ σ.Administers s scope :=
    fun scope _ => not_administers_bob scope
  have hprobed : ∀ login, c.probed? = some login →
      (s.activeUser? login).isSome = ((s.withUsers us).activeUser? login).isSome := by
    rintro login ⟨⟩
    decide
  exact ⟨⟨trivial, hbarred, hprobed⟩, refused_alike c trivial σ s hbarred us hprobed⟩

/-- By asking for a permission that he may not give, `bob` finds out whether there is an active user
of a login: he is refused in one way where there is one, and in another where there is none. -/
theorem refused_otherwise_without_alice :
    let s := Store.sample default
    let σ := Session.ofUser? (s.userByLogin? "bob")
    let c : Command := .changeUserPermission .add "alice" "scan" none none none
    let us := s.users.filter (·.login != "alice")
    (∀ scope, ¬ σ.Administers s scope) ∧
      (s.withUsers us).userByLogin? "bob" = s.userByLogin? "bob" ∧
      (s.run (c.run.run.run σ)).1.1 = .error (.refused .insufficientPrivileges) ∧
      ((s.withUsers us).run (c.run.run.run σ)).1.1 =
        .error (.refused (.notFound "User" (.text "alice"))) :=
  ⟨not_administers_bob, by decide, rfl, rfl⟩

end Service

end Entitlements
