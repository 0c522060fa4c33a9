import Entitlements.Proofs.Store.Holdings
import Entitlements.Proofs.Store.Orderly
import Entitlements.Proofs.Store.Resolution

/-!
# Stores that spare an organization

One store spares an organization of another when both have the same of it: its grants, the members
of its groups, its templates and what they give. Nobody has more or less in the organization then.

An organization without an identifier is governed from the default organization as well. What is
granted on the whole default organization is spared with it.
-/

namespace Entitlements

namespace Store

/-- Those who administer the one organization are let through to the other. -/
def Governs (s : Store) (o organization : String) : Prop :=
  o = organization ∨
    organization = "" ∧ s.defaultOrganization.toOption.map (·.uuid) = some o

/-- The user, or a visitor, administers neither the organization nor a project of it. -/
structure Outsider (s : Store) (user? : Option Int) (organization : String) : Prop where
  overall : ∀ o, s.Governs o organization →
    ¬ s.Holds user? Permission.administer (.organization o)
  onProject : ∀ c ∈ s.components, c.organization = organization → c.carriesPermissions = true →
    ¬ s.Holds user? Permission.administer (.project c.uuid organization)

/-- Both stores have the same of an organization, and the same accounts up to who is root. -/
structure Spares (s : Store) (organization : String) (t : Store) : Prop where
  organizations : t.organizations = s.organizations
  defaultOrganization? : t.defaultOrganization? = s.defaultOrganization?
  users : t.users.map User.plain = s.users.map User.plain
  groups : t.groups = s.groups
  components : t.components = s.components
  grants : ∀ g, g.organization = organization ∨
      s.Governs g.organization organization ∧ g.scope.project? = none →
    (g ∈ t.grants ↔ g ∈ s.grants)
  members : ∀ group user,
    (∀ row ∈ s.groups, row.id = group → s.Governs row.organization organization) →
    ((group, user) ∈ t.members ↔ (group, user) ∈ s.members)
  templates : ∀ tpl, tpl.organization = organization → (tpl ∈ t.templates ↔ tpl ∈ s.templates)
  templateGrants : ∀ tpl ∈ s.templates, tpl.organization = organization →
    ∀ given, given.template = tpl.uuid → (given ∈ t.templateGrants ↔ given ∈ s.templateGrants)

variable {s t u : Store} {O : String}

theorem Governs.refl (s : Store) (O : String) : s.Governs O O := .inl rfl

namespace Spares

theorem of_sameData (h : s.SameData t) : s.Spares O t := by
  obtain ⟨j, a, rfl⟩ := h
  exact ⟨rfl, rfl, rfl, rfl, rfl, fun _ _ => .rfl, fun _ _ _ => .rfl, fun _ _ => .rfl,
    fun _ _ _ _ _ => .rfl⟩

theorem refl (s : Store) (O : String) : s.Spares O s := .of_sameData (.refl s)

theorem defaultOrganization (h : s.Spares O t) :
    t.defaultOrganization = s.defaultOrganization := by
  rw [Store.defaultOrganization, Store.defaultOrganization, h.organizations,
    h.defaultOrganization?]

theorem governs_iff (h : s.Spares O t) (o organization : String) :
    t.Governs o organization ↔ s.Governs o organization := by
  rw [Governs, Governs, h.defaultOrganization]

theorem symm (h : s.Spares O t) : t.Spares O s where
  organizations := h.organizations.symm
  defaultOrganization? := h.defaultOrganization?.symm
  users := h.users.symm
  groups := h.groups.symm
  components := h.components.symm
  grants g hg := by
    rw [h.governs_iff] at hg
    exact (h.grants g hg).symm
  members group user hrows := by
    simp only [h.groups, h.governs_iff] at hrows
    exact (h.members group user hrows).symm
  templates tpl htpl := (h.templates tpl htpl).symm
  templateGrants tpl htpl ho given hgiven :=
    (h.templateGrants tpl ((h.templates tpl ho).mp htpl) ho given hgiven).symm

theorem trans (h : s.Spares O t) (h' : t.Spares O u) : s.Spares O u where
  organizations := h'.organizations.trans h.organizations
  defaultOrganization? := h'.defaultOrganization?.trans h.defaultOrganization?
  users := h'.users.trans h.users
  groups := h'.groups.trans h.groups
  components := h'.components.trans h.components
  grants g hg := by
    have hg' := hg
    rw [← h.governs_iff] at hg'
    exact (h'.grants g hg').trans (h.grants g hg)
  members group user hrows := by
    have hrows' := hrows
    simp only [← h.groups, ← h.governs_iff] at hrows'
    exact (h'.members group user hrows').trans (h.members group user hrows)
  templates tpl htpl := (h'.templates tpl htpl).trans (h.templates tpl htpl)
  templateGrants tpl htpl ho given hgiven :=
    (h'.templateGrants tpl ((h.templates tpl ho).mpr htpl) ho given hgiven).trans
      (h.templateGrants tpl htpl ho given hgiven)

/-- The same accounts stand behind the logins. -/
theorem callerId? (h : s.Spares O t) (login? : Option String) :
    t.callerId? login? = s.callerId? login? := by
  have hid (s : Store) (login : String) : (s.activeUser? login).map (·.id) =
      (((s.users.map User.plain).find? (·.login == login)).filter (·.active)).map (·.id) := by
    rw [activeUser?, userByLogin?, List.find?_map, Option.filter_map, Option.map_map]
    rfl
  have hlogin : (fun login => (t.activeUser? login).map (·.id)) =
      fun login => (s.activeUser? login).map (·.id) := by
    funext login
    rw [hid t, hid s, h.users]
  rw [Store.callerId?, Store.callerId?, caller?, caller?, Option.map_bind, Option.map_bind]
  exact congrArg (Option.bind (given? login?)) hlogin

/-- The holder of a grant that is spared stands for the same users. -/
theorem matchesHolder (h : s.Spares O t) {g : Grant} (hg : s.Fits g)
    (hgov : s.Governs g.organization O) (user? : Option Int) :
    t.matchesHolder user? g.holder = s.matchesHolder user? g.holder := by
  cases hholder : g.holder with
  | anyone => rfl
  | user id login => rfl
  | group id =>
    have hrows : ∀ row ∈ s.groups, row.id = id → s.Governs row.organization O := by
      rintro row hrow rfl
      rw [hg.group row hrow hholder]
      exact hgov
    have hgroups (user : Int) : (t.groupsOf user).contains id = (s.groupsOf user).contains id := by
      rw [Bool.eq_iff_iff, List.contains_iff_mem, List.contains_iff_mem, groupsOf, groupsOf]
      simpa using h.members id user hrows
    cases user? with
    | none => rfl
    | some user => exact hgroups user

/-- What is held through a grant that is spared is held in either store. -/
private theorem holds_of_grant (h : s.Spares O t) (hs : s.WellFormed) {user? : Option Int}
    {p : Permission} {scope : Scope} {g : Grant} (hg : g ∈ s.grants)
    (hm : s.matchesHolder user? g.holder = true) (hp : g.permission = p) (hr : g.Reaches scope)
    (hspared : g.organization = O ∨ s.Governs g.organization O ∧ g.scope.project? = none) :
    t.Holds user? p scope := by
  have hgov : s.Governs g.organization O := by
    rcases hspared with ho | ⟨hgov, -⟩
    · exact .inl ho
    · exact hgov
  refine ⟨g, (h.grants g hspared).mpr hg, ?_, hp, hr⟩
  rw [h.matchesHolder (hs g hg) hgov, hm]

private theorem holds_organization (h : s.Spares O t) (hs : s.WellFormed) {user? : Option Int}
    {p : Permission} {o : String} (ho : s.Governs o O) (hold : s.Holds user? p (.organization o)) :
    t.Holds user? p (.organization o) := by
  obtain ⟨g, hg, hm, hp, hnone, rfl⟩ := hold
  exact h.holds_of_grant hs hg hm hp ⟨hnone, rfl⟩ (.inr ⟨ho, hnone⟩)

private theorem holds_project (h : s.Spares O t) (hs : s.WellFormed) {user? : Option Int}
    {p : Permission} {c : Component} (hc : c ∈ s.components) (ho : c.organization = O)
    (hold : s.Holds user? p (.project c.uuid O)) : t.Holds user? p (.project c.uuid O) := by
  obtain ⟨g, hg, hm, hp, hr⟩ := hold
  refine h.holds_of_grant hs hg hm hp hr (.inl ?_)
  rcases hr with ⟨-, horganization⟩ | hproject
  · exact horganization
  · rw [← (hs g hg).project c hc hproject, ho]

/-- Nobody has more or less on the whole organization. -/
theorem holds_organization_iff (h : s.Spares O t) (hs : s.WellFormed) (ht : t.WellFormed)
    {user? : Option Int} {p : Permission} {o : String} (ho : s.Governs o O) :
    t.Holds user? p (.organization o) ↔ s.Holds user? p (.organization o) :=
  ⟨h.symm.holds_organization ht ((h.governs_iff o O).mpr ho), h.holds_organization hs ho⟩

/-- Nobody has more or less on a project of the organization. -/
theorem holds_project_iff (h : s.Spares O t) (hs : s.WellFormed) (ht : t.WellFormed)
    {user? : Option Int} {p : Permission} {c : Component} (hc : c ∈ s.components)
    (ho : c.organization = O) :
    t.Holds user? p (.project c.uuid O) ↔ s.Holds user? p (.project c.uuid O) :=
  ⟨h.symm.holds_project ht (h.components ▸ hc) ho, h.holds_project hs hc ho⟩

/-- Outsiders stay outsiders. -/
theorem outsider (h : s.Spares O t) (hs : s.WellFormed) (ht : t.WellFormed) {user? : Option Int}
    (hout : s.Outsider user? O) : t.Outsider user? O where
  overall o ho := by
    have hgov : s.Governs o O := (h.governs_iff o O).mp ho
    rw [h.holds_organization_iff hs ht hgov]
    exact hout.overall o hgov
  onProject c hc ho hp := by
    rw [h.components] at hc
    rw [h.holds_project_iff hs ht hc ho]
    exact hout.onProject c hc ho hp

end Spares

end Store

end Entitlements
