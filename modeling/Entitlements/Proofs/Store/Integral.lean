import Entitlements.Proofs.Store.Orderly

/-!
# Integrity of grants and memberships

A store has integrity when every grant makes sense for what it reaches over, when whoever holds it
and whatever it is about are stored and belong together, and when every membership is one of a
stored user in a stored group. Effects keep it as long as what they add is of that kind.
-/

namespace Entitlements

/-- The permission makes sense for what the grant reaches over, and it is not everyone who
administers an organization. -/
structure Grant.Lawful (g : Grant) : Prop where
  onOrganization : g.scope.project? = none → g.permission.isGlobal = true
  onProject : ∀ uuid, g.scope.project? = some uuid → g.permission.isProject = true
  anyone : g.holder = .anyone → g.scope.project? = none → g.permission ≠ Permission.administer

namespace Store

/-- The holder of the grant and the project that it is limited to are stored, and the group and the
project belong to the organization that keeps the grant. -/
structure Founded (s : Store) (g : Grant) : Prop extends Grounds s g where
  user : ∀ id login, g.holder = .user id login → ∃ u ∈ s.users, u.id = id ∧ u.login = login

/-- Both the group and the user are stored. -/
def Admits (s : Store) (group user : Int) : Prop :=
  (∃ row ∈ s.groups, row.id = group) ∧ ∃ u ∈ s.users, u.id = user

/-- Grants and memberships are between what is stored. -/
structure Linked (s : Store) : Prop where
  grants : ∀ g ∈ s.grants, s.Founded g
  members : ∀ group user, (group, user) ∈ s.members → s.Admits group user

/-- The store has integrity. -/
structure Integral (s : Store) : Prop extends Linked s where
  lawful : ∀ g ∈ s.grants, g.Lawful

variable {s t : Store} {g : Grant}

/-- The same accounts, groups and components are stored. -/
structure SameSubjects (s t : Store) : Prop where
  users : t.users.map (fun u => (u.id, u.login)) = s.users.map fun u => (u.id, u.login)
  groups : t.groups = s.groups
  components : t.components = s.components

theorem SameSubjects.exists_user (h : s.SameSubjects t) {u : User} (hu : u ∈ s.users) :
    ∃ u' ∈ t.users, u'.id = u.id ∧ u'.login = u.login := by
  have hmem : (u.id, u.login) ∈ t.users.map fun u => (u.id, u.login) := by
    rw [h.users]
    exact List.mem_map_of_mem hu
  obtain ⟨u', hu', heq⟩ := List.mem_map.mp hmem
  exact ⟨u', hu', (Prod.mk.inj heq).1, (Prod.mk.inj heq).2⟩

theorem SameSubjects.founded (h : s.SameSubjects t) (hg : s.Founded g) : t.Founded g where
  owner := hg.owner
  group := h.groups ▸ hg.group
  project := h.components ▸ hg.project
  user id login hholder := by
    obtain ⟨u, hu, rfl, rfl⟩ := hg.user id login hholder
    exact h.exists_user hu

theorem SameSubjects.admits (h : s.SameSubjects t) {group user : Int}
    (ha : s.Admits group user) : t.Admits group user := by
  obtain ⟨hgroup, u, hu, rfl⟩ := ha
  obtain ⟨u', hu', hid, -⟩ := h.exists_user hu
  refine ⟨?_, u', hu', hid⟩
  rw [h.groups]
  exact hgroup

/-- Grants and memberships stay linked where the new ones are. -/
theorem Linked.of_sameSubjects (h : s.SameSubjects t) (hgrants : ∀ g ∈ t.grants, s.Founded g)
    (hmembers : ∀ group user, (group, user) ∈ t.members → s.Admits group user) : t.Linked where
  grants g hg := h.founded (hgrants g hg)
  members group user hm := h.admits (hmembers group user hm)

/-- Only what is linked matters for whether everything is. -/
theorem Linked.congr (hs : s.Linked) (husers : t.users = s.users) (hgroups : t.groups = s.groups)
    (hcomponents : t.components = s.components) (hgrants : t.grants = s.grants)
    (hmembers : t.members = s.members) : t.Linked := by
  refine .of_sameSubjects ⟨by rw [husers], hgroups, hcomponents⟩ ?_ ?_
  · rw [hgrants]
    exact hs.grants
  · rw [hmembers]
    exact hs.members

theorem Linked.of_sameData (hs : s.Linked) (h : s.SameData t) : t.Linked := by
  obtain ⟨journal, events, rfl⟩ := h
  exact hs.congr rfl rfl rfl rfl rfl

end Store

/-- What the effect adds is linked to what is stored. -/
def Effect.Links (s : Store) : Effect → Prop
  | grantAdded g => s.Founded g
  | memberAdded group user => s.Admits group user
  | _ => True

/-- Effects that add what is linked leave everything linked. -/
theorem Store.Linked.on {s : Store} {e : Effect} (hs : s.Linked) (he : e.Links s) :
    (e.on s).Linked := by
  cases e with
  | grantAdded g =>
    refine .of_sameSubjects (s := s) ⟨rfl, rfl, rfl⟩ (fun g' hg' => ?_) hs.members
    rcases mem_insertNew.mp hg' with hg' | rfl
    · exact hs.grants g' hg'
    · exact he
  | grantRemoved g =>
    exact .of_sameSubjects (s := s) ⟨rfl, rfl, rfl⟩ (fun g' hg' => hs.grants g' (mem_removeAll.mp hg').1)
      hs.members
  | memberAdded group user =>
    refine .of_sameSubjects (s := s) ⟨rfl, rfl, rfl⟩ hs.grants fun group' user' hm => ?_
    rcases mem_insertNew.mp hm with hm | heq
    · exact hs.members group' user' hm
    · obtain ⟨rfl, rfl⟩ := Prod.mk.inj heq
      exact he
  | templateAdded tpl => exact hs.congr rfl rfl rfl rfl rfl
  | templateGrantRemoved given => exact hs.congr rfl rfl rfl rfl rfl
  | rootCleared login =>
    have husers := map_modifyFirst (p := (·.login == login)) (g := fun u : User => (u.id, u.login))
      (f := ({ · with root := false })) (fun _ => rfl) s.users
    exact .of_sameSubjects ⟨husers, rfl, rfl⟩ hs.grants hs.members

end Entitlements
