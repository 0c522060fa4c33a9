import Entitlements.Store.Select

/-!
# What users hold

A user has a permission in a scope when a grant of it reaches that far and is held by the user, by
a group of the user, or by everyone. Visitors have only what everyone has. The snapshot of a user
says just that: what it allows in a scope is what some grant supports there.
-/

namespace Entitlements

/-- What a snapshot allows on organizations and on projects after more has been added to it. -/
theorem mem_foldl_add {gs : List Grant} {held : Snapshot} :
    (∀ o p, (o, p) ∈ (gs.foldl (fun held g => held.add g.organization g.scope.project?
        g.permission) held).onOrganizations ↔
      (o, p) ∈ held.onOrganizations ∨
        ∃ g ∈ gs, g.scope.project? = none ∧ g.organization = o ∧ g.permission = p) ∧
    ∀ project p, (project, p) ∈ (gs.foldl (fun held g => held.add g.organization
        g.scope.project? g.permission) held).onProjects ↔
      (project, p) ∈ held.onProjects ∨
        ∃ g ∈ gs, g.scope.project? = some project ∧ g.permission = p := by
  induction gs generalizing held with
  | nil => simp
  | cons g rest ih =>
    have hadd := @ih (held.add g.organization g.scope.project? g.permission)
    constructor
    · intro o p
      rw [List.foldl_cons, hadd.1]
      cases hp : g.scope.project? with
      | none => simp [Snapshot.add, hp, or_assoc, eq_comm]
      | some project => simp [Snapshot.add, hp]
    · intro project p
      rw [List.foldl_cons, hadd.2]
      cases hp : g.scope.project? with
      | none => simp [Snapshot.add, hp]
      | some project' => simp [Snapshot.add, hp, or_assoc, eq_comm]

/-- The grant reaches over the scope: over the whole organization, or over the project. -/
def Grant.Reaches (g : Grant) : Scope → Prop
  | .organization o => g.scope.project? = none ∧ g.organization = o
  | .project project o =>
    g.scope.project? = none ∧ g.organization = o ∨ g.scope.project? = some project

/-- The user, or a visitor, has the benefit of the grant: everyone holds it, or the user in person,
or a group that the user is a member of. -/
def Grant.HeldBy (s : Store) (user? : Option Int) (g : Grant) : Prop :=
  match g.holder with
  | .anyone => True
  | .user id _ => user? = some id
  | .group group => ∃ id, user? = some id ∧ (group, id) ∈ s.members

/-- The grant gives the permission in the scope to the user, or to a visitor. -/
structure Grant.Supports (s : Store) (user? : Option Int) (p : Permission) (scope : Scope)
    (g : Grant) : Prop where
  held : g.HeldBy s user?
  permission : g.permission = p
  reaches : g.Reaches scope

namespace Store

/-- The user, or a visitor, has the permission in the scope. -/
def Holds (s : Store) (user? : Option Int) (p : Permission) (scope : Scope) : Prop :=
  ∃ g ∈ s.grants, s.matchesHolder user? g.holder = true ∧ g.permission = p ∧ g.Reaches scope

variable {s : Store} {user? : Option Int} {p : Permission}

/-- The groups of a user are those that the user is a member of. -/
theorem mem_groupsOf {user group : Int} :
    group ∈ s.groupsOf user ↔ (group, user) ∈ s.members := by
  simp [groupsOf]

theorem matchesHolder_iff_heldBy {g : Grant} :
    s.matchesHolder user? g.holder = true ↔ g.HeldBy s user? := by
  unfold Grant.HeldBy
  cases g.holder with
  | anyone => simp [matchesHolder]
  | user id login => simp [matchesHolder]
  | group group => cases user? <;> simp [matchesHolder, mem_groupsOf]

/-- A permission is held exactly where a grant supports it. -/
theorem holds_iff_exists_supports {scope : Scope} :
    s.Holds user? p scope ↔ ∃ g ∈ s.grants, g.Supports s user? p scope := by
  refine exists_congr fun g => and_congr_right fun _ => ?_
  rw [matchesHolder_iff_heldBy]
  constructor
  · rintro ⟨hheld, hp, hreach⟩
    exact ⟨hheld, hp, hreach⟩
  · rintro ⟨hheld, hp, hreach⟩
    exact ⟨hheld, hp, hreach⟩

theorem mem_onOrganizations_snapshot {o : String} :
    (o, p) ∈ (s.snapshot user?).onOrganizations ↔ s.Holds user? p (.organization o) := by
  rw [snapshot, mem_foldl_add.1]
  simp only [Snapshot.empty, List.not_mem_nil, false_or, heldGrants, List.mem_filter]
  refine exists_congr fun g => ?_
  rw [Grant.Reaches, and_assoc]
  refine and_congr_right fun _ => and_congr_right fun _ => ?_
  rw [← and_assoc, and_comm]

/-- A snapshot says what its user holds. -/
theorem allows_snapshot_iff {scope : Scope} :
    (s.snapshot user?).allows p scope = true ↔ s.Holds user? p scope := by
  cases scope with
  | organization o =>
    rw [Snapshot.allows, Snapshot.allowsOrganization, List.contains_iff_mem,
      mem_onOrganizations_snapshot]
  | project project o =>
    rw [Snapshot.allows, Snapshot.allowsProject, Snapshot.allowsOrganization, Bool.or_eq_true,
      List.contains_iff_mem, List.contains_iff_mem, mem_onOrganizations_snapshot, snapshot,
      mem_foldl_add.2]
    simp only [Snapshot.empty, List.not_mem_nil, false_or, heldGrants, List.mem_filter]
    constructor
    · rintro (⟨g, hg, hm, hp, hreach⟩ | ⟨g, ⟨hg, hm⟩, hproject, hp⟩)
      · exact ⟨g, hg, hm, hp, .inl hreach⟩
      · exact ⟨g, hg, hm, hp, .inr hproject⟩
    · rintro ⟨g, hg, hm, hp, hreach | hproject⟩
      · exact .inl ⟨g, hg, hm, hp, hreach⟩
      · exact .inr ⟨g, ⟨hg, hm⟩, hproject, hp⟩

end Store

end Entitlements
