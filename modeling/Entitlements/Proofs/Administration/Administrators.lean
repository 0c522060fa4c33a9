import Entitlements.Proofs.Administration.Discipline
import Entitlements.Store.Run

/-!
# Administrators of an organization

An active user administers an organization by a grant of the whole organization, in person or as
a member of a group; what everyone is granted makes nobody an administrator. The count that a
change asks for finds exactly those who administer the organization without what is left aside,
so that somebody is left when what the count left aside is taken away.
-/

namespace Entitlements

/-- The grant makes somebody administer the organization. -/
def Grant.Administers (g : Grant) (organization : String) : Prop :=
  g.organization = organization ∧ g.MakesAdministrators

namespace Store

/-- The user has what the holder has, and not because everyone has it. -/
def Represents (s : Store) (user : Int) : Holder → Prop
  | .user id _ => id = user
  | .group id => (id, user) ∈ s.members
  | .anyone => False

/-- The user is active and administers the organization. -/
def IsAdministrator (s : Store) (organization : String) (user : Int) : Prop :=
  s.isActive user = true ∧
    ∃ g ∈ s.grants, g.Administers organization ∧ s.Represents user g.holder

/-- Somebody administers the organization. -/
def Administered (s : Store) (organization : String) : Prop :=
  ∃ user, s.IsAdministrator organization user

/-- What the count found is so: somebody administers the organization by a grant that was not left
aside. -/
def Assures (s : Store) (a : Assurance) : Prop :=
  ∃ user, s.isActive user = true ∧
    ∃ g ∈ s.grants, g.Administers a.organization ∧ s.Represents user g.holder ∧ ¬ a.Covers g

theorem mem_membersOf {s : Store} {group user : Int} :
    user ∈ s.membersOf group ↔ (group, user) ∈ s.members := by
  unfold membersOf
  rw [List.mem_map]
  constructor
  · rintro ⟨⟨g, u⟩, hm, rfl⟩
    obtain ⟨hm, hg⟩ := List.mem_filter.mp hm
    rw [← beq_iff_eq.mp hg]
    exact hm
  · intro hm
    exact ⟨(group, user), List.mem_filter.mpr ⟨hm, beq_self_eq_true group⟩, rfl⟩

/-- A grant of the organization has a beneficiary for every user whom its holder represents,
unless it is left aside. -/
theorem mem_beneficiaries {s : Store} {a : Assurance} {g : Grant} {user : Int}
    (ho : g.organization = a.organization) :
    user ∈ s.beneficiaries a.exceptUser a.exceptGroup g ↔
      s.Represents user g.holder ∧ ¬ a.Covers g := by
  unfold beneficiaries Represents Assurance.Covers
  cases g.holder with
  | anyone => simp
  | user id login =>
    by_cases h : a.exceptUser = some id
    · simp [h, ho]
    · simp [h, show user = id ↔ id = user from eq_comm]
  | group id =>
    by_cases h : a.exceptGroup = some id
    · simp [h, ho]
    · simp [h, mem_membersOf]

/-- The count is of those who administer the organization without what is left aside. -/
theorem mem_administrators_iff {s : Store} {a : Assurance} {user : Int} :
    user ∈ s.administrators a.organization Permission.administer a.exceptUser a.exceptGroup ↔
      s.isActive user = true ∧
        ∃ g ∈ s.grants, g.Administers a.organization ∧ s.Represents user g.holder ∧
          ¬ a.Covers g := by
  unfold administrators
  rw [List.mem_filter, List.mem_eraseDups, List.mem_flatMap, and_comm]
  refine and_congr_right fun _ => exists_congr fun g => ?_
  rw [List.mem_filter, and_assoc]
  refine and_congr_right fun _ => ?_
  constructor
  · rintro ⟨hg, hu⟩
    obtain ⟨⟨ho, hp⟩, hs⟩ : (g.organization = a.organization ∧
        g.permission = Permission.administer) ∧ g.scope.project? = none := by
      simpa [isGlobalGrant] using hg
    have hr := (mem_beneficiaries ho).mp hu
    refine ⟨⟨ho, hp, hs, fun h => ?_⟩, hr⟩
    simp [h, Represents] at hr
  · rintro ⟨⟨ho, hp, hs, -⟩, hr⟩
    exact ⟨by simp [isGlobalGrant, ho, hp, hs], (mem_beneficiaries ho).mpr hr⟩

/-- A count that is not zero has found somebody. -/
theorem assures_of_administrators_ne_nil {s : Store} {a : Assurance}
    (h : s.administrators a.organization Permission.administer a.exceptUser a.exceptGroup ≠ []) :
    s.Assures a := by
  obtain ⟨user, hu⟩ := List.exists_mem_of_ne_nil _ h
  exact ⟨user, mem_administrators_iff.mp hu⟩

/-- Members stay represented by their groups as long as memberships do not go away. -/
theorem Represents.mono {s t : Store} {user : Int} {h : Holder} (hmembers : s.members ⊆ t.members)
    (hr : s.Represents user h) : t.Represents user h := by
  cases h with
  | user id login => exact hr
  | group id => exact hmembers hr
  | anyone => exact hr

/-- Accounts stay active, and neither memberships nor grants of the organization go away. -/
structure Keeps (organization : String) (s t : Store) : Prop where
  active : ∀ user, s.isActive user = true → t.isActive user = true
  members : s.members ⊆ t.members
  grants : ∀ g ∈ s.grants, g.organization = organization → g ∈ t.grants

variable {s t u : Store} {organization : String}

theorem Administered.mono (hk : Keeps organization s t) (h : s.Administered organization) :
    t.Administered organization := by
  obtain ⟨user, hu, g, hg, ha, hr⟩ := h
  exact ⟨user, hk.active user hu, g, hk.grants g hg ha.1, ha, hr.mono hk.members⟩

theorem Assures.mono {a : Assurance} (hk : Keeps a.organization s t) (h : s.Assures a) :
    t.Assures a := by
  obtain ⟨user, hu, g, hg, ha, hr, hc⟩ := h
  exact ⟨user, hk.active user hu, g, hk.grants g hg ha.1, ha, hr.mono hk.members, hc⟩

theorem Keeps.of_eq (hu : t.users = s.users) (hm : t.members = s.members)
    (hg : t.grants = s.grants) : Keeps organization s t where
  active user h := by rwa [isActive, hu]
  members := hm ▸ List.Subset.refl _
  grants g hs _ := by rwa [hg]

theorem Keeps.refl (s : Store) : Keeps organization s s := .of_eq rfl rfl rfl

theorem Keeps.trans (h : Keeps organization s t) (h' : Keeps organization t u) :
    Keeps organization s u where
  active user hu := h'.active user (h.active user hu)
  members := List.Subset.trans h.members h'.members
  grants g hg ho := h'.grants g (h.grants g hg ho) ho

/-- Root flags have no bearing on who is active. -/
theorem keeps_setRoot (s : Store) (login : String) (root : Bool) :
    Keeps organization s (s.setRoot login root).2 := by
  unfold setRoot
  split
  · exact .of_eq rfl rfl rfl
  · split
    · exact .of_eq rfl rfl rfl
    · refine ⟨fun user h => ?_, List.Subset.refl _, fun _ hg _ => hg⟩
      have hplain (s : Store) : s.isActive user =
          ((s.users.map User.plain).find? (·.id == user)).any (·.active) := by
        rw [isActive, List.find?_map, Option.any_map]
        rfl
      have hsame := map_modifyFirst (p := (·.login == login)) (g := User.plain)
        (f := ({ · with root := root })) (fun _ => rfl) s.users
      rw [hplain] at h ⊢
      rw [hsame]
      exact h

/-- Joining a group takes nothing away. -/
theorem keeps_addMember (s : Store) (group user : Int) :
    Keeps organization s (s.addMember group user) where
  active _ h := h
  members _ hm := mem_insertNew.mpr (.inl hm)
  grants _ hg _ := hg

/-- Adding a grant takes nothing away. -/
theorem keeps_addGrant (s : Store) (g : Grant) : Keeps organization s (s.addGrant g) where
  active _ h := h
  members := List.Subset.refl _
  grants _ hg _ := mem_insertNew.mpr (.inl hg)

/-- Taking grants away leaves the organization with somebody who administers it, where they make
no administrators or are covered by a count that found somebody. -/
theorem Administered.of_dropped (dropped : Grant → Prop) (h : s.Administered organization)
    (hactive : ∀ user, s.isActive user = true → t.isActive user = true)
    (hmembers : s.members ⊆ t.members) (hgrants : ∀ g ∈ s.grants, ¬ dropped g → g ∈ t.grants)
    (hd : (∃ g, dropped g ∧ g.Administers organization) →
      ∃ a, s.Assures a ∧ a.organization = organization ∧ ∀ g, dropped g → a.Covers g) :
    t.Administered organization := by
  by_cases hadmin : ∃ g, dropped g ∧ g.Administers organization
  · obtain ⟨a, ⟨user, hu, g, hg, ha, hr, hc⟩, rfl, hcover⟩ := hd hadmin
    have hkept : ¬ dropped g := fun h => hc (hcover g h)
    exact ⟨user, hactive user hu, g, hgrants g hg hkept, ha, hr.mono hmembers⟩
  · obtain ⟨user, hu, g, hg, ha, hr⟩ := h
    have hkept : ¬ dropped g := fun h => hadmin ⟨g, h, ha⟩
    exact ⟨user, hactive user hu, g, hgrants g hg hkept, ha, hr.mono hmembers⟩

theorem Administered.removeGrant {g : Grant} (h : s.Administered organization)
    (hg : g.MakesAdministrators → ∃ a, s.Assures a ∧ a.Covers g) :
    (s.removeGrant g).Administered organization := by
  refine h.of_dropped (· = g) (fun _ hu => hu) (List.Subset.refl _)
    (fun g' hg' hne => mem_removeAll.mpr ⟨hg', hne⟩) ?_
  rintro ⟨g, rfl, ho, hadmin⟩
  obtain ⟨a, ha, hc⟩ := hg hadmin
  refine ⟨a, ha, hc.1.trans ho, ?_⟩
  rintro g' rfl
  exact hc

end Store

end Entitlements
