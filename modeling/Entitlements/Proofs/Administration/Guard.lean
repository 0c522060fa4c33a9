import Entitlements.Proofs.Administration.Administrators
import Entitlements.Proofs.Service.Verdict
import Entitlements.Store.Sample
import Mathlib.Data.Set.Card

/-!
# The guard of the last administrator

Before a grant that makes somebody administer an organization is dropped, those are counted who
administer it without what the holder is granted. The count is made on the store as it is, but it
tells of the store as it will be: what it leaves aside is the one grant that is dropped, and so the
change is rejected exactly where nobody would administer the organization after it.
-/

namespace Entitlements

/-- Dropping duplicates leaves none. -/
theorem nodup_eraseDups {α : Type} [BEq α] [LawfulBEq α] (as : List α) : as.eraseDups.Nodup := by
  match as with
  | [] => exact List.nodup_nil
  | a :: rest =>
    rw [List.eraseDups_cons, List.nodup_cons]
    exact ⟨by simp, nodup_eraseDups _⟩
termination_by as.length
decreasing_by exact Nat.lt_succ_of_le (List.length_filter_le _ _)

/-- What is left aside when it is counted who administers an organization without the grant. -/
def Grant.aside (g : Grant) : Assurance :=
  match g.holder with
  | .user id _ => ⟨g.organization, some id, none⟩
  | .group id => ⟨g.organization, none, some id⟩
  | .anyone => ⟨g.organization, none, none⟩

theorem Grant.organization_aside (g : Grant) : g.aside.organization = g.organization := by
  unfold aside
  cases g.holder <;> rfl

namespace Store

/-- Those who administer the organization: the active users with a grant of their own or as members
of a group. -/
def administratorsOf (s : Store) (organization : String) : Set Int :=
  {user | s.IsAdministrator organization user}

/-- The scope of every grant belongs to the organization that keeps the grant, and no user holds
grants under two logins. -/
structure Coherent (s : Store) : Prop where
  owner : ∀ g ∈ s.grants, g.scope.owner = g.organization
  login : ∀ g ∈ s.grants, ∀ g' ∈ s.grants, ∀ id login login',
    g.holder = .user id login → g'.holder = .user id login' → login = login'

variable {s : Store} {g g' : Grant} {o : String} {user : Int}

/-- A count that leaves nothing aside is of all who administer the organization. -/
theorem mem_administrators_none :
    user ∈ s.administrators o Permission.administer none none ↔ s.IsAdministrator o user := by
  refine (mem_administrators_iff (a := ⟨o, none, none⟩)).trans ?_
  refine and_congr_right fun _ => exists_congr fun g => and_congr_right fun _ =>
    and_congr_right fun hg => and_iff_left_of_imp fun _ hcovers => ?_
  have hholder := hg.2.2.2
  unfold Assurance.Covers at hcovers
  cases hh : g.holder with
  | anyone => exact hholder hh
  | user id login => simp [hh] at hcovers
  | group id => simp [hh] at hcovers

theorem nodup_administrators (s : Store) (o : String) (p : Permission)
    (exceptUser exceptGroup : Option Int) :
    (s.administrators o p exceptUser exceptGroup).Nodup :=
  (nodup_eraseDups _).filter _

theorem coe_administrators (s : Store) (o : String) :
    ((s.administrators o Permission.administer none none).toFinset : Set Int) =
      s.administratorsOf o := by
  ext user
  simp only [List.coe_toFinset, Set.mem_ofPred_eq, administratorsOf]
  exact mem_administrators_none

theorem finite_administratorsOf (s : Store) (o : String) : (s.administratorsOf o).Finite := by
  rw [← coe_administrators]
  exact Finset.finite_toSet _

/-- Every administrator is counted once. -/
theorem length_administrators (s : Store) (o : String) :
    (s.administrators o Permission.administer none none).length = (s.administratorsOf o).ncard := by
  rw [← coe_administrators, Set.ncard_coe_finset,
    List.toFinset_card_of_nodup (nodup_administrators s o _ none none)]

/-- Among the grants that make administrators of an organization, one is left aside alone. -/
theorem covers_aside_iff (hs : s.Coherent) (hg : g ∈ s.grants) (hg' : g' ∈ s.grants)
    (hadmin : g.MakesAdministrators) (hadmin' : g'.Administers g.organization) :
    g.aside.Covers g' ↔ g' = g := by
  obtain ⟨ho, hp, hproject, hholder⟩ := hadmin'
  constructor
  · intro hcovers
    have hscope : g'.scope = g.scope := by
      rw [← g'.scope.ofProject?_owner_project?, ← g.scope.ofProject?_owner_project?,
        hs.owner g' hg', hs.owner g hg, hproject, hadmin.2.1, ho]
    have hsame : g'.holder = g.holder := by
      have hcovered := hcovers.2
      cases hh' : g'.holder with
      | anyone => exact absurd hh' hholder
      | user id' login' =>
        cases hh : g.holder with
        | user id login =>
          obtain rfl : id = id' := by simpa [Grant.aside, hh, hh'] using hcovered
          rw [hs.login g hg g' hg' id login login' hh hh']
        | group | anyone => simp [Grant.aside, hh, hh'] at hcovered
      | group id' =>
        cases hh : g.holder with
        | group id =>
          obtain rfl : id = id' := by simpa [Grant.aside, hh, hh'] using hcovered
          rfl
        | user | anyone => simp [Grant.aside, hh, hh'] at hcovered
    cases g
    cases g'
    simp_all [Grant.MakesAdministrators]
  · rintro rfl
    refine ⟨g'.organization_aside, ?_⟩
    cases hh : g'.holder with
    | anyone => trivial
    | user id login => simp [Grant.aside, hh]
    | group id => simp [Grant.aside, hh]

/-- Those who administer an organization without what is left aside are those who administer it
once the grant is dropped. -/
theorem mem_administrators_aside_iff (hs : s.Coherent) (hg : g ∈ s.grants)
    (hadmin : g.MakesAdministrators) :
    user ∈ s.administrators g.organization Permission.administer g.aside.exceptUser
        g.aside.exceptGroup ↔
      user ∈ (s.removeGrant g).administratorsOf g.organization := by
  rw [← g.organization_aside, mem_administrators_iff, g.organization_aside]
  refine and_congr_right fun _ => exists_congr fun g' => ?_
  have hmem : g' ∈ (s.removeGrant g).grants ↔ g' ∈ s.grants ∧ g' ≠ g := mem_removeAll
  rw [hmem]
  constructor
  · rintro ⟨hg', hadmin', hr, hcovers⟩
    exact ⟨⟨hg', fun hsame => hcovers ((covers_aside_iff hs hg hg' hadmin hadmin').mpr hsame)⟩,
      hadmin', hr⟩
  · rintro ⟨⟨hg', hne⟩, hadmin', hr⟩
    exact ⟨hg', hadmin', hr,
      fun hcovers => hne ((covers_aside_iff hs hg hg' hadmin hadmin').mp hcovers)⟩

end Store

namespace Change

variable {c : Change} {g : Grant} {s : Store}

/-- The change is careful about exactly the grants that make administrators, or would make everyone
one. -/
theorem isGlobalAdministration_iff (hg : c.grant? = some g) :
    c.isGlobalAdministration = true ↔
      g.permission = Permission.administer ∧ g.scope.project? = none := by
  obtain ⟨h, -, rfl⟩ := Option.map_eq_some_iff.mp hg
  simp [isGlobalAdministration, isGlobal, grantOf, and_comm]

/-- A rule stands against the removal of a grant that makes administrators exactly where nobody
would administer the organization without what the holder is granted. -/
theorem exists_rejection_iff (hop : c.operation = .remove) (hg : c.grant? = some g)
    (hwell : c.WellFormed) (hadmin : g.MakesAdministrators) :
    (∃ r, c.rejection? s = some r) ↔
      s.administrators g.organization Permission.administer g.aside.exceptUser
        g.aside.exceptGroup = [] := by
  have hglobal : c.isGlobalAdministration = true :=
    (isGlobalAdministration_iff hg).mpr ⟨hadmin.1, hadmin.2.1⟩
  cases htarget : c.target with
  | nobody => simp [grant?, htarget, Target.holder?] at hg
  | user id login =>
    obtain rfl : c.grantOf (.user id login) = g := by
      simpa [grant?, htarget, Target.holder?] using hg
    simp [rejection?, hop, htarget, strips, hglobal, Grant.aside, grantOf]
  | group holder =>
    obtain rfl : c.grantOf holder = g := by
      simpa [grant?, htarget, Target.holder?] using hg
    cases holder with
    | user id login => exact absurd htarget (hwell id login)
    | anyone => exact absurd rfl hadmin.2.2
    | group id => simp [rejection?, hop, htarget, strips, hglobal, Grant.aside, grantOf]

/-- Nothing stands against the removal of any other grant. -/
theorem rejection?_eq_none (hop : c.operation = .remove) (hg : c.grant? = some g)
    (hadmin : ¬ g.MakesAdministrators) : c.rejection? s = none := by
  have hstrips (hholder : g.holder ≠ .anyone) (user group : Option Int) :
      c.strips s user group = false := by
    have hglobal : ¬ c.isGlobalAdministration = true := by
      rw [isGlobalAdministration_iff hg]
      rintro ⟨hp, hproject⟩
      exact hadmin ⟨hp, hproject, hholder⟩
    simp [strips, hglobal]
  obtain ⟨holder, htarget, rfl⟩ := Option.map_eq_some_iff.mp hg
  cases hc : c.target with
  | nobody => simp [hc, Target.holder?] at htarget
  | user id login =>
    obtain rfl : Holder.user id login = holder := by simpa [hc, Target.holder?] using htarget
    have hholder : (c.grantOf (.user id login)).holder ≠ .anyone := by simp [grantOf]
    simp [rejection?, hop, hc, hstrips hholder]
  | group holder' =>
    obtain rfl : holder' = holder := by simpa [hc, Target.holder?] using htarget
    cases holder' with
    | user | anyone => simp [rejection?, hop, hc]
    | group id =>
      have hholder : (c.grantOf (.group id)).holder ≠ .anyone := by simp [grantOf]
      simp [rejection?, hop, hc, hstrips hholder]

/-- The guard of the last administrator is exact. A count that leaves nothing aside is the number of
those who administer an organization. Where grants keep to their organization and users to their
login, the removal of a stored grant that makes administrators is rejected if nobody would
administer the organization without the grant, and else applied. No other removal is rejected. -/
theorem removal_guarded (s : Store) :
    (∀ o, (s.administratorsOf o).Finite ∧
      s.answer (.countAdministrators o Permission.administer none none) =
        (.ok ((s.administratorsOf o).ncard : Int), s)) ∧
    ∀ (c : Change) (g : Grant), c.operation = .remove → c.grant? = some g →
      (s.Coherent → c.WellFormed → g ∈ s.grants → g.MakesAdministrators →
        ((∃ r t, s.run c.apply.run = (.ok (.rejected r), t)) ↔
          (s.removeGrant g).administratorsOf g.organization = ∅) ∧
        ((∃ t, s.run c.apply.run = (.ok .applied, t)) ↔
          ((s.removeGrant g).administratorsOf g.organization).Nonempty)) ∧
      (¬ g.MakesAdministrators →
        ∃ outcome t, s.run c.apply.run = (.ok outcome, t) ∧ ∀ r, outcome ≠ .rejected r) := by
  constructor
  · intro o
    refine ⟨s.finite_administratorsOf o, ?_⟩
    rw [← s.length_administrators]
    rfl
  · intro c g hop hg
    have hc : c.Concerns g := ⟨.inr hop, hg⟩
    obtain ⟨t, hrun, -⟩ := hc.run_apply s
    constructor
    · intro hs hwell hmem hadmin
      have halters : c.Alters s.grants := hc.alters_iff.mpr (by simp [hmem, hop])
      have hrejected : (∃ r, c.verdict s = .rejected r) ↔
          (s.removeGrant g).administratorsOf g.organization = ∅ := by
        simp only [verdict_eq_rejected_iff, halters, true_and]
        rw [exists_rejection_iff hop hg hwell hadmin, List.eq_nil_iff_forall_not_mem,
          Set.eq_empty_iff_forall_notMem]
        exact forall_congr' fun user =>
          not_congr (Store.mem_administrators_aside_iff hs hmem hadmin)
      have happlied : c.verdict s = .applied ↔ ¬ ∃ r, c.verdict s = .rejected r := by
        constructor
        · rintro h ⟨r, hr⟩
          exact nomatch h.symm.trans hr
        · intro h
          exact (verdict_eq_applied_iff fun r hr => h ⟨r, hr⟩).mpr halters
      rw [Set.nonempty_iff_ne_empty, ne_eq, ← hrejected, ← happlied, hrun]
      simp
    · intro hadmin
      refine ⟨_, t, hrun, fun r hr => ?_⟩
      rw [verdict_eq_rejected_iff, rejection?_eq_none hop hg hadmin] at hr
      exact nomatch hr.2

/-- In the sample the user `root` gives up the permission to administer the default organization,
which nobody else has, and `alice` loses one that she does not have. -/
theorem removal_guarded_root :
    let s := Store.sample default
    let c : Change := ⟨.remove, Store.sampleDefault, Permission.administer, none, .user 1 "root"⟩
    let g : Grant :=
      ⟨Store.sampleDefault, .user 1 "root", Permission.administer, .organization Store.sampleDefault⟩
    let c' : Change := ⟨.remove, Store.sampleDefault, "scan", none, .user 2 "alice"⟩
    let g' : Grant := ⟨Store.sampleDefault, .user 2 "alice", "scan", .organization Store.sampleDefault⟩
    (s.Coherent ∧ c.WellFormed ∧ g ∈ s.grants ∧ g.MakesAdministrators ∧ ¬ g'.MakesAdministrators) ∧
      ((∃ r t, s.run c.apply.run = (.ok (.rejected r), t)) ↔
        (s.removeGrant g).administratorsOf g.organization = ∅) ∧
      ∃ outcome t, s.run c'.apply.run = (.ok outcome, t) ∧ ∀ r, outcome ≠ .rejected r := by
  intro s c g c' g'
  have hs : s.Coherent := by
    constructor
    · intro g₁ h₁
      rw [List.mem_singleton.mp h₁]
      rfl
    · intro g₁ h₁ g₂ h₂ id login login' hlogin hlogin'
      rw [List.mem_singleton.mp h₁] at hlogin
      rw [List.mem_singleton.mp h₂] at hlogin'
      cases hlogin
      cases hlogin'
      rfl
  have hwell : c.WellFormed := fun _ _ => nofun
  have hmem : g ∈ s.grants := List.mem_singleton_self g
  have hadmin : g.MakesAdministrators := ⟨rfl, rfl, nofun⟩
  have hadmin' : ¬ g'.MakesAdministrators := fun h => absurd h.1 (by decide)
  have hguarded := (removal_guarded s).2
  exact ⟨⟨hs, hwell, hmem, hadmin, hadmin'⟩, ((hguarded c g rfl rfl).1 hs hwell hmem hadmin).1,
    (hguarded c' g' rfl rfl).2 hadmin'⟩

end Change

end Entitlements
