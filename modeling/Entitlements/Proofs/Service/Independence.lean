import Entitlements.Proofs.Service.Verdict
import Entitlements.Store.Sample

/-!
# Changes that do not depend on each other

What comes of a change depends on whether its own grant is stored and, where it takes away the
permission to administer an organization, on who else has it. Another change can only touch this
through its own grant. So two changes of different grants can be applied in either order, unless one
of them takes away the permission to administer an organization and the other one changes who has
it.
-/

namespace Entitlements

namespace Change

variable {c c' : Change} {g g' x : Grant} {s t : Store}

/-- The change takes the permission to administer an organization away, and the other one changes
who has that permission there. -/
def Interferes (c c' : Change) : Prop :=
  c.operation = .remove ∧ c.isGlobalAdministration = true ∧ c'.isGlobalAdministration = true ∧
    c'.organization = c.organization

/-- Two changes in a row, within whatever unit of work there is. -/
def applyBoth (c c' : Change) : Work (Outcome × Outcome) := do
  let outcome ← c.apply
  let outcome' ← c'.apply
  return (outcome, outcome')

/-- Whether it is rejected or not, a change leaves all other grants as they are. -/
theorem Concerns.mem_leave_of_ne (hc : c.Concerns g) (hx : x ≠ g) :
    x ∈ (c.leave s).grants ↔ x ∈ s.grants := by
  unfold leave
  cases c.verdict s with
  | rejected r => exact Iff.rfl
  | applied | unchanged => exact hc.mem_settle.trans (by rw [if_neg hx])

/-- What becomes of its own grant only depends on the verdict, and on whether it was there. -/
theorem Concerns.mem_leave_congr (hc : c.Concerns g) (hv : c.verdict t = c.verdict s)
    (hg : g ∈ t.grants ↔ g ∈ s.grants) : g ∈ (c.leave t).grants ↔ g ∈ (c.leave s).grants := by
  unfold leave
  rw [hv]
  cases c.verdict s with
  | rejected r => exact hg
  | applied | unchanged =>
    have hsettled (gs : List Grant) : g ∈ c.settle gs ↔ c.operation = .add := by
      rw [hc.mem_settle, if_pos rfl]
    exact (hsettled _).trans (hsettled _).symm

theorem Concerns.filter_settle {p : Grant → Bool} (hc : c.Concerns g) (hg : p g = false)
    (gs : List Grant) : (c.settle gs).filter p = gs.filter p := by
  rcases hc.operation with hop | hop
  · simp [settle, hop, hc.grant?, filter_insertNew hg]
  · simp [settle, hop, hc.grant?, filter_removeAll hg]

/-- Who administers an organization is not touched by a change of anything else. -/
theorem Concerns.administrators_leave {o : String} (hc : c.Concerns g)
    (hother : c.isGlobalAdministration = true → c.organization ≠ o)
    (exceptUser exceptGroup : Option Int) :
    (c.leave s).administrators o Permission.administer exceptUser exceptGroup =
      s.administrators o Permission.administer exceptUser exceptGroup := by
  have hg : Store.isGlobalGrant o Permission.administer g = false := by
    obtain ⟨holder, -, rfl⟩ := Option.map_eq_some_iff.mp hc.grant?
    rw [Bool.eq_false_iff]
    intro hglobal
    obtain ⟨⟨ho, hp⟩, hproject⟩ : (c.organization = o ∧ c.permission = Permission.administer) ∧
        c.project = none := by simpa [Store.isGlobalGrant, grantOf] using hglobal
    exact hother (by simp [isGlobalAdministration, isGlobal, hp, hproject]) ho
  unfold leave
  cases c.verdict s with
  | rejected r => rfl
  | applied | unchanged =>
    show (((c.settle s.grants).filter _).flatMap (s.beneficiaries _ _)).eraseDups.filter s.isActive
      = _
    rw [hc.filter_settle hg]
    rfl

/-- No rule comes to stand against a change, or stops to, by another change that it does not
interfere with. -/
theorem Concerns.rejection?_leave (hc : c.Concerns g) (hc' : c'.Concerns g')
    (h : ¬ c.Interferes c') : c.rejection? (c'.leave s) = c.rejection? s := by
  rcases hc.operation with hop | hop
  · cases htarget : c.target with
    | user user login | nobody => simp [rejection?, hop, htarget]
    | group holder => cases holder <;> simp [rejection?, hop, htarget]
  · have hstrips (user group : Option Int) :
        c.strips (c'.leave s) user group = c.strips s user group := by
      by_cases hadmin : c.isGlobalAdministration = true
      · have hother : c'.isGlobalAdministration = true → c'.organization ≠ c.organization :=
          fun hadmin' ho => h ⟨hop, hadmin, hadmin', ho⟩
        simp only [strips, hc'.administrators_leave hother]
      · simp [strips, hadmin]
    simp only [rejection?, hop, hstrips]

/-- A change comes to the same after another change of a different grant that it does not interfere
with. -/
theorem Concerns.verdict_leave (hc : c.Concerns g) (hc' : c'.Concerns g') (hne : g ≠ g')
    (h : ¬ c.Interferes c') : c.verdict (c'.leave s) = c.verdict s := by
  have halters : c.Alters (c'.leave s).grants ↔ c.Alters s.grants := by
    rw [hc.alters_iff, hc.alters_iff, hc'.mem_leave_of_ne hne]
  simp only [verdict, halters, hc.rejection?_leave hc' h]

end Change

namespace Store.SameButLog

variable {c : Change} {s t : Store}

/-- What is said in the log has no bearing on what comes of a change. -/
theorem verdict (h : s.SameButLog t) : c.verdict t = c.verdict s := by
  obtain ⟨events, rfl⟩ := h
  rfl

theorem grants_leave (h : s.SameButLog t) : (c.leave t).grants = (c.leave s).grants := by
  obtain ⟨events, rfl⟩ := h
  have hverdict : c.verdict { s with around := { s.around with events } } = c.verdict s := rfl
  unfold Change.leave
  rw [hverdict]
  cases c.verdict s <;> rfl

end Store.SameButLog

namespace Change

variable {c c' : Change} {g g' x : Grant} {s t : Store}

/-- What comes of two changes in a row, and which grants are left. -/
theorem Concerns.run_applyBoth (hc : c.Concerns g) (hc' : c'.Concerns g') (s : Store) :
    ∃ t, s.run (applyBoth c c').run = (.ok (c.verdict s, c'.verdict (c.leave s)), t) ∧
      t.grants = (c'.leave (c.leave s)).grants := by
  have hboth : Work.Ensures Store.setting (applyBoth c c') s
      (fun outcomes t => outcomes = (c.verdict s, c'.verdict (c.leave s)) ∧
        t.grants = (c'.leave (c.leave s)).grants) fun _ _ => False := by
    unfold applyBoth
    rw [Work.ensures_bind]
    refine (hc.apply_ends s).mono (fun outcome t hend => ?_) fun _ _ hfalse => hfalse
    obtain ⟨rfl, ht⟩ := hend
    rw [Work.ensures_bind]
    refine (hc'.apply_ends t).mono (fun outcome' u hend' => ?_) fun _ _ hfalse => hfalse
    obtain ⟨rfl, hu⟩ := hend'
    obtain ⟨events, rfl⟩ := hu
    exact ⟨by rw [ht.verdict], ht.grants_leave⟩
  obtain ⟨_, t, hrun, rfl, ht⟩ := Work.run_of_ensures hboth
  exact ⟨t, hrun, ht⟩

/-- Changes of different grants commute, unless one of them takes away the permission to administer
an organization and the other one changes who has it: in either order each comes to the same, and
the same grants are left. -/
theorem applyBoth_comm (hc : c.Concerns g) (hc' : c'.Concerns g') (hne : g ≠ g')
    (h : ¬ c.Interferes c') (h' : ¬ c'.Interferes c) (s : Store) :
    ∃ outcome outcome' t t', s.run (applyBoth c c').run = (.ok (outcome, outcome'), t) ∧
      s.run (applyBoth c' c).run = (.ok (outcome', outcome), t') ∧
      ∀ x, x ∈ t.grants ↔ x ∈ t'.grants := by
  obtain ⟨t, hrun, ht⟩ := hc.run_applyBoth hc' s
  obtain ⟨t', hrun', ht'⟩ := hc'.run_applyBoth hc s
  have hv : c.verdict (c'.leave s) = c.verdict s := hc.verdict_leave hc' hne h
  have hv' : c'.verdict (c.leave s) = c'.verdict s := hc'.verdict_leave hc hne.symm h'
  rw [hv'] at hrun
  rw [hv] at hrun'
  refine ⟨_, _, t, t', hrun, hrun', fun x => ?_⟩
  rw [ht, ht']
  -- each grant is in the hands of one of the changes at most
  by_cases hx : x = g
  · subst hx
    rw [hc'.mem_leave_of_ne hne]
    exact (hc.mem_leave_congr hv (hc'.mem_leave_of_ne hne)).symm
  · by_cases hx' : x = g'
    · subst hx'
      rw [hc.mem_leave_of_ne hne.symm]
      exact hc'.mem_leave_congr hv' (hc.mem_leave_of_ne hne.symm)
    · rw [hc'.mem_leave_of_ne hx', hc.mem_leave_of_ne hx, hc.mem_leave_of_ne hx,
        hc'.mem_leave_of_ne hx']

/-- In the sample the user `root` gives up the permission to administer the default organization,
which is rejected, and `alice` gets another one there. -/
theorem applyBoth_comm_sample :
    let s := Store.sample default
    let c : Change := ⟨.remove, Store.sampleDefault, Permission.administer, none, .user 1 "root"⟩
    let c' : Change := ⟨.add, Store.sampleDefault, "scan", none, .user 2 "alice"⟩
    let g := c.grantOf (.user 1 "root")
    let g' := c'.grantOf (.user 2 "alice")
    (c.Concerns g ∧ c'.Concerns g' ∧ g ≠ g' ∧ ¬ c.Interferes c' ∧ ¬ c'.Interferes c) ∧
      ∃ outcome outcome' t t', s.run (applyBoth c c').run = (.ok (outcome, outcome'), t) ∧
        s.run (applyBoth c' c).run = (.ok (outcome', outcome), t') ∧
        ∀ x, x ∈ t.grants ↔ x ∈ t'.grants := by
  intro s c c' g g'
  have hc : c.Concerns g := ⟨.inr rfl, rfl⟩
  have hc' : c'.Concerns g' := ⟨.inl rfl, rfl⟩
  have hne : g ≠ g' := by decide
  have h : ¬ c.Interferes c' := fun hinterferes => absurd hinterferes.2.2.1 (by decide)
  have h' : ¬ c'.Interferes c := fun hinterferes => nomatch hinterferes.1
  exact ⟨⟨hc, hc', hne, h, h'⟩, applyBoth_comm hc hc' hne h h' s⟩

end Change

end Entitlements
