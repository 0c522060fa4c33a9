import Entitlements.Proofs.Service.Verdict
import Entitlements.Proofs.Session.Authority

/-!
# What applying a change does

A change adds its grant where the grant is not there, or drops it where it is, and does nothing
else. A batch locks, adds and drops nothing unless the session administers the scope of every
change of it.
-/

namespace Entitlements

/-- What an operation makes of a grant. -/
def Operation.effect? (g : Grant) : Operation → Option Effect
  | .add => some (.grantAdded g)
  | .remove => some (.grantRemoved g)
  | .other _ => none

namespace Store

variable {s t u : Store}

/-- What an operation on a grant leaves behind, by what comes of it: where it was applied the grant
was not as asked for and now is, and elsewhere nothing was done. -/
def Amended (s : Store) (operation : Operation) (g : Grant) : Outcome → Store → Prop
  | .applied, t => ∃ e, operation.effect? g = some e ∧ e.Genuine s ∧ (e.on s).SameData t
  | _, t => s.SameData t

/-- What is counted or said in the log does not matter for what is done to a grant. -/
theorem Amended.trans {operation : Operation} {g : Grant} {outcome : Outcome}
    (h : s.Amended operation g outcome t) (h' : t.SameData u) :
    s.Amended operation g outcome u := by
  cases outcome with
  | applied =>
    obtain ⟨e, he, hg, h⟩ := h
    exact ⟨e, he, hg, h.trans h'⟩
  | unchanged | rejected => exact SameData.trans h h'

/-- Nor does it matter what was counted or said before. -/
theorem Amended.of_sameData {operation : Operation} {g : Grant} {outcome : Outcome}
    (hs : s.SameData t) (h : t.Amended operation g outcome u) : s.Amended operation g outcome u := by
  cases outcome with
  | applied =>
    obtain ⟨e, he, hg, h⟩ := h
    obtain ⟨j, events, rfl⟩ := hs
    refine ⟨e, he, ?_, (SameData.on ⟨j, events, rfl⟩ e).trans h⟩
    cases e <;> exact hg
  | unchanged | rejected => exact hs.trans h

end Store

namespace Change

variable {s t : Store} {c : Change} {g : Grant} {h : Holder} {outcome : Outcome}

/-- What a change comes to is done to its grant. -/
theorem Concerns.amended (hc : c.Concerns g) (hend : c.Ends s outcome t) :
    s.Amended c.operation g outcome t := by
  obtain ⟨rfl, ht⟩ := hend
  cases hv : c.verdict s with
  | rejected r =>
    rw [leave_of_rejected hv] at ht
    exact ht.sameData
  | unchanged =>
    have hsame : ¬ c.Alters s.grants := verdict_eq_unchanged_iff.mp hv
    rw [leave_of_ne_rejected (by simp [hv]), carryOut_of_not_alters hsame] at ht
    exact ht.sameData
  | applied =>
    have hr (r : Rejection) : c.verdict s ≠ .rejected r := by simp [hv]
    have halters : c.Alters s.grants := (verdict_eq_applied_iff hr).mp hv
    rw [leave_of_ne_rejected hr] at ht
    obtain ⟨events, rfl⟩ := ht
    rcases hc.operation with hop | hop
    · have hsettle : c.settle s.grants = insertNew g s.grants := by simp [settle, hop, hc.grant?]
      refine ⟨.grantAdded g, by rw [hop]; rfl, hc.not_mem_of_alters halters hop, ?_⟩
      exact ⟨_, _, by rw [carryOut, hsettle]; rfl⟩
    · have hsettle : c.settle s.grants = removeAll g s.grants := by simp [settle, hop, hc.grant?]
      refine ⟨.grantRemoved g, by rw [hop]; rfl, hc.mem_of_alters halters hop, ?_⟩
      exact ⟨_, _, by rw [carryOut, hsettle]; rfl⟩

/-- A change that is applied adds or drops its grant, and any other does nothing. -/
theorem apply_ensures (hc : c.target.holder? = some h) (s : Store) :
    Work.Ensures Store.setting c.apply s (s.Amended c.operation (c.grantOf h))
      fun _ t => s.SameData t := by
  refine (c.apply_decides s).mono (fun outcome t hend => ?_) fun _ _ hend => hend.2.sameData
  obtain ⟨⟨g, hconcerns⟩, hend⟩ := hend
  obtain rfl : c.grantOf h = g := by simpa [grant?, hc] using hconcerns.grant?
  exact hconcerns.amended hend

theorem applyOrFail_ensures (hc : c.target.holder? = some h) (s : Store) :
    Work.Ensures Store.setting c.applyOrFail s (s.Amended c.operation (c.grantOf h))
      fun _ t => s.SameData t := by
  refine (c.applyOrFail_decides s).mono (fun outcome t hend => ?_) fun _ t hend => ?_
  · obtain ⟨⟨g, hconcerns⟩, hend, -⟩ := hend
    obtain rfl : c.grantOf h = g := by simpa [grant?, hc] using hconcerns.grant?
    exact hconcerns.amended hend
  · rcases hend.2 with rfl | hlocked
    · exact .refl t
    · exact hlocked.sameData

/-- What is left when the session has had a single change applied: nothing was done, or the
session administers the scope of the change and its grant was added or dropped. -/
def Applied (c : Change) (h : Holder) (σ : Session) (s t : Store) : Prop :=
  s.SameData t ∨
    σ.Administers s c.scope ∧
      ∃ e, c.operation.effect? (c.grantOf h) = some e ∧ e.Genuine s ∧ (e.on s).SameData t

/-- A batch of one change has the effect of the change. -/
theorem applyBatch_singleton_ensures {σ : Session} {h : Holder} (hc : c.target.holder? = some h)
    (ht : s.Untouched t) :
    Acting.Ensures Store.setting (applyBatch [c]) σ t
      (fun _ τ t' => Session.Learned s σ τ ∧ c.Applied h σ s t')
      fun _ τ t' => Session.Learned s σ τ ∧ c.Applied h σ s t' := by
  unfold applyBatch
  rw [Acting.ensures_bind]
  refine checkAll_ensures ht (fun τ t' hτ ht' hall => ?_)
    fun _ τ t' hτ ht' => ⟨hτ, .inl ht'.sameData⟩
  have hscope : σ.Administers s c.scope := hall c List.mem_cons_self
  have hdone {outcome : Outcome} {t'' : Store}
      (hamended : s.Amended c.operation (c.grantOf h) outcome t'') : c.Applied h σ s t'' := by
    cases outcome with
    | applied => exact .inr ⟨hscope, hamended⟩
    | unchanged | rejected => exact .inl hamended
  rw [Acting.ensures_lift, Work.ensures_setting_transaction, applyAll, Work.ensures_bind]
  refine (applyOrFail_ensures hc t').mono (fun _ t'' hamended => ?_)
    fun _ t'' hsame => ⟨hτ, .inl (ht'.sameData.trans hsame).abandoned⟩
  exact ⟨hτ, hdone ((hamended.of_sameData ht'.sameData).trans (.completed (.refl t'')))⟩

/-- A batch that is not for the session to apply locks, adds and drops nothing. -/
theorem applyBatch_ensures (changes : List Change) (σ : Session) (s : Store) :
    Acting.Ensures Store.setting (applyBatch changes) σ s
      (fun _ _ t => s.Untouched t ∨ ∀ c ∈ changes, σ.Administers s c.scope)
      fun _ _ t => s.Untouched t ∨ ∀ c ∈ changes, σ.Administers s c.scope := by
  unfold applyBatch
  rw [Acting.ensures_bind]
  refine checkAll_ensures (.refl s) (fun τ t' hτ ht' hall => ?_) fun _ _ _ _ ht' => .inl ht'
  rw [Acting.ensures_lift]
  exact (Store.ensures_setting_iff _ _ _).mpr (by split <;> exact .inr hall)

end Change

end Entitlements
