import Entitlements.Apply

/-!
# Runs of batches

How a batch of changes runs, whoever answers its requests. The changes are taken one after the
other, each on what the one before has left, and the first fault ends the batch. The checks on the
caller come first, and what they leave is where the unit of work begins.
-/

namespace Entitlements.Change

variable {κ : Type} {serve : (r : Request) → κ → r.Answer × κ} {c : Change}
  {changes rest : List Change} {s t : κ} {f : Fault}

/-- A change that is rejected makes its batch fail. -/
theorem run_applyOrFail_of_rejected {r : Rejection} (hc : c.target ≠ .nobody)
    (h : c.apply.run.run serve s = (.ok (.rejected r), t)) :
    c.applyOrFail.run.run serve s = (.error (.refused (.rejected r)), t) := by
  unfold applyOrFail
  split
  next hnobody => exact absurd hnobody hc
  next =>
    rw [ExceptT.run_bind, Program.run_bind, h]
    rfl

/-- What else comes of a change is what the batch answers. -/
theorem run_applyOrFail_of_ok {outcome : Outcome} (hc : c.target ≠ .nobody)
    (hr : ∀ r, outcome ≠ .rejected r) (h : c.apply.run.run serve s = (.ok outcome, t)) :
    c.applyOrFail.run.run serve s = (.ok outcome, t) := by
  unfold applyOrFail
  split
  next hnobody => exact absurd hnobody hc
  next =>
    rw [ExceptT.run_bind, Program.run_bind, h]
    cases outcome with
    | rejected r => exact absurd rfl (hr r)
    | applied | unchanged => rfl

/-- The fault of the first change is the fault of the batch. -/
theorem run_applyAll_cons_of_error (h : c.applyOrFail.run.run serve s = (.error f, t)) :
    (applyAll (c :: rest)).run.run serve s = (.error f, t) := by
  rw [applyAll, ExceptT.run_bind, Program.run_bind, h]
  rfl

/-- After a first change that was answered, the rest decides. -/
theorem run_applyAll_cons_of_ok {outcome : Outcome}
    (h : c.applyOrFail.run.run serve s = (.ok outcome, t)) :
    (applyAll (c :: rest)).run.run serve s =
      (((applyAll rest).run.run serve t).1.map (outcome :: ·),
        ((applyAll rest).run.run serve t).2) := by
  rw [applyAll, ExceptT.run_bind, Program.run_bind, h]
  show ((applyAll rest >>= fun outcomes => pure (outcome :: outcomes)) : Work _).run.run serve t = _
  rw [ExceptT.run_bind, Program.run_bind]
  rcases (applyAll rest).run.run serve t with ⟨f | outcomes, u⟩
  · rfl
  · rfl

/-- A batch is answered where its first change is, and then the rest. -/
theorem applyAll_cons_ok_iff {outcomes : List Outcome} {u : κ} :
    (applyAll (c :: rest)).run.run serve s = (.ok outcomes, u) ↔
      ∃ outcome t outcomes', c.applyOrFail.run.run serve s = (.ok outcome, t) ∧
        (applyAll rest).run.run serve t = (.ok outcomes', u) ∧ outcome :: outcomes' = outcomes := by
  rcases hfirst : c.applyOrFail.run.run serve s with ⟨f | outcome, t⟩
  · simp [run_applyAll_cons_of_error hfirst]
  · rw [run_applyAll_cons_of_ok hfirst]
    rcases hrest : (applyAll rest).run.run serve t with ⟨f | outcomes', u'⟩
    · simp [Except.map, hrest]
    · constructor
      · intro h
        obtain ⟨houtcomes, rfl⟩ := Prod.mk.inj h
        exact ⟨outcome, t, outcomes', rfl, hrest, Except.ok.inj houtcomes⟩
      · rintro ⟨_, _, _, hsame, hrest', rfl⟩
        obtain ⟨⟨⟩, rfl⟩ := Prod.mk.inj hsame
        obtain ⟨⟨⟩, rfl⟩ := Prod.mk.inj (hrest.symm.trans hrest')
        rfl

/-- After a first change that was answered, the batch fails where the rest does. -/
theorem applyAll_cons_error_iff {outcome : Outcome}
    (h : c.applyOrFail.run.run serve s = (.ok outcome, t)) :
    ((applyAll (c :: rest)).run.run serve s).1 = .error f ↔
      ((applyAll rest).run.run serve t).1 = .error f := by
  rw [run_applyAll_cons_of_ok h]
  cases ((applyAll rest).run.run serve t).1 <;> simp [Except.map]

/-- A batch that does not pass its checks is over. -/
theorem run_applyBatch_of_error {σ τ : Session}
    (h : ((checkAll changes).run.run σ).run serve s = ((.error f, τ), t)) :
    ((applyBatch changes).run.run σ).run serve s = ((.error f, τ), t) := by
  rw [applyBatch, ExceptT.run_bind, StateT.run_bind, Program.run_bind, h]
  rfl

/-- A batch that passes its checks is a unit of work. -/
theorem run_applyBatch_of_ok {σ τ : Session}
    (h : ((checkAll changes).run.run σ).run serve s = ((.ok (), τ), t)) :
    ((applyBatch changes).run.run σ).run serve s =
      ((((transaction (applyAll changes) : Work _).run.run serve t).1, τ),
        ((transaction (applyAll changes) : Work _).run.run serve t).2) := by
  rw [applyBatch, ExceptT.run_bind, StateT.run_bind, Program.run_bind, h]
  show ((transaction (applyAll changes) : Work _).run >>= _).run serve t = _
  rw [Program.run_bind]
  rfl

end Entitlements.Change
