import Entitlements.Proofs.Service.Batches
import Entitlements.Proofs.Service.Verdict
import Entitlements.Proofs.Session.Answers

/-!
# Batches of changes on a store in memory

Every change of a batch is judged on what the changes before it have left. A batch that answers has
carried all of its changes out, one after the other, and tells of each whether it made a
difference. One that fails does so at a change that is rejected; a store in memory keeps what the
changes before that one have left.
-/

namespace Entitlements.Change

variable {c : Change} {g : Grant} {gs : List Grant} {changes rest : List Change}
  {outcomes : List Outcome} {s t u : Store}

/-- The grants with changes carried out one after the other. -/
def settleAll (gs : List Grant) (changes : List Change) : List Grant :=
  changes.foldl (fun gs c => c.settle gs) gs

/-- The grants that the changes of a kind really add or drop, in order. -/
def alterations (operation : Operation) : List Grant → List Change → List Grant
  | _, [] => []
  | gs, c :: rest => alteration operation gs c ++ alterations operation (c.settle gs) rest

/-- Changes were carried out one after the other. Each was applied if it altered the grants that
the changes before it had left, and was unchanged if not; a grant was added only where it was not
there, and dropped only where it was. What was really added and dropped and what was locked is in
the journal, and nothing else was done. -/
structure CarriedOut (changes : List Change) (outcomes : List Outcome) (s t : Store) : Prop where
  length : outcomes.length = changes.length
  unrejected : ∀ r, Outcome.rejected r ∉ outcomes
  outcome : ∀ i (c : Change) (o : Outcome), changes[i]? = some c → outcomes[i]? = some o →
    (o = .applied ↔ c.Alters (settleAll s.grants (changes.take i))) ∧
      (o = .unchanged ↔ ¬ c.Alters (settleAll s.grants (changes.take i)))
  genuine : ∀ i (c : Change) (g : Grant), changes[i]? = some c → c.grant? = some g →
    outcomes[i]? = some .applied →
      (c.operation = .add → g ∉ settleAll s.grants (changes.take i)) ∧
        (c.operation = .remove → g ∈ settleAll s.grants (changes.take i))
  grants : t.grants = settleAll s.grants changes
  inserted : t.journal.inserted = s.journal.inserted ++ alterations .add s.grants changes
  deleted : t.journal.deleted = s.journal.deleted ++ alterations .remove s.grants changes
  locked : t.journal.locked = s.journal.locked ++ changes.map (·.organization)
  besides : ∃ grants locked inserted deleted events,
    t = { s with
      grants
      journal := { s.journal with locked, inserted, deleted }
      around := { s.around with events } }

theorem carriedOut_nil (s : Store) : CarriedOut [] [] s s where
  length := rfl
  unrejected := nofun
  outcome := by simp
  genuine := by simp
  grants := rfl
  inserted := (List.append_nil _).symm
  deleted := (List.append_nil _).symm
  locked := (List.append_nil _).symm
  besides := ⟨_, _, _, _, _, rfl⟩

/-- One more change at the front: the others find what it has left. -/
theorem CarriedOut.cons (hc : c.Concerns g) (hr : ∀ r, c.verdict s ≠ .rejected r)
    (ht : (c.carryOut s).SameButLog t) (h : CarriedOut rest outcomes t u) :
    CarriedOut (c :: rest) (c.verdict s :: outcomes) s u := by
  obtain ⟨events, rfl⟩ := ht
  constructor
  case length => simp [h.length]
  case unrejected =>
    intro r hmem
    rcases List.mem_cons.mp hmem with hmem | hmem
    · exact hr r hmem.symm
    · exact h.unrejected r hmem
  case outcome =>
    intro i c' o hc' ho
    cases i with
    | zero =>
      obtain rfl : c = c' := by simpa using hc'
      obtain rfl : c.verdict s = o := by simpa using ho
      exact ⟨verdict_eq_applied_iff hr, verdict_eq_unchanged_iff⟩
    | succ i => exact h.outcome i c' o (by simpa using hc') (by simpa using ho)
  case genuine =>
    intro i c' g' hc' hg' ho
    cases i with
    | zero =>
      obtain rfl : c = c' := by simpa using hc'
      obtain rfl : g = g' := Option.some.inj (hc.grant?.symm.trans hg')
      have happlied : c.verdict s = .applied := by simpa using ho
      have halters : c.Alters s.grants := (verdict_eq_applied_iff hr).mp happlied
      exact ⟨hc.not_mem_of_alters halters, hc.mem_of_alters halters⟩
    | succ i => exact h.genuine i c' g' (by simpa using hc') hg' (by simpa using ho)
  case grants => exact h.grants
  case inserted => exact h.inserted.trans (List.append_assoc _ _ _)
  case deleted => exact h.deleted.trans (List.append_assoc _ _ _)
  case locked => exact h.locked.trans (List.append_assoc _ _ _)
  case besides =>
    obtain ⟨grants, locked, inserted, deleted, events, rfl⟩ := h.besides
    exact ⟨_, _, _, _, _, rfl⟩

/-- A batch of changes that was begun on a store was ended by a change that is rejected. What the
changes before it have left is kept; it was locked for the rejected change, and nothing else. -/
structure StoppedAt (earlier : List Change) (c : Change) (r : Rejection) (s before t : Store) :
    Prop where
  earlier : ∃ outcomes, s.run (applyAll earlier).run = (.ok outcomes, before) ∧
    CarriedOut earlier outcomes s before
  rejected : (before.run c.apply.run).1 = .ok (.rejected r)
  kept : (before.locking c.organization).SameButLog t

/-- No unit of work has ended in between. -/
theorem StoppedAt.units {earlier : List Change} {r : Rejection} {before : Store}
    (h : StoppedAt earlier c r s before t) :
    t.journal.commits = s.journal.commits ∧ t.journal.rollbacks = s.journal.rollbacks := by
  obtain ⟨events, rfl⟩ := h.kept
  obtain ⟨outcomes, -, hcarried⟩ := h.earlier
  obtain ⟨_, _, _, _, _, rfl⟩ := hcarried.besides
  exact ⟨rfl, rfl⟩

theorem StoppedAt.cons {earlier : List Change} {c' : Change} {r : Rejection} {before : Store}
    (hc : c.Concerns g) (hr : ∀ r, c.verdict s ≠ .rejected r)
    (hrun : s.run c.applyOrFail.run = (.ok (c.verdict s), t)) (ht : (c.carryOut s).SameButLog t)
    (h : StoppedAt earlier c' r t before u) : StoppedAt (c :: earlier) c' r s before u where
  earlier := by
    obtain ⟨outcomes, hearlier, hcarried⟩ := h.earlier
    have hall : s.run (applyAll (c :: earlier)).run = (.ok (c.verdict s :: outcomes), before) :=
      applyAll_cons_ok_iff.mpr ⟨_, t, outcomes, hrun, hearlier, rfl⟩
    exact ⟨_, hall, hcarried.cons hc hr ht⟩
  rejected := h.rejected
  kept := h.kept

/-- Changes that are to add or to drop grants are all carried out, or one of them is rejected. -/
theorem run_applyAll (hchanges : ∀ c ∈ changes, ∃ g, c.Concerns g) (s : Store) :
    (∃ outcomes t, s.run (applyAll changes).run = (.ok outcomes, t) ∧
      CarriedOut changes outcomes s t) ∨
    ∃ earlier c later r before t, changes = earlier ++ c :: later ∧
      StoppedAt earlier c r s before t ∧
      s.run (applyAll changes).run = (.error (.refused (.rejected r)), t) := by
  induction changes generalizing s with
  | nil => exact .inl ⟨[], s, rfl, carriedOut_nil s⟩
  | cons c rest ih =>
    obtain ⟨g, hc⟩ := hchanges c List.mem_cons_self
    obtain ⟨t, hrun, ht⟩ := hc.run_apply s
    by_cases hrejected : ∃ r, c.verdict s = .rejected r
    · obtain ⟨r, hr⟩ := hrejected
      rw [hr] at hrun
      rw [leave_of_rejected hr] at ht
      have hfirst := run_applyOrFail_of_rejected hc.target_ne_nobody hrun
      refine .inr ⟨[], c, rest, r, s, t, rfl, ?_, run_applyAll_cons_of_error hfirst⟩
      exact ⟨⟨[], rfl, carriedOut_nil s⟩, congrArg Prod.fst hrun, ht⟩
    · have hr (r : Rejection) : c.verdict s ≠ .rejected r := fun h => hrejected ⟨r, h⟩
      rw [leave_of_ne_rejected hr] at ht
      have hfirst := run_applyOrFail_of_ok hc.target_ne_nobody hr hrun
      have hrest : ∀ c' ∈ rest, ∃ g, c'.Concerns g := fun c' hc' =>
        hchanges c' (List.mem_cons_of_mem c hc')
      rcases ih hrest t with ⟨outcomes, u, hdone, hcarried⟩ |
        ⟨earlier, c', later, r, before, u, rfl, hstopped, hfailed⟩
      · refine .inl ⟨_, u, ?_, hcarried.cons hc hr ht⟩
        exact applyAll_cons_ok_iff.mpr ⟨_, t, outcomes, hfirst, hdone, rfl⟩
      · refine .inr ⟨c :: earlier, c', later, r, before, u, rfl,
          hstopped.cons hc hr hfirst ht, ?_⟩
        rw [Store.run] at hfailed
        rw [Store.run, run_applyAll_cons_of_ok hfirst, hfailed]
        rfl

/-- How a batch ends on a store after the checks have left another one: all of its changes were
carried out and the unit of work was completed, or a change was rejected and the unit of work was
given up with the refusal. -/
inductive BatchEnds (changes : List Change) (σ τ : Session) (s s₁ : Store) : Prop where
  /-- The batch is answered. -/
  | answered (outcomes : List Outcome) (t : Store)
    (run : s.run ((applyBatch changes).run.run σ) = ((.ok outcomes, τ), t.completed))
    (carriedOut : CarriedOut changes outcomes s₁ t)
  /-- The batch is refused. -/
  | refused (earlier : List Change) (c : Change) (later : List Change) (r : Rejection)
    (before t : Store) (split : changes = earlier ++ c :: later)
    (run : s.run ((applyBatch changes).run.run σ) =
      ((.error (.refused (.rejected r)), τ), t.abandoned))
    (stopped : StoppedAt earlier c r s₁ before t)
    (rollbacks : t.abandoned.journal.rollbacks = s₁.journal.rollbacks + 1)
    (commits : t.abandoned.journal.commits = s₁.journal.commits)

/-- A session that administers all scopes of a batch has all changes of it carried out, each on what
the ones before it have left, up to the first that is rejected. -/
theorem batchEnds_of_administers {σ : Session} (hchanges : ∀ c ∈ changes, ∃ g, c.Concerns g)
    (hσ : ∀ c ∈ changes, σ.answer s (Session.checkAdministers (some c.scope)) = .ok ()) :
    ∃ τ s₁, s.run ((checkAll changes).run.run σ) = ((.ok (), τ), s₁) ∧ s.Untouched s₁ ∧
      BatchEnds changes σ τ s s₁ := by
  have hchecks : Acting.Ensures Store.setting (checkAll changes) σ s
      (fun _ _ s₁ => s.Untouched s₁) fun _ _ _ => False :=
    checkAll_decides (.refl s) (fun _ _ _ _ _ hs₁ => hs₁) fun hall _ _ _ _ _ =>
      hall fun c hc => Session.answer_checkAdministers_iff.mp (hσ c hc)
  obtain ⟨⟨⟩, τ, s₁, hchecked, hs₁⟩ := Acting.run_of_ensures hchecks
  refine ⟨τ, s₁, hchecked, hs₁, ?_⟩
  rw [Store.run] at hchecked
  rcases run_applyAll hchanges s₁ with ⟨outcomes, t, hdone, hcarried⟩ |
    ⟨earlier, c, later, r, before, t, hsplit, hstopped, hfailed⟩
  · have hunit := Store.run_transaction_of_ok hdone
    rw [Store.run] at hunit
    refine .answered outcomes t ?_ hcarried
    rw [Store.run, run_applyBatch_of_ok hchecked, hunit]
  · have hunit := Store.run_transaction_of_error hfailed
    rw [Store.run] at hunit
    have hunits := hstopped.units
    refine .refused earlier c later r before t hsplit ?_ hstopped ?_ hunits.1
    · rw [Store.run, run_applyBatch_of_ok hchecked, hunit]
    · exact congrArg (· + 1) hunits.2

/-- In the sample the user `root` gives a permission to `alice` and then gives up the own one. -/
theorem batchEnds_of_administers_root :
    let s := Store.sample default
    let σ := Session.ofUser? (s.userByLogin? "root")
    let changes : List Change :=
      [⟨.add, Store.sampleDefault, "scan", none, .user 2 "alice"⟩,
        ⟨.remove, Store.sampleDefault, Permission.administer, none, .user 1 "root"⟩]
    ((∀ c ∈ changes, ∃ g, c.Concerns g) ∧
        ∀ c ∈ changes, σ.answer s (Session.checkAdministers (some c.scope)) = .ok ()) ∧
      ∃ τ s₁, s.run ((checkAll changes).run.run σ) = ((.ok (), τ), s₁) ∧ s.Untouched s₁ ∧
        BatchEnds changes σ τ s s₁ := by
  intro s σ changes
  have hchanges : ∀ c ∈ changes, ∃ g, c.Concerns g := by
    intro c hc
    rcases List.mem_pair.mp hc with rfl | rfl
    · exact ⟨_, .inl rfl, rfl⟩
    · exact ⟨_, .inr rfl, rfl⟩
  have hσ : ∀ c ∈ changes, σ.answer s (Session.checkAdministers (some c.scope)) = .ok () := by
    intro c hc
    rcases List.mem_pair.mp hc with rfl | rfl
    · rfl
    · rfl
  exact ⟨⟨hchanges, hσ⟩, batchEnds_of_administers hchanges hσ⟩

end Entitlements.Change
