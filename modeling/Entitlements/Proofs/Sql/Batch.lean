import Entitlements.Proofs.Service.Batches
import Entitlements.Proofs.Service.Units

/-!
# Batches of changes on a database

After its checks a batch is one unit of work. The first change that is for nobody, is rejected or
fails is where the work ends, with its fault, and then nothing of the batch is made permanent. Where
the batch answers, every change of it was answered, and all that was written is permanent.
-/

namespace Entitlements

open Sql

/-- A change ends the work of its batch with a fault: it is for nobody, or it is rejected, or
something fails as it is applied. -/
inductive Change.Fails (c : Change) (d : Database) : Fault → Prop where
  | forNobody (hc : c.target = .nobody) : Fails c d (.unsupportedChange c.describe)
  | rejected (r : Rejection) (hc : c.target ≠ .nobody)
      (hr : (d.run c.apply.run).1 = .ok (.rejected r)) : Fails c d (.refused (.rejected r))
  | failed (f : Fault) (hc : c.target ≠ .nobody) (hf : (d.run c.apply.run).1 = .error f) :
    Fails c d f

namespace Sql.Database

variable {α β : Type} {d d' : Database}

/-- Work goes on after a value, and is over after a fault. -/
theorem run_bind (w : Work α) (k : α → Work β) (d : Database) :
    d.run (w >>= k).run =
      match d.run w.run with
      | (.ok a, d') => d'.run (k a).run
      | (.error f, d') => (.error f, d') := by
  unfold run
  rw [ExceptT.run_bind, Program.run_bind]
  rcases Program.run serve w.run d with ⟨f | a, d'⟩
  · rfl
  · rfl

/-- A change of a batch ends the work exactly where it fails. -/
theorem applyOrFail_error_iff {c : Change} {f : Fault} :
    (d.run c.applyOrFail.run).1 = .error f ↔ c.Fails d f := by
  unfold Change.applyOrFail
  split
  next hc =>
    show Except.error (Fault.unsupportedChange c.describe) = .error f ↔ _
    constructor
    · intro hf
      obtain rfl := Except.error.inj hf
      exact .forNobody hc
    · rintro (_ | ⟨r, hsomebody, -⟩ | ⟨f, hsomebody, -⟩)
      · rfl
      · exact absurd hc hsomebody
      · exact absurd hc hsomebody
  next hc =>
    rw [run_bind]
    cases hrun : d.run c.apply.run with
    | mk result d' =>
      constructor
      · intro hf
        rcases result with f' | _ | _ | r
        · obtain rfl : f' = f := Except.error.inj hf
          exact .failed f' hc (by rw [hrun])
        · cases hf
        · cases hf
        · obtain rfl : Fault.refused (.rejected r) = f := Except.error.inj hf
          exact .rejected r hc (by rw [hrun])
      · rintro (hnobody | ⟨r, -, hr⟩ | ⟨f, -, hf⟩)
        · exact absurd hnobody hc
        · obtain rfl : result = .ok (.rejected r) := by simpa [hrun] using hr
          rfl
        · obtain rfl : result = .error f := by simpa [hrun] using hf
          rfl

/-- A change of a batch that is answered was not rejected. -/
theorem ne_rejected_of_applyOrFail {c : Change} {outcome : Outcome}
    (h : (d.run c.applyOrFail.run).1 = .ok outcome) (r : Rejection) : outcome ≠ .rejected r := by
  unfold Change.applyOrFail at h
  split at h
  next => cases h
  next hc =>
    rw [run_bind] at h
    cases hrun : d.run c.apply.run with
    | mk result d' =>
      rw [hrun] at h
      rcases result with f | _ | _ | r'
      · cases h
      · cases h
        exact nofun
      · cases h
        exact nofun
      · cases h

/-- The work of a batch ends with a fault exactly where a change fails after all before it have
been answered. -/
theorem applyAll_error_iff {changes : List Change} {f : Fault} :
    (d.run (Change.applyAll changes).run).1 = .error f ↔
      ∃ earlier c later outcomes d', changes = earlier ++ c :: later ∧
        d.run (Change.applyAll earlier).run = (.ok outcomes, d') ∧ c.Fails d' f := by
  induction changes generalizing d with
  | nil =>
    constructor
    · intro hf
      cases hf
    · rintro ⟨earlier, c, later, outcomes, d', hchanges, -⟩
      simp at hchanges
  | cons c rest ih =>
    constructor
    · intro hf
      cases hrun : d.run c.applyOrFail.run with
      | mk result d' =>
        cases result with
        | error f' =>
          have hover : (d.run (Change.applyAll (c :: rest)).run).1 = .error f' :=
            congrArg Prod.fst (Change.run_applyAll_cons_of_error hrun)
          obtain rfl : f' = f := Except.error.inj (hover.symm.trans hf)
          have hfails : c.Fails d f' := applyOrFail_error_iff.mp (by rw [hrun])
          exact ⟨[], c, rest, [], d, rfl, rfl, hfails⟩
        | ok outcome =>
          obtain ⟨earlier, c', later, outcomes, d'', rfl, hearlier, hfails⟩ :=
            ih.mp ((Change.applyAll_cons_error_iff hrun).mp hf)
          have hboth := Change.applyAll_cons_ok_iff.mpr ⟨outcome, d', outcomes, hrun, hearlier, rfl⟩
          exact ⟨c :: earlier, c', later, outcome :: outcomes, d'', rfl, hboth, hfails⟩
    · rintro ⟨earlier, c', later, outcomes, d', hchanges, hearlier, hfails⟩
      cases earlier with
      | nil =>
        obtain ⟨rfl, rfl⟩ := List.cons.inj hchanges
        obtain rfl : d = d' := (Prod.mk.inj hearlier).2
        have hrun : d.run c.applyOrFail.run = (.error f, (d.run c.applyOrFail.run).2) :=
          Prod.ext (applyOrFail_error_iff.mpr hfails) rfl
        exact congrArg Prod.fst (Change.run_applyAll_cons_of_error hrun)
      | cons c'' earlier =>
        obtain ⟨rfl, rfl⟩ := List.cons.inj hchanges
        obtain ⟨outcome, d₁, outcomes', hrun, hrest, -⟩ := Change.applyAll_cons_ok_iff.mp hearlier
        refine (Change.applyAll_cons_error_iff hrun).mpr (ih.mpr ?_)
        exact ⟨earlier, c', later, outcomes', d', rfl, hrest, hfails⟩

/-- Where the work of a batch answers, it answers for every change, and none was rejected. -/
theorem answered_of_applyAll {changes : List Change} {outcomes : List Outcome}
    (h : d.run (Change.applyAll changes).run = (.ok outcomes, d')) :
    outcomes.length = changes.length ∧ ∀ r, Outcome.rejected r ∉ outcomes := by
  induction changes generalizing d outcomes with
  | nil =>
    obtain rfl : [] = outcomes := Except.ok.inj (Prod.mk.inj h).1
    exact ⟨rfl, fun r => List.not_mem_nil⟩
  | cons c rest ih =>
    obtain ⟨outcome, d₁, outcomes', hrun, hrest, rfl⟩ := Change.applyAll_cons_ok_iff.mp h
    obtain ⟨hlength, hnone⟩ := ih hrest
    have hfirst := ne_rejected_of_applyOrFail (congrArg Prod.fst hrun)
    constructor
    · rw [List.length_cons, List.length_cons, hlength]
    · intro r hr
      rcases List.mem_cons.mp hr with hr | hr
      · exact hfirst r hr.symm
      · exact hnone r hr

/-- A batch that a session applies takes effect as a whole or not at all. One that does not pass its
checks is over. One that does is a unit of work that fails exactly where a change of it fails after
all before it were answered; otherwise every change is answered, and none was rejected. -/
structure AppliesWhole (d : Database) (σ : Session) (changes : List Change) : Prop where
  unchecked : ∀ f τ d₁, d.run ((Change.checkAll changes).run.run σ) = ((.error f, τ), d₁) →
    d.run ((Change.applyBatch changes).run.run σ) = ((.error f, τ), d₁)
  checked : ∀ τ d₁, d.run ((Change.checkAll changes).run.run σ) = ((.ok (), τ), d₁) →
    ∃ body result d₂ inner after?,
      d.run ((Change.applyBatch changes).run.run σ) = ((result, τ), d₂) ∧
      Brackets d₁ body result d₂ inner after? ∧
      (∀ f, body = .error f ↔ ∃ earlier c later outcomes d', changes = earlier ++ c :: later ∧
        (d₁.tell .acquire).run (Change.applyAll earlier).run = (.ok outcomes, d') ∧
        c.Fails d' f) ∧
      ∀ outcomes, body = .ok outcomes → outcomes.length = changes.length ∧
        ∀ r, Outcome.rejected r ∉ outcomes

theorem appliesWhole (d : Database) (σ : Session) (changes : List Change) :
    d.AppliesWhole σ changes := by
  constructor
  · intro f τ d₁ hchecks
    exact Change.run_applyBatch_of_error hchecks
  · intro τ d₁ hchecks
    obtain ⟨inner, after?, hbrackets⟩ := exists_brackets (Change.applyAll_isWithin changes) d₁
    refine ⟨_, _, _, inner, after?, ?_, hbrackets, fun f => applyAll_error_iff,
      fun outcomes hanswered => answered_of_applyAll (Prod.ext hanswered rfl)⟩
    exact Change.run_applyBatch_of_ok hchecks

/-- Every unit of work on a database is bracketed, whatever is asked for within it, whatever the
database answers and wherever something fails; and a batch of changes is such a unit of work. -/
theorem units_bracketed {w : Work α} (hw : Work.MakesOnly Request.IsWithin w) (d : Database)
    (σ : Session) (changes : List Change) :
    (∃ inner after?, Brackets d ((d.tell .acquire).run w.run).1 (d.run (transaction w).run).1
      (d.run (transaction w).run).2 inner after?) ∧ d.AppliesWhole σ changes :=
  ⟨exists_brackets hw d, appliesWhole d σ changes⟩

/-- Work that is given up after a statement, on a database on which nothing can be made permanent;
and a change by a session that administers the organization of it. -/
theorem units_bracketed_cancelled :
    let w : Work Unit := do
      Query.ask (.lockOrganization "org-default")
      throw .cancelled
    let d : Database := { commitFailure? := some "down", around := default }
    let σ : Session := ⟨.user 1 "root" false, some ⟨[("org-default", Permission.administer)], []⟩,
      some "org-default", []⟩
    let c : Change := ⟨.add, "org-default", "scan", none, .user 2 "alice"⟩
    Work.MakesOnly Request.IsWithin w ∧
      (∃ inner after?, Brackets d ((d.tell .acquire).run w.run).1 (d.run (transaction w).run).1
        (d.run (transaction w).run).2 inner after?) ∧ d.AppliesWhole σ [c] := by
  intro w d σ c
  have hw : Work.MakesOnly Request.IsWithin w := .bind (.query trivial) fun _ => .throw _
  exact ⟨hw, units_bracketed hw d σ [c]⟩

end Sql.Database

end Entitlements
