import Entitlements.Proofs.Store.Effect

/-!
# What comes of a change

A change that is to add or to drop a grant never fails on a store in memory. What comes of it is
decided by what is stored before: it is applied where the grant is not as asked for and no rule of
safety stands against it. The store that is left is told exactly, but for what is said in the log.
-/

namespace Entitlements

namespace Store

/-- The store with one more lock in its journal. -/
def locking (organization : String) (s : Store) : Store :=
  s.note fun j => { j with locked := j.locked ++ [organization] }

/-- Only the log has gone on. -/
def SameButLog (s t : Store) : Prop := ∃ events, t = { s with around := { s.around with events } }

variable {s t u : Store}

theorem SameButLog.refl (s : Store) : s.SameButLog s := ⟨_, rfl⟩

theorem SameButLog.record (h : s.SameButLog t) (e : Event) :
    s.SameButLog { t with around := t.around.record e } := by
  obtain ⟨events, rfl⟩ := h
  exact ⟨_, rfl⟩

/-- Locking an organization and speaking of it writes nothing. -/
theorem SameButLog.unwritten {organization : String} (h : (s.locking organization).SameButLog t) :
    s.Unwritten t := by
  obtain ⟨events, rfl⟩ := h
  exact ⟨_, _, _, _, rfl⟩

/-- Nor does it touch what is stored. -/
theorem SameButLog.sameData {organization : String} (h : (s.locking organization).SameButLog t) :
    s.SameData t := by
  obtain ⟨events, rfl⟩ := h
  exact ⟨_, _, rfl⟩

end Store

namespace Change

/-- The grant that the change is about, where it is for somebody. -/
def grant? (c : Change) : Option Grant := c.target.holder?.map c.grantOf

/-- The change is to add or to drop the grant. -/
structure Concerns (c : Change) (g : Grant) : Prop where
  operation : c.operation = .add ∨ c.operation = .remove
  grant? : c.grant? = some g

/-- The grants with the change carried out. -/
def settle (c : Change) (gs : List Grant) : List Grant :=
  match c.operation, c.grant? with
  | .add, some g => insertNew g gs
  | .remove, some g => removeAll g gs
  | _, _ => gs

/-- Carrying the change out makes another set of the grants. -/
def Alters (c : Change) (gs : List Grant) : Prop := ∃ g, ¬ (g ∈ c.settle gs ↔ g ∈ gs)

variable {c : Change} {g x : Grant} {gs : List Grant} {s t : Store}

theorem Concerns.mem_settle (h : c.Concerns g) :
    x ∈ c.settle gs ↔ if x = g then c.operation = .add else x ∈ gs := by
  rcases h.operation with hop | hop
  · by_cases hx : x = g <;> simp [settle, hop, h.grant?, hx]
  · by_cases hx : x = g <;> simp [settle, hop, h.grant?, hx]

/-- A change makes a difference where its grant is not as asked for. -/
theorem Concerns.alters_iff (h : c.Concerns g) :
    c.Alters gs ↔ ¬ (g ∈ gs ↔ c.operation = .add) := by
  constructor
  · rintro ⟨x, hx⟩ hg
    rw [h.mem_settle] at hx
    by_cases hxg : x = g
    · subst hxg
      simp [hg] at hx
    · simp [hxg] at hx
  · intro hg
    refine ⟨g, fun hsettle => hg ?_⟩
    rw [h.mem_settle, if_pos rfl] at hsettle
    exact hsettle.symm

/-- What is added where that makes a difference is not there. -/
theorem Concerns.not_mem_of_alters (h : c.Concerns g) (hgs : c.Alters gs)
    (hop : c.operation = .add) : g ∉ gs :=
  fun hmem => h.alters_iff.mp hgs (iff_of_true hmem hop)

/-- What is dropped where that makes a difference is there. -/
theorem Concerns.mem_of_alters (h : c.Concerns g) (hgs : c.Alters gs)
    (hop : c.operation = .remove) : g ∈ gs := by
  have halters := h.alters_iff.mp hgs
  by_cases hmem : g ∈ gs
  · exact hmem
  · exact absurd (iff_of_false hmem (by simp [hop])) halters

theorem Concerns.target_ne_nobody (h : c.Concerns g) : c.target ≠ .nobody := by
  intro hnobody
  have hg := h.grant?
  simp [Change.grant?, hnobody, Target.holder?] at hg

/-- Carrying a change out again makes no difference any more. -/
theorem Concerns.not_alters_settle (h : c.Concerns g) : ¬ c.Alters (c.settle gs) := by
  rw [h.alters_iff, Classical.not_not, h.mem_settle, if_pos rfl]

/-- Where a change makes no difference, not even the order of the grants does. -/
theorem settle_of_not_alters (h : ¬ c.Alters gs) : c.settle gs = gs := by
  unfold settle
  split
  next g hop hg =>
    have hc : c.Concerns g := ⟨.inl hop, hg⟩
    rw [hc.alters_iff, Classical.not_not] at h
    exact insertNew_of_mem (h.mpr hop)
  next g hop hg =>
    have hc : c.Concerns g := ⟨.inr hop, hg⟩
    rw [hc.alters_iff, Classical.not_not, hop] at h
    exact removeAll_of_not_mem fun hmem => nomatch h.mp hmem
  next => rfl

theorem alters_iff_settle_ne : c.Alters gs ↔ c.settle gs ≠ gs := by
  constructor
  · rintro ⟨g, hg⟩ hsame
    rw [hsame] at hg
    exact hg Iff.rfl
  · intro hne
    by_cases h : c.Alters gs
    · exact h
    · exact absurd (settle_of_not_alters h) hne

instance (c : Change) (gs : List Grant) : Decidable (c.Alters gs) :=
  decidable_of_iff _ alters_iff_settle_ne.symm

/-- The change is about who administers the organization, and nobody is left to administer it
without what one user or one group is granted. -/
def strips (c : Change) (s : Store) (exceptUser exceptGroup : Option Int) : Bool :=
  c.isGlobalAdministration &&
    (s.administrators c.organization Permission.administer exceptUser exceptGroup).isEmpty

/-- The rule of safety that stands against the change. -/
def rejection? (c : Change) (s : Store) : Option Rejection :=
  match c.operation, c.target with
  | .add, .group .anyone => if c.isGlobalAdministration then some .anyoneAdministers else none
  | .remove, .user id _ => if c.strips s (some id) none then some .lastUser else none
  | .remove, .group (.group id) => if c.strips s none (some id) then some .lastGroup else none
  | _, _ => none

/-- What comes of the change. -/
def verdict (c : Change) (s : Store) : Outcome :=
  if c.Alters s.grants then
    match c.rejection? s with
    | some r => .rejected r
    | none => .applied
  else .unchanged

/-- The grant of the change, where the change is of the kind and makes a difference. -/
def alteration (operation : Operation) (gs : List Grant) (c : Change) : List Grant :=
  if c.operation = operation ∧ c.Alters gs then c.grant?.toList else []

/-- The store with the change carried out. -/
def carryOut (c : Change) (s : Store) : Store :=
  { s.locking c.organization with
    grants := c.settle s.grants
    journal := { (s.locking c.organization).journal with
      inserted := s.journal.inserted ++ alteration .add s.grants c
      deleted := s.journal.deleted ++ alteration .remove s.grants c } }

/-- The store that the change leaves. -/
def leave (c : Change) (s : Store) : Store :=
  match c.verdict s with
  | .rejected _ => s.locking c.organization
  | _ => c.carryOut s

/-- Unless it is rejected, a change is applied where it makes a difference and only there. -/
theorem verdict_eq_applied_iff (hr : ∀ r, c.verdict s ≠ .rejected r) :
    c.verdict s = .applied ↔ c.Alters s.grants := by
  unfold verdict at hr ⊢
  by_cases h : c.Alters s.grants
  · cases hrule : c.rejection? s with
    | some r => simp [h, hrule] at hr
    | none => simp [h]
  · simp [h]

theorem verdict_eq_unchanged_iff : c.verdict s = .unchanged ↔ ¬ c.Alters s.grants := by
  unfold verdict
  by_cases h : c.Alters s.grants
  · cases c.rejection? s <;> simp [h]
  · simp [h]

/-- A change is rejected where it would make a difference and a rule stands against it. -/
theorem verdict_eq_rejected_iff {r : Rejection} :
    c.verdict s = .rejected r ↔ c.Alters s.grants ∧ c.rejection? s = some r := by
  unfold verdict
  by_cases h : c.Alters s.grants
  · cases hrule : c.rejection? s <;> simp [h]
  · simp [h]

/-- The change has come to what is decided, and has left what it leaves. -/
def Ends (c : Change) (s : Store) (outcome : Outcome) (t : Store) : Prop :=
  outcome = c.verdict s ∧ (c.leave s).SameButLog t

theorem alteration_of_not_alters (operation : Operation) (h : ¬ c.Alters gs) :
    alteration operation gs c = [] := if_neg fun hand => h hand.2

/-- A change that makes no difference only locks its organization. -/
theorem carryOut_of_not_alters (h : ¬ c.Alters s.grants) :
    c.carryOut s = s.locking c.organization := by
  simp [carryOut, settle_of_not_alters h, alteration_of_not_alters _ h, Store.locking, Store.note]

theorem ends_unchanged (h : ¬ c.Alters s.grants) :
    c.Ends s .unchanged (s.locking c.organization) := by
  have hverdict : c.verdict s = .unchanged := if_neg h
  refine ⟨hverdict.symm, ?_⟩
  rw [leave, hverdict, carryOut_of_not_alters h]
  exact .refl _

theorem ends_rejected {r : Rejection} (h : c.Alters s.grants) (hr : c.rejection? s = some r) :
    c.Ends s (.rejected r) (s.locking c.organization) := by
  have hverdict : c.verdict s = .rejected r := by rw [verdict, if_pos h, hr]
  refine ⟨hverdict.symm, ?_⟩
  rw [leave, hverdict]
  exact .refl _

theorem ends_applied (h : c.Alters s.grants) (hr : c.rejection? s = none) :
    c.Ends s .applied (c.carryOut s) := by
  have hverdict : c.verdict s = .applied := by rw [verdict, if_pos h, hr]
  refine ⟨hverdict.symm, ?_⟩
  rw [leave, hverdict]
  exact .refl _

/-- Unless it is rejected, a change is carried out. -/
theorem leave_of_ne_rejected (hr : ∀ r, c.verdict s ≠ .rejected r) : c.leave s = c.carryOut s := by
  cases hv : c.verdict s with
  | rejected r => exact absurd hv (hr r)
  | applied | unchanged => rw [leave, hv]

theorem leave_of_rejected {r : Rejection} (hr : c.verdict s = .rejected r) :
    c.leave s = s.locking c.organization := by
  rw [leave, hr]

variable {h : Holder} {ok : Outcome → Store → Prop} {err : Fault → Store → Prop}

/-- What comes of the change is said in the log before it is answered. -/
private theorem record_ends {outcome : Outcome} (e : Event) (hend : c.Ends s outcome t) :
    Work.Ensures Store.setting (do e.record; return outcome) t (c.Ends s) err := by
  rw [Work.ensures_bind, Work.ensures_setting_record]
  exact ⟨hend.1, hend.2.record e⟩

/-- The lock and the look at what the holder has, which begin every change. -/
private theorem ensures_look_iff {k : List Permission → Work Outcome} :
    Work.Ensures Store.setting (do
      Query.ask (.lockOrganization c.organization)
      let existing ← Query.ask (.selectPermissions c.organization h c.scope)
      k existing) s ok err ↔
      Work.Ensures Store.setting (k (s.permissionsOf c.organization h c.scope))
        (s.locking c.organization) ok err := by
  rw [Work.ensures_bind, Work.ensures_setting_query]
  exact (Work.ensures_bind _ _).trans Work.ensures_setting_query

private theorem contains_permission :
    (s.permissionsOf c.organization h c.scope).contains c.permission =
      decide (c.grantOf h ∈ s.grants) := by
  rw [List.contains_eq_mem]
  exact decide_eq_decide.mpr Store.mem_permissionsOf

/-- The count of those who are left, where the change asks for it. -/
private theorem ensures_leavesNobody_iff {user group : Option Int} {k : Bool → Work Outcome} :
    Work.Ensures Store.setting (c.leavesNobody user group >>= k) s ok err ↔
      Work.Ensures Store.setting (k (c.strips s user group)) s ok err := by
  unfold leavesNobody strips
  by_cases hadmin : c.isGlobalAdministration = true
  · have hempty (l : List Int) : ((l.length : Int) == 0) = l.isEmpty := by
      rw [Bool.eq_iff_iff, beq_iff_eq, List.isEmpty_iff, Int.natCast_eq_zero,
        List.length_eq_zero_iff]
    rw [if_pos hadmin, bind_assoc, Work.ensures_bind, Work.ensures_setting_query, hadmin,
      Bool.true_and, ← hempty]
    exact Iff.rfl
  · rw [if_neg hadmin, Bool.eq_false_iff.mpr hadmin, Bool.false_and]
    exact Iff.rfl

/-- The grant is added where it is not there yet. -/
private theorem insert_ends (e : Event) (hop : c.operation = .add) (hg : c.grant? = some g)
    (h : c.Alters s.grants) (hr : c.rejection? s = none) :
    Work.Ensures Store.setting (do
      Query.ask (.insertGrant g)
      e.record
      return Outcome.applied) (s.locking c.organization) (c.Ends s) err := by
  have hleft : c.carryOut s = ((s.locking c.organization).answer (.insertGrant g)).2 := by
    simp [carryOut, settle, alteration, hop, hg, h, Store.answer, Store.addGrant, Store.locking,
      Store.note]
  rw [Work.ensures_bind, Work.ensures_setting_query]
  exact record_ends e (hleft ▸ ends_applied h hr)

/-- The grant is dropped where it is there. -/
private theorem delete_ends (e : Event) (hop : c.operation = .remove) (hg : c.grant? = some g)
    (h : c.Alters s.grants) (hr : c.rejection? s = none) :
    Work.Ensures Store.setting (do
      Query.ask (.deleteGrant g)
      e.record
      return Outcome.applied) (s.locking c.organization) (c.Ends s) err := by
  have hleft : c.carryOut s = ((s.locking c.organization).answer (.deleteGrant g)).2 := by
    simp [carryOut, settle, alteration, hop, hg, h, Store.answer, Store.removeGrant, Store.locking,
      Store.note]
  rw [Work.ensures_bind, Work.ensures_setting_query]
  exact record_ends e (hleft ▸ ends_applied h hr)

/-- The grant is dropped unless nobody would be left. -/
private theorem guard_ends {user group : Option Int} {r : Rejection} (e e' : Event)
    (hop : c.operation = .remove) (hg : c.grant? = some g) (h : c.Alters s.grants)
    (hr : c.rejection? s = if c.strips s user group then some r else none) :
    Work.Ensures Store.setting (do
      if ← c.leavesNobody user group then
        e.record
        return .rejected r
      Query.ask (.deleteGrant g)
      e'.record
      return Outcome.applied) (s.locking c.organization) (c.Ends s) err := by
  have hsame : c.strips (s.locking c.organization) user group = c.strips s user group := rfl
  refine ensures_leavesNobody_iff.mpr ?_
  rw [hsame]
  cases hstrips : c.strips s user group with
  | true =>
    rw [hstrips, if_pos rfl] at hr
    exact record_ends _ (ends_rejected h hr)
  | false =>
    rw [hstrips, if_neg Bool.false_ne_true] at hr
    exact delete_ends _ hop hg h hr

private theorem applyToUser_ends {id : Int} {login : String} (htarget : c.target = .user id login)
    (hop : c.operation = .add ∨ c.operation = .remove) :
    Work.Ensures Store.setting (c.applyToUser id login) s (c.Ends s) fun _ _ => False := by
  have hg : c.grant? = some (c.grantOf (.user id login)) := by rw [grant?, htarget]; rfl
  have halters : c.Alters s.grants ↔
      ¬ (c.grantOf (.user id login) ∈ s.grants ↔ c.operation = .add) :=
    (Concerns.mk hop hg).alters_iff
  unfold applyToUser
  refine ensures_look_iff.mpr ?_
  by_cases hthere : c.grantOf (.user id login) ∈ s.grants
  · rw [contains_permission, decide_eq_true hthere]
    rcases hop with hop | hop
    · rw [hop]
      exact record_ends _ (ends_unchanged (by simp [halters, hthere, hop]))
    · rw [hop]
      have h : c.Alters s.grants := by simp [halters, hthere, hop]
      exact guard_ends _ _ hop hg h (by rw [rejection?, hop, htarget])
  · rw [contains_permission, decide_eq_false hthere]
    rcases hop with hop | hop
    · rw [hop]
      have hr : c.rejection? s = none := by rw [rejection?, hop, htarget]
      exact insert_ends _ hop hg (by simp [halters, hthere, hop]) hr
    · rw [hop]
      exact record_ends _ (ends_unchanged (by simp [halters, hthere, hop]))

private theorem applyToGroup_ends {holder : Holder} (htarget : c.target = .group holder)
    (hop : c.operation = .add ∨ c.operation = .remove) :
    Work.Ensures Store.setting (c.applyToGroup holder) s (c.Ends s) fun _ _ => False := by
  have hg : c.grant? = some (c.grantOf holder) := by rw [grant?, htarget]; rfl
  have halters : c.Alters s.grants ↔ ¬ (c.grantOf holder ∈ s.grants ↔ c.operation = .add) :=
    (Concerns.mk hop hg).alters_iff
  unfold applyToGroup
  refine ensures_look_iff.mpr ?_
  by_cases hthere : c.grantOf holder ∈ s.grants
  · rw [contains_permission, decide_eq_true hthere]
    rcases hop with hop | hop
    · rw [hop]
      exact ends_unchanged (by simp [halters, hthere, hop])
    · rw [hop]
      have h : c.Alters s.grants := by simp [halters, hthere, hop]
      cases holder with
      | group id =>
        exact guard_ends _ _ hop hg h (by rw [rejection?, hop, htarget])
      | user id login | anyone =>
        have hr : c.rejection? s = none := by rw [rejection?, hop, htarget]
        exact delete_ends _ hop hg h hr
  · rw [contains_permission, decide_eq_false hthere]
    rcases hop with hop | hop
    · rw [hop]
      have h : c.Alters s.grants := by simp [halters, hthere, hop]
      by_cases hanyone : (holder == .anyone && c.isGlobalAdministration) = true
      · have hr : c.rejection? s = some .anyoneAdministers := by
          rw [Bool.and_eq_true, beq_iff_eq] at hanyone
          rw [rejection?, hop, htarget, hanyone.1]
          exact if_pos hanyone.2
        dsimp only
        rw [if_neg Bool.false_ne_true, if_pos hanyone]
        exact ends_rejected h hr
      · have hr : c.rejection? s = none := by
          cases holder <;> simp_all [rejection?]
        dsimp only
        rw [if_neg Bool.false_ne_true, if_neg hanyone]
        exact insert_ends _ hop hg h hr
    · rw [hop]
      exact ends_unchanged (by simp [halters, hthere, hop])

/-- A change that is to add or to drop a grant comes to what is decided, and never fails. -/
theorem Concerns.apply_ends (hc : c.Concerns g) (s : Store) :
    Work.Ensures Store.setting c.apply s (c.Ends s) fun _ _ => False := by
  unfold apply
  cases htarget : c.target with
  | user id login => exact applyToUser_ends htarget hc.operation
  | group holder => exact applyToGroup_ends htarget hc.operation
  | nobody => exact absurd htarget hc.target_ne_nobody

/-- Only what is to add or to drop a grant can be applied. Anything else fails under the lock. -/
theorem apply_decides (c : Change) (s : Store) :
    Work.Ensures Store.setting c.apply s
      (fun outcome t => (∃ g, c.Concerns g) ∧ c.Ends s outcome t)
      fun _ t => ¬ (∃ g, c.Concerns g) ∧ (s.locking c.organization).SameButLog t := by
  by_cases hconcerns : ∃ g, c.Concerns g
  · obtain ⟨g, hc⟩ := hconcerns
    exact (hc.apply_ends s).mono (fun _ _ hend => ⟨⟨g, hc⟩, hend⟩) fun _ _ => False.elim
  · have hother {h : Holder} (hg : c.grant? = some (c.grantOf h)) :
        ∃ name, c.operation = .other name := by
      cases hop : c.operation with
      | add => exact absurd ⟨_, .inl hop, hg⟩ hconcerns
      | remove => exact absurd ⟨_, .inr hop, hg⟩ hconcerns
      | other name => exact ⟨name, rfl⟩
    unfold apply
    cases htarget : c.target with
    | user id login =>
      obtain ⟨name, hname⟩ := hother (h := .user id login) (by rw [grant?, htarget]; rfl)
      unfold applyToUser
      refine ensures_look_iff.mpr ?_
      rw [hname]
      exact ⟨hconcerns, .refl _⟩
    | group holder =>
      obtain ⟨name, hname⟩ := hother (h := holder) (by rw [grant?, htarget]; rfl)
      unfold applyToGroup
      refine ensures_look_iff.mpr ?_
      rw [hname]
      exact ⟨hconcerns, .refl _⟩
    | nobody =>
      dsimp only
      rw [Work.ensures_bind, Work.ensures_setting_query]
      exact ⟨hconcerns, .refl _⟩

/-- A change of a batch makes the batch fail where it cannot be applied or is rejected, and only
there. It has written nothing then. -/
theorem applyOrFail_decides (c : Change) (s : Store) :
    Work.Ensures Store.setting c.applyOrFail s
      (fun outcome t => (∃ g, c.Concerns g) ∧ c.Ends s outcome t ∧ ∀ r, outcome ≠ .rejected r)
      fun _ t => ((∃ g, c.Concerns g) → ∃ r, c.verdict s = .rejected r) ∧
        (t = s ∨ (s.locking c.organization).SameButLog t) := by
  unfold applyOrFail
  split
  next hnobody =>
    refine ⟨?_, .inl rfl⟩
    rintro ⟨g, hc⟩
    exact absurd hnobody hc.target_ne_nobody
  next =>
    rw [Work.ensures_bind]
    refine (c.apply_decides s).mono (fun outcome t hend => ?_)
      fun _ _ hend => ⟨fun h => absurd h hend.1, .inr hend.2⟩
    obtain ⟨hconcerns, houtcome, ht⟩ := hend
    cases outcome with
    | rejected r =>
      rw [leave_of_rejected houtcome.symm] at ht
      exact ⟨fun _ => ⟨r, houtcome.symm⟩, .inr ht⟩
    | applied | unchanged => exact ⟨hconcerns, ⟨houtcome, ht⟩, nofun⟩

/-- What the change comes to, as a run. -/
theorem Concerns.run_apply (hc : c.Concerns g) (s : Store) :
    ∃ t, s.run c.apply.run = (.ok (c.verdict s), t) ∧ (c.leave s).SameButLog t := by
  obtain ⟨outcome, t, hrun, rfl, ht⟩ := Work.run_of_ensures (hc.apply_ends s)
  exact ⟨t, hrun, ht⟩

end Change

end Entitlements
