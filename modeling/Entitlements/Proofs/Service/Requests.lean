import Entitlements.Apply
import Entitlements.Proofs.Program.Asks

/-!
# What changes ask for

A change locks, looks and counts before it writes, and all that it can write is its own grant: it
inserts the grant to add it, and deletes it to remove it. Everyone is never given the permission to
administer an organization. Work on changes never begins or ends a unit of work by itself.
-/

namespace Entitlements.Change

/-- What a change for a holder may ask for, whatever it is answered. -/
def MayRequest (c : Change) (h : Holder) : Request → Prop
  | .query (.insertGrant g) =>
    c.operation = .add ∧ g = c.grantOf h ∧ (h = .anyone → c.isGlobalAdministration = false)
  | .query (.deleteGrant g) => c.operation = .remove ∧ g = c.grantOf h
  | .query (.lockOrganization _) | .query (.selectPermissions ..)
  | .query (.countAdministrators ..) | .log _ => True
  | _ => False

variable {c : Change} {h : Holder}

/-- What came of a change is said in the log. -/
private theorem record_makesOnly (e : Event) (outcome : Outcome) :
    Work.MakesOnly (c.MayRequest h) (do e.record; return outcome) :=
  .bind (.record trivial) fun _ => .pure outcome

private theorem insert_makesOnly {e : Event} (hop : c.operation = .add)
    (hanyone : h = .anyone → c.isGlobalAdministration = false) :
    Work.MakesOnly (c.MayRequest h) (do
      Query.ask (.insertGrant (c.grantOf h))
      e.record
      return Outcome.applied) := by
  have hinsert : c.MayRequest h (.query (.insertGrant (c.grantOf h))) := ⟨hop, rfl, hanyone⟩
  exact .bind (.query hinsert) fun _ => record_makesOnly e _

private theorem delete_makesOnly {e : Event} (hop : c.operation = .remove) :
    Work.MakesOnly (c.MayRequest h) (do
      Query.ask (.deleteGrant (c.grantOf h))
      e.record
      return Outcome.applied) := by
  have hdelete : c.MayRequest h (.query (.deleteGrant (c.grantOf h))) := ⟨hop, rfl⟩
  exact .bind (.query hdelete) fun _ => record_makesOnly e _

private theorem leavesNobody_makesOnly (user group : Option Int) :
    Work.MakesOnly (c.MayRequest h) (c.leavesNobody user group) := by
  unfold leavesNobody
  split
  · exact .bind (.query trivial) fun _ => .pure _
  · exact .pure false

theorem applyToUser_makesOnly (id : Int) (login : String) :
    Work.MakesOnly (c.MayRequest (.user id login)) (c.applyToUser id login) := by
  unfold applyToUser
  refine .bind (.query trivial) fun _ => .bind (.query trivial) fun existing => ?_
  cases hop : c.operation with
  | other name => exact .throw _
  | add =>
    dsimp only
    by_cases hthere : existing.contains c.permission = true
    · rw [if_pos hthere]
      exact record_makesOnly _ _
    · rw [if_neg hthere]
      exact insert_makesOnly hop nofun
  | remove =>
    dsimp only
    by_cases hthere : existing.contains c.permission = true
    · rw [hthere]
      refine .bind (leavesNobody_makesOnly _ _) fun last => ?_
      cases last with
      | true => exact record_makesOnly _ _
      | false => exact delete_makesOnly hop
    · rw [Bool.not_eq_true] at hthere
      rw [hthere]
      exact record_makesOnly _ _

theorem applyToGroup_makesOnly : Work.MakesOnly (c.MayRequest h) (c.applyToGroup h) := by
  unfold applyToGroup
  refine .bind (.query trivial) fun _ => .bind (.query trivial) fun existing => ?_
  cases hop : c.operation with
  | other name => exact .throw _
  | add =>
    dsimp only
    by_cases hthere : existing.contains c.permission = true
    · rw [if_pos hthere]
      exact .pure _
    · rw [if_neg hthere]
      by_cases hanyone : (h == .anyone && c.isGlobalAdministration) = true
      · rw [if_pos hanyone]
        exact .pure _
      · rw [if_neg hanyone]
        refine insert_makesOnly hop ?_
        rintro rfl
        simpa using hanyone
  | remove =>
    dsimp only
    by_cases hthere : existing.contains c.permission = true
    · rw [hthere]
      cases h with
      | group id =>
        refine .bind (leavesNobody_makesOnly _ _) fun last => ?_
        cases last with
        | true => exact record_makesOnly _ _
        | false => exact delete_makesOnly hop
      | user id login => exact delete_makesOnly hop
      | anyone => exact delete_makesOnly hop
    · rw [Bool.not_eq_true] at hthere
      rw [hthere]
      exact .pure _

/-- A change asks for no more than it may, whatever it is answered. -/
theorem apply_makesOnly (hc : c.target.holder? = some h) :
    Work.MakesOnly (c.MayRequest h) c.apply := by
  unfold apply
  cases htarget : c.target with
  | nobody => simp [htarget, Target.holder?] at hc
  | user id login =>
    obtain rfl : Holder.user id login = h := by simpa [htarget, Target.holder?] using hc
    exact applyToUser_makesOnly id login
  | group holder =>
    obtain rfl : holder = h := by simpa [htarget, Target.holder?] using hc
    exact applyToGroup_makesOnly

/-- A change of a batch asks for what it may, and for nothing where it is for nobody. -/
theorem applyOrFail_makesOnly (c : Change) :
    Work.MakesOnly (fun r => ∃ h, c.target.holder? = some h ∧ c.MayRequest h r) c.applyOrFail := by
  unfold applyOrFail
  split
  next => exact .throw _
  next hsomebody =>
    obtain ⟨h, hc⟩ := Target.exists_holder_of_ne hsomebody
    refine .bind ((apply_makesOnly hc).mono fun r hr => ⟨h, hc, hr⟩) fun outcome => ?_
    cases outcome with
    | rejected r => exact .raise _
    | applied => exact .pure _
    | unchanged => exact .pure _

/-- A batch asks for what some change of it may ask for. -/
theorem applyAll_makesOnly (changes : List Change) :
    Work.MakesOnly (fun r => ∃ c ∈ changes, ∃ h, c.target.holder? = some h ∧ c.MayRequest h r)
      (applyAll changes) := by
  induction changes with
  | nil => exact .pure []
  | cons c rest ih =>
    refine .bind ((applyOrFail_makesOnly c).mono ?_) fun outcome => .bind (ih.mono ?_) fun _ =>
      .pure _
    · rintro r hr
      exact ⟨c, List.mem_cons_self, hr⟩
    · rintro r ⟨c', hc', hr⟩
      exact ⟨c', List.mem_cons_of_mem c hc', hr⟩

end Entitlements.Change
