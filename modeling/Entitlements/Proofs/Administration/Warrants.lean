import Entitlements.Proofs.Administration.Discipline
import Entitlements.Proofs.Sql.UnitOfWork

/-!
# What a write of a grant goes by

The queries of a unit of work are written down with their answers, in the order in which they are
made. A change writes one grant at most, as the last of its queries. The others lock the
organization, read what the holder has in the scope, and count who administers the organization
where the write could take that from somebody; the write is made only where their answers warrant
it.
-/

namespace Entitlements

variable {α β : Type}

/-- A query that was made, and how it was answered. -/
structure Asked where
  /-- The query. -/
  query : Query
  /-- The answer. -/
  answer : Except Fault query.Answer

/-- Within a unit of work all queries are written down with their answers. -/
def Setting.recording : Setting (List Asked) where
  permits _ r := r.IsWithin
  answers
    | asked, .query q, a, asked' => asked' = asked ++ [⟨q, a⟩]
    | asked, _, _, asked' => asked' = asked

/-- The queries so far, by their answers, warrant a write of a grant. -/
inductive Warrants : List Asked → Query → Prop
  /-- A grant is added that was not there. -/
  | insert {g : Grant} {existing : List Permission} (absent : g.permission ∉ existing) :
    Warrants
      [⟨.lockOrganization g.organization, .ok ()⟩,
        ⟨.selectPermissions g.organization g.holder g.scope, .ok existing⟩]
      (.insertGrant g)
  /-- A grant is dropped that was there and makes nobody administer the organization. -/
  | delete {g : Grant} {existing : List Permission} (present : g.permission ∈ existing)
      (ordinary : ¬ g.MakesAdministrators) :
    Warrants
      [⟨.lockOrganization g.organization, .ok ()⟩,
        ⟨.selectPermissions g.organization g.holder g.scope, .ok existing⟩]
      (.deleteGrant g)
  /-- A grant is dropped that was there, and others administer the organization without it. -/
  | deleteCounted {g : Grant} {existing : List Permission} {others : Int}
      (present : g.permission ∈ existing) (administers : g.MakesAdministrators)
      (remaining : others ≠ 0) :
    Warrants
      [⟨.lockOrganization g.organization, .ok ()⟩,
        ⟨.selectPermissions g.organization g.holder g.scope, .ok existing⟩,
        ⟨.countAdministrators g.organization g.permission (Sql.holderUser g.holder)
          (Sql.holderGroup g.holder), .ok others⟩]
      (.deleteGrant g)

/-- Nothing that was asked writes grants. -/
def AskedSparing (asked : List Asked) : Prop := ∀ a ∈ asked, a.query.SparesGrants

theorem Warrants.sparing {asked : List Asked} {q : Query} (h : Warrants asked q) :
    AskedSparing asked := by
  cases h <;> simp [AskedSparing, Query.SparesGrants]

/-- Grants are not written, or by the last query only, as the others warrant. -/
inductive WritesLast : List Asked → Prop
  | never {asked : List Asked} (h : AskedSparing asked) : WritesLast asked
  | last {asked : List Asked} {q : Query} (h : Warrants asked q) (a : Except Fault q.Answer) :
    WritesLast (asked ++ [⟨q, a⟩])

namespace Work

/-- After what was asked before, the work writes one grant at most, and that last. -/
def Records (asked : List Asked) (w : Work α) : Prop :=
  Ensures .recording w asked (fun _ => WritesLast) fun _ => WritesLast

variable {asked : List Asked}

theorem Records.pure (h : WritesLast asked) (a : α) : Records asked (pure a) := h

theorem Records.throw (h : WritesLast asked) (f : Fault) :
    Records asked (throw f : Work α) := h

theorem Records.raise (h : WritesLast asked) (r : Refusal) :
    Records asked (r.raise : Work α) := h

theorem Records.bind {w : Work α} {k : α → Work β} (hw : Records asked w)
    (hk : ∀ a asked', WritesLast asked' → Records asked' (k a)) : Records asked (w >>= k) := by
  unfold Records
  rw [ensures_bind]
  exact Ensures.mono hw hk fun _ _ h => h

/-- A query and its answer are written down before what follows. -/
theorem Records.bind_query {q : Query} {k : q.Answer → Work α}
    (hfault : ∀ f, WritesLast (asked ++ [⟨q, .error f⟩]))
    (hk : ∀ a, Records (asked ++ [⟨q, .ok a⟩]) (k a)) : Records asked (Query.ask q >>= k) := by
  unfold Records
  rw [ensures_bind, ensures_query]
  refine ⟨trivial, ?_⟩
  rintro (f | a) asked' rfl
  · exact hfault f
  · exact hk a

/-- Events are not written down here. -/
theorem Records.record_pure (h : WritesLast asked) (e : Event) (a : α) :
    Records asked (do e.record; return a) := by
  unfold Records
  rw [ensures_bind, ensures_record]
  refine ⟨trivial, ?_⟩
  rintro _ asked' rfl
  exact h

/-- A write that is warranted may be made, whatever is answered. -/
theorem Records.write {q : Query} (h : Warrants asked q) (e : Event) (a : α) :
    Records asked (Query.ask q >>= fun _ => do e.record; return a) :=
  .bind_query (fun _ => .last h _) fun _ => .record_pure (.last h _) e a

end Work

namespace Change

variable {c : Change} {existing : List Permission}

/-- What a change asks before it decides on what to write. -/
def looked (c : Change) (holder : Holder) (existing : List Permission) : List Asked :=
  [⟨.lockOrganization c.organization, .ok ()⟩,
    ⟨.selectPermissions c.organization holder c.scope, .ok existing⟩]

theorem looked_sparing (holder : Holder) : AskedSparing (c.looked holder existing) := by
  simp [AskedSparing, looked, Query.SparesGrants]

theorem warrants_insert (holder : Holder) (h : c.permission ∉ existing) :
    Warrants (c.looked holder existing) (.insertGrant (c.grantOf holder)) :=
  .insert (g := c.grantOf holder) h

theorem warrants_delete (holder : Holder) (h : c.permission ∈ existing)
    (hordinary : ¬ (c.grantOf holder).MakesAdministrators) :
    Warrants (c.looked holder existing) (.deleteGrant (c.grantOf holder)) :=
  .delete (g := c.grantOf holder) h hordinary

/-- A change looks first, and goes on only where looking does not fail. -/
theorem records_looking {holder : Holder} {k : List Permission → Work α}
    (hk : ∀ existing, Work.Records (c.looked holder existing) (k existing)) :
    Work.Records [] (do
      Query.ask (.lockOrganization c.organization)
      let existing ← Query.ask (.selectPermissions c.organization holder c.scope)
      k existing) := by
  refine .bind_query (fun f => .never ?_) fun _ => .bind_query (fun f => .never ?_) hk
  · simp [AskedSparing, Query.SparesGrants]
  · simp [AskedSparing, Query.SparesGrants]

/-- The grant of a change makes somebody administer the organization exactly if the change is
careful about it and is not for everyone. -/
theorem makesAdministrators_grantOf_iff (holder : Holder) :
    (c.grantOf holder).MakesAdministrators ↔
      c.isGlobalAdministration = true ∧ holder ≠ .anyone := by
  constructor
  · intro h
    exact ⟨isGlobalAdministration_of_makesAdministrators h, h.2.2⟩
  · rintro ⟨h, hne⟩
    obtain ⟨hglobal, hpermission⟩ : c.project = none ∧ c.permission = Permission.administer := by
      simpa [isGlobalAdministration, isGlobal] using h
    exact ⟨hpermission, (project?_scope c).trans hglobal, hne⟩

/-- Dropping a grant is warranted where somebody is left to administer the organization. -/
theorem bind_leavesNobody_records (holder : Holder) (hne : holder ≠ .anyone)
    (hthere : c.permission ∈ existing) {k : Bool → Work α}
    (htrue : ∀ asked, AskedSparing asked → Work.Records asked (k true))
    (hfalse : ∀ asked, Warrants asked (.deleteGrant (c.grantOf holder)) →
      Work.Records asked (k false)) :
    Work.Records (c.looked holder existing)
      (c.leavesNobody (Sql.holderUser holder) (Sql.holderGroup holder) >>= k) := by
  have hsparing : AskedSparing (c.looked holder existing) := looked_sparing holder
  unfold leavesNobody
  by_cases hcareful : c.isGlobalAdministration = true
  · have hadministers := (makesAdministrators_grantOf_iff holder).mpr ⟨hcareful, hne⟩
    have hpermission : c.permission = Permission.administer := hadministers.1
    have hcounted (a : Except Fault Int) : AskedSparing (c.looked holder existing ++
        [⟨.countAdministrators c.organization Permission.administer (Sql.holderUser holder)
          (Sql.holderGroup holder), a⟩]) := by
      simp [AskedSparing, looked, Query.SparesGrants]
    rw [if_pos hcareful, bind_assoc]
    refine .bind_query (fun f => .never (hcounted _)) fun others => ?_
    by_cases hnobody : others = 0
    · rw [pure_bind, beq_iff_eq.mpr hnobody]
      exact htrue _ (hcounted _)
    · rw [pure_bind, beq_eq_false_iff_ne.mpr hnobody]
      refine hfalse _ ?_
      rw [← hpermission]
      exact .deleteCounted hthere hadministers hnobody
  · rw [if_neg hcareful, pure_bind]
    have hordinary : ¬ (c.grantOf holder).MakesAdministrators := fun h =>
      hcareful ((makesAdministrators_grantOf_iff holder).mp h).1
    exact hfalse _ (warrants_delete holder hthere hordinary)

theorem applyToUser_records (c : Change) (id : Int) (login : String) :
    Work.Records [] (c.applyToUser id login) := by
  unfold applyToUser
  refine records_looking fun existing => ?_
  have hsparing : AskedSparing (c.looked (.user id login) existing) := looked_sparing _
  cases c.operation with
  | other name => exact .throw (.never hsparing) _
  | add =>
    dsimp only
    by_cases hthere : c.permission ∈ existing
    · rw [if_pos (List.contains_iff_mem.mpr hthere)]
      exact .record_pure (.never hsparing) _ _
    · rw [if_neg (mt List.contains_iff_mem.mp hthere)]
      exact .write (warrants_insert _ hthere) _ _
  | remove =>
    dsimp only
    by_cases hthere : c.permission ∈ existing
    · rw [List.contains_iff_mem.mpr hthere]
      refine bind_leavesNobody_records (.user id login) nofun hthere (fun asked hasked => ?_)
        fun asked hasked => ?_
      · exact .record_pure (.never hasked) _ _
      · exact .write hasked _ _
    · rw [Bool.eq_false_iff.mpr (mt List.contains_iff_mem.mp hthere)]
      exact .record_pure (.never hsparing) _ _

theorem applyToGroup_records (c : Change) {holder : Holder}
    (hgroup : ∀ id login, holder ≠ .user id login) : Work.Records [] (c.applyToGroup holder) := by
  unfold applyToGroup
  refine records_looking fun existing => ?_
  have hsparing : AskedSparing (c.looked holder existing) := looked_sparing _
  cases c.operation with
  | other name => exact .throw (.never hsparing) _
  | add =>
    dsimp only
    by_cases hthere : c.permission ∈ existing
    · rw [if_pos (List.contains_iff_mem.mpr hthere)]
      exact .pure (.never hsparing) _
    · rw [if_neg (mt List.contains_iff_mem.mp hthere)]
      split
      · exact .pure (.never hsparing) _
      · exact .write (warrants_insert holder hthere) _ _
  | remove =>
    dsimp only
    by_cases hthere : c.permission ∈ existing
    · rw [List.contains_iff_mem.mpr hthere]
      cases holder with
      | user id login => exact absurd rfl (hgroup id login)
      | anyone =>
        -- What everyone holds makes nobody administer anything, so nobody is counted.
        exact .write (warrants_delete .anyone hthere fun h => h.2.2 rfl) _ _
      | group id =>
        refine bind_leavesNobody_records (.group id) nofun hthere (fun asked hasked => ?_)
          fun asked hasked => ?_
        · exact .record_pure (.never hasked) _ _
        · exact .write hasked _ _
    · rw [Bool.eq_false_iff.mpr (mt List.contains_iff_mem.mp hthere)]
      exact .pure (.never hsparing) _

theorem apply_records {c : Change} (hc : c.WellFormed) : Work.Records [] c.apply := by
  unfold apply
  cases htarget : c.target with
  | user id login => exact applyToUser_records c id login
  | group holder =>
    refine applyToGroup_records c fun id login h => hc id login ?_
    rw [htarget, h]
  | nobody =>
    have hlock (a : Except Fault Unit) :
        AskedSparing [⟨.lockOrganization c.organization, a⟩] := by
      simp [AskedSparing, Query.SparesGrants]
    exact .bind_query (fun _ => .never (hlock _)) fun _ => .throw (.never (hlock _)) _

/-- A batch of a single change writes one grant at most, as the last that it asks for. -/
theorem applyAll_singleton_records {c : Change} (hc : c.WellFormed) :
    Work.Records [] (applyAll [c]) := by
  have hnothing : AskedSparing [] := by simp [AskedSparing]
  have hone : Work.Records [] c.applyOrFail := by
    unfold applyOrFail
    split
    next => exact .throw (.never hnothing) _
    next =>
      refine (apply_records hc).bind fun outcome asked hasked => ?_
      cases outcome with
      | rejected r => exact .raise hasked _
      | applied | unchanged => exact .pure hasked _
  refine hone.bind fun outcome asked hasked => ?_
  exact .bind (.pure hasked []) fun _ _ h => .pure h _

end Change

end Entitlements
