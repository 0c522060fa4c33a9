import Entitlements.Proofs.Service.Hosting
import Entitlements.Proofs.Service.Requests
import Entitlements.Proofs.Sql.UnitOfWork

/-!
# Units of work that are open

The permissions of a caller are read in a unit of work of their own. A command that checks them
before it begins its unit of work has one unit open at a time; one that checks them within its unit
has two. In the end every unit is closed, also where something fails.
-/

namespace Entitlements

variable {α : Type} {limit n : Nat}

/-- Units of work that are open are counted, and there may never be more of them than the limit. -/
def Setting.units (limit : Nat) : Setting Nat where
  permits
    | n, .begin => n < limit
    | _, _ => True
  answers
    | n, .begin, _, m => m = n + 1
    | n, .complete, _, m => m = n - 1
    | n, .abandon _, _, m => m = n - 1
    | n, _, _, m => m = n

/-- What is asked within a unit of work neither opens one nor closes one. -/
theorem Setting.units_allows_of_isWithin {r : Request} (hr : r.IsWithin) :
    (units limit).Allows (· = n) r := by
  rintro _ rfl
  cases r with
  | begin | complete | abandon | probe => exact hr.elim
  | query | log | now | freshUuid | introspect => exact ⟨trivial, fun _ _ h => h⟩

theorem Request.Reads.isWithin {r : Request} (hr : r.Reads) : r.IsWithin := by
  cases r with
  | query q => trivial
  | _ => exact hr.elim

theorem Request.Inquires.isWithin {r : Request} (hr : r.Inquires) : r.IsWithin := by
  cases r with
  | begin | complete | abandon | probe => exact hr.elim
  | query | log | now | freshUuid | introspect => trivial

/-- As many units of work are hosted as the limit leaves. -/
theorem Setting.units_hosts {depth : Nat} (h : n + depth ≤ limit) :
    (units limit).Hosts depth (· = n) := by
  induction depth generalizing n with
  | zero => exact fun _ hr => units_allows_of_isWithin hr.isWithin
  | succ depth ih =>
    refine ⟨fun _ hr => units_allows_of_isWithin hr.isWithin, ?_⟩
    rintro n rfl
    refine ⟨show n < limit by omega, ?_⟩
    rintro _ _ rfl
    refine ⟨(· = n + 1), rfl, ih (by omega), ?_, fun f => ?_⟩
    · rintro _ rfl
      exact ⟨trivial, fun _ _ h => h⟩
    · rintro _ rfl
      exact ⟨trivial, fun _ _ h => h⟩

/-- One more unit of work is hosted below the limit. -/
theorem Setting.units_hosts_one (h : n < limit) : (units limit).Hosts 1 (· = n) := units_hosts h

/-- What a change may ask for is asked within a unit of work. -/
theorem Change.MayRequest.isWithin {c : Change} {h : Holder} {r : Request}
    (hr : c.MayRequest h r) : r.IsWithin := by
  cases r with
  | begin | complete | abandon | probe => exact hr.elim
  | query | log | now | freshUuid | introspect => trivial

namespace Work

/-- Work within a unit of work opens no other one. -/
theorem MakesOnly.preserves_units {w : Work α} (h : MakesOnly Request.IsWithin w) :
    Preserves (.units limit) (· = n) w := h.preserves fun _ => Setting.units_allows_of_isWithin

/-- What only reads is within a unit of work. -/
theorem MakesOnly.within {w : Work α} (h : MakesOnly Request.Reads w) :
    MakesOnly Request.IsWithin w := h.mono fun _ => Request.Reads.isWithin

/-- A unit of work is one more than there are within it. -/
theorem Preserves.transaction_units {w : Work α} (hn : n < limit)
    (hw : Preserves (.units limit) (· = n + 1) w) :
    Preserves (.units limit) (· = n) (transaction w) := by
  rintro n rfl
  rw [ensures_transaction]
  refine ⟨hn, fun _ m hm => ?_⟩
  have hclose (k : Nat) (hk : k = n + 1) (m : Nat) (hm : m = k - 1) : m = n := by omega
  refine (hw m hm).mono (fun a k hk => ⟨trivial, fun c m hm => ?_⟩)
    fun f k hk => ⟨trivial, fun _ m hm => hclose k hk m hm⟩
  cases c <;> exact hclose k hk m hm

end Work

namespace Acting

/-- A unit of work is one more than there are within it. -/
theorem Preserves.transaction_units {a : Acting α} (hn : n < limit)
    (ha : Preserves (.units limit) (· = n + 1) a) :
    Preserves (.units limit) (· = n) (transaction a) := by
  rintro σ n rfl
  rw [ensures_transaction]
  refine ⟨hn, fun _ m hm => ?_⟩
  have hclose (k : Nat) (hk : k = n + 1) (m : Nat) (hm : m = k - 1) : m = n := by omega
  refine (ha σ m hm).mono (fun a τ k hk => ⟨trivial, fun c m hm => ?_⟩)
    fun f τ k hk => ⟨trivial, fun _ m hm => hclose k hk m hm⟩
  cases c <;> exact hclose k hk m hm

theorem Preserves.query_units (q : Query) :
    Preserves (.units limit) (· = n) (Query.ask q : Acting q.Answer) :=
  .query (Setting.units_allows_of_isWithin trivial)

theorem Preserves.record_units (e : Event) : Preserves (.units limit) (· = n) e.record :=
  .record (Setting.units_allows_of_isWithin trivial)

end Acting

namespace Change

theorem applyOrFail_isWithin (c : Change) :
    Work.MakesOnly Request.IsWithin c.applyOrFail := by
  refine (applyOrFail_makesOnly c).mono ?_
  rintro r ⟨h, -, hr⟩
  exact hr.isWithin

theorem applyAll_isWithin (changes : List Change) :
    Work.MakesOnly Request.IsWithin (applyAll changes) := by
  refine (applyAll_makesOnly changes).mono ?_
  rintro r ⟨c, -, h, -, hr⟩
  exact hr.isWithin

/-- A batch is checked before its unit of work begins. -/
theorem applyBatch_preserves_units (hn : n < limit) (changes : List Change) :
    Acting.Preserves (.units limit) (· = n) (applyBatch changes) :=
  .bind (checkAll_hosted (Setting.units_hosts_one hn) changes) fun _ =>
    .lift (.transaction_units hn (applyAll_isWithin changes).preserves_units)

end Change

namespace Service

theorem applyOne_preserves_units (hn : n < limit) (c : Change) :
    Acting.Preserves (.units limit) (· = n) (applyOne c) := by
  refine .bind (Change.applyBatch_preserves_units hn [c]) fun outcomes => ?_
  cases outcomes <;> exact .pure _

theorem changeUserPermission_preserves_units (hn : n < limit) (operation : Operation)
    (login : String) (permission : Permission)
    (projectId? projectKey? organizationKey? : Option String) :
    Acting.Preserves (.units limit) (· = n)
      (changeUserPermission operation login permission projectId? projectKey?
        organizationKey?) := by
  refine .bind (.lift (.transaction_units hn (Work.MakesOnly.within ?_).preserves_units)) fun _ =>
    .bind (.orRaise _) fun _ => applyOne_preserves_units hn _
  refine .bind (Lookup.user_makesOnly _) fun _ => .bind (Lookup.project?_makesOnly _ _)
    fun project? => ?_
  cases project? with
  | some project => exact .pure _
  | none => exact .bind (Lookup.organization_makesOnly _) fun _ => .pure _

theorem changeGroupPermission_preserves_units (hn : n < limit) (operation : Operation)
    (permission : Permission) (groupId? : Option Int)
    (groupName? projectId? projectKey? organizationKey? : Option String) :
    Acting.Preserves (.units limit) (· = n)
      (changeGroupPermission operation permission groupId? groupName? projectId? projectKey?
        organizationKey?) := by
  refine .bind (.lift (.transaction_units hn (Work.MakesOnly.within ?_).preserves_units)) fun _ =>
    .bind (.orRaise _) fun _ => .bind (.orRaise _) fun _ => applyOne_preserves_units hn _
  exact .bind (Lookup.group_makesOnly _ _ _) fun _ => .bind (Lookup.project?_makesOnly _ _) fun _ =>
    .pure _

theorem unsetRoot_preserves_units (hn : n < limit) (login? : Option String) :
    Acting.Preserves (.units limit) (· = n) (unsetRoot login?) := by
  refine .bind (.bind .get fun _ => .require _ _) fun _ => ?_
  cases given? login? with
  | none => exact .raise _
  | some login =>
    refine .bind (.transaction_units hn (.query_units _)) fun changed => ?_
    cases changed with
    | true => exact .bind .get fun _ => .bind (.record_units _) fun _ => .pure _
    | false => exact .pure _

/-- Whether the organization is administered is checked within the unit of work, which makes two. -/
theorem createTemplate_preserves_units (hn : n + 1 < limit)
    (name description? keyPattern? organizationKey? : Option String) :
    Acting.Preserves (.units limit) (· = n)
      (createTemplate name description? keyPattern? organizationKey?) := by
  refine .bind Session.checkSignedIn_preserves fun _ =>
    .bind (.transaction_units (by omega) ?_)
    fun _ => .bind (.record_units _) fun _ => .pure _
  refine .bind (.lift (Lookup.organization_makesOnly _).within.preserves_units) fun o =>
    .bind (Session.checkAdministers_hosted (Setting.units_hosts_one hn) _) fun _ => ?_
  dsimp only
  split
  · exact .raise_bind _ _
  · refine .bind (.liftExcept _) fun _ => .bind (.query_units _) fun found => ?_
    split
    · exact .raise_bind _ _
    · have hwithin (r : Request) (hr : r.IsWithin) :
          Acting.Preserves (.units limit) (· = n + 1) r.ask :=
        .ask (Setting.units_allows_of_isWithin hr)
      exact .bind (hwithin .now trivial) fun _ => .bind (hwithin .freshUuid trivial) fun _ =>
        .bind (.query_units _) fun _ => .pure _

theorem removeUserFromTemplate_preserves_units (hn : n + 1 < limit) (login : String)
    (permission : Permission) (templateId? templateName? organizationKey? : Option String) :
    Acting.Preserves (.units limit) (· = n)
      (removeUserFromTemplate login permission templateId? templateName? organizationKey?) := by
  refine .bind Session.checkSignedIn_preserves fun _ => .bind (.orRaise _) fun _ =>
    .bind (.transaction_units (by omega) ?_) fun _ => .record_units _
  exact .bind (.lift (Lookup.template_makesOnly _ _ _).within.preserves_units) fun _ =>
    .bind (Session.checkAdministers_hosted (Setting.units_hosts_one hn) _) fun _ =>
    .bind (.lift (Lookup.user_makesOnly _).within.preserves_units) fun _ =>
    .bind (.query_units _) fun _ => .pure _

theorem addUserToGroup_preserves_units (hn : n + 1 < limit) (login : String)
    (groupId? : Option Int) (groupName? organizationKey? : Option String) :
    Acting.Preserves (.units limit) (· = n)
      (addUserToGroup login groupId? groupName? organizationKey?) := by
  refine .bind Session.checkSignedIn_preserves fun _ =>
    .bind (.transaction_units (by omega) ?_)
    fun joined? => ?_
  · refine .bind (.lift (Lookup.group_makesOnly _ _ _).within.preserves_units) fun (o, group?) =>
      .bind (Session.checkAdministers_hosted (Setting.units_hosts_one hn) _) fun _ => ?_
    cases group? with
    | none => exact .raise _
    | some group =>
      refine .bind (.lift (Lookup.user_makesOnly _).within.preserves_units) fun _ =>
        .bind (.query_units _) fun there => ?_
      cases there with
      | true => exact .pure _
      | false => exact .bind (.query_units _) fun _ => .pure _
  · cases joined? with
    | none => exact .pure _
    | some joined => exact .bind (.record_units _) fun _ => .pure _

namespace Command

/-- The command checks permissions within its unit of work. -/
def ChecksWithinUnit : Command → Prop
  | .createTemplate .. | .removeUserFromTemplate .. | .templateGroups ..
  | .addUserToGroup .. => True
  | _ => False

/-- The units of work that a command needs to have open at a time. -/
theorem run_preserves_units (c : Command) (hn : n < limit)
    (hwithin : c.ChecksWithinUnit → n + 1 < limit) :
    Acting.Preserves (.units limit) (· = n) c.run := by
  cases c with
  | changeUserPermission => exact .map _ (changeUserPermission_preserves_units hn _ _ _ _ _ _)
  | changeGroupPermission => exact .map _ (changeGroupPermission_preserves_units hn _ _ _ _ _ _ _)
  | createTemplate =>
    exact .map _ (createTemplate_preserves_units (hwithin trivial) _ _ _ _)
  | removeUserFromTemplate =>
    exact .bind (removeUserFromTemplate_preserves_units (hwithin trivial) _ _ _ _ _) fun _ =>
      .pure _
  | templateGroups =>
    exact .map _ (templateGroups_hosted (Setting.units_hosts (hwithin trivial)) _ _ _ _ _ _)
  | addUserToGroup =>
    exact .map _ (addUserToGroup_preserves_units (hwithin trivial) _ _ _ _)
  | searchGroups => exact .map _ (searchGroups_hosted (Setting.units_hosts_one hn) _ _ _)
  | searchMyProjects => exact .map _ (searchMyProjects_hosted (Setting.units_hosts_one hn) _ _)
  | unsetRoot => exact .map _ (unsetRoot_preserves_units hn _)

end Command

end Service

end Entitlements
