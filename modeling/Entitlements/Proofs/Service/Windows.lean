import Entitlements.Proofs.Service.Reads
import Entitlements.Proofs.Service.Requests

/-!
# Windows of searches

A search asks the store for a window of its rows: it skips some rows and takes some of the next.
Only commands that list something do so, and they ask for the window of the page that they were
given, after it was found to be one that a listing can have. Such a page has rows, not more than a
listing shows at once, and skips those of the pages before it. How many these are is bounded by the
number of the page only.
-/

namespace Entitlements

/-- The page that a command lists. -/
def Service.Command.page? : Command → Option Page
  | .templateGroups _ _ _ _ page _ | .searchGroups _ page _ | .searchMyProjects _ page => some page
  | _ => none

/-- A search takes the rows of the page, which is one that a listing can have. -/
def Query.Turns (page? : Option Page) (q : Query) : Prop :=
  ∀ w, q.window? = some w →
    ∃ p, page? = some p ∧ p.validate = .ok () ∧ w = (p.offset, p.size)

theorem Query.turns_of_window? {q : Query} (h : q.window? = none) (page? : Option Page) :
    q.Turns page? := by
  intro w hw
  exact nomatch h.symm.trans hw

namespace Page

variable {p : Page}

theorem validate_eq_ok_iff :
    p.validate = .ok () ↔ 1 ≤ p.index ∧ 1 ≤ p.size ∧ p.size ≤ maxPageSize := by
  unfold validate
  split
  next h => exact iff_of_false nofun (by omega)
  next h =>
    split
    next h' => exact iff_of_false nofun (by omega)
    next h' => exact iff_of_true rfl (by omega)

/-- A page skips a number of rows within a bound if there are not too many pages before it. -/
theorem offset_le_iff (h : p.validate = .ok ()) (bound : Int) :
    p.offset ≤ bound ↔ p.index ≤ bound / p.size + 1 := by
  obtain ⟨-, hsize, -⟩ := validate_eq_ok_iff.mp h
  rw [offset, ← Int.le_ediv_iff_mul_le (by omega)]
  omega

theorem offset_nonneg (h : p.validate = .ok ()) : 0 ≤ p.offset := by
  obtain ⟨hindex, hsize, -⟩ := validate_eq_ok_iff.mp h
  exact Int.mul_nonneg (by omega) (by omega)

end Page

namespace Service

section

variable {P : Query → Prop} (hP : ∀ q : Query, q.window? = none → P q)
include hP

private theorem looks_unpaged {q : Query} (hq : q.Looks) : P q := hP q hq.window?

private theorem load_unpaged : Acting.AsksOnly P Session.load :=
  Session.load_asksOnly (hP _ rfl) fun _ => hP _ rfl

/-- Applying changes takes no rows of a search. -/
theorem applyOne_unpaged (c : Change) : Acting.AsksOnly P (applyOne c) := by
  have hall : Work.AsksOnly P (Change.applyAll [c]) := by
    refine (Change.applyAll_makesOnly [c]).asksOnly ?_
    rintro q ⟨c, -, h, -, hq⟩
    cases q with
    | searchProjects | searchGroups | searchTemplateGroups => exact hq.elim
    | _ => exact hP _ rfl
  have hbatch : Acting.AsksOnly P (Change.applyBatch [c]) :=
    .bind (Change.checkAll_asksOnly (load_unpaged hP) [c]) fun _ => .lift (.transaction hall)
  refine .bind hbatch fun outcomes => ?_
  cases outcomes <;> exact .pure _

theorem changeUserPermission_unpaged (operation : Operation) (login : String)
    (permission : Permission) (projectId? projectKey? organizationKey? : Option String) :
    Acting.AsksOnly P (changeUserPermission operation login permission projectId? projectKey?
      organizationKey?) := by
  have hlooks := fun q => looks_unpaged hP (q := q)
  refine .bind (.lift (.transaction ?_)) fun _ => .bind (.orRaise _) fun _ =>
    applyOne_unpaged hP _
  refine .bind (Lookup.user_asksOnly hlooks _) fun _ =>
    .bind (Lookup.project?_asksOnly hlooks _ _) fun project? => ?_
  cases project? with
  | some project => exact .pure _
  | none => exact .bind (Lookup.organization_asksOnly hlooks _) fun _ => .pure _

theorem changeGroupPermission_unpaged (operation : Operation) (permission : Permission)
    (groupId? : Option Int) (groupName? projectId? projectKey? organizationKey? : Option String) :
    Acting.AsksOnly P (changeGroupPermission operation permission groupId? groupName? projectId?
      projectKey? organizationKey?) := by
  have hlooks := fun q => looks_unpaged hP (q := q)
  refine .bind (.lift (.transaction ?_)) fun _ => .bind (.orRaise _) fun _ =>
    .bind (.orRaise _) fun _ => applyOne_unpaged hP _
  exact .bind (Lookup.group_asksOnly hlooks _ _ _) fun _ =>
    .bind (Lookup.project?_asksOnly hlooks _ _) fun _ => .pure _

/-- A command that lists nothing takes no rows of a search. -/
theorem Command.run_unpaged {c : Command} (hc : c.page? = none) : Acting.AsksOnly P c.run := by
  have hlooks := fun q => looks_unpaged hP (q := q)
  have hload := load_unpaged hP
  cases c with
  | changeUserPermission => exact .map _ (changeUserPermission_unpaged hP _ _ _ _ _ _)
  | changeGroupPermission => exact .map _ (changeGroupPermission_unpaged hP _ _ _ _ _ _ _)
  | createTemplate =>
    exact .map _ (createTemplate_asksOnly hlooks hload (fun _ => hP _ rfl) _ _ _ _)
  | removeUserFromTemplate =>
    exact .bind (removeUserFromTemplate_asksOnly hlooks hload (fun _ _ _ => hP _ rfl) _ _ _ _ _)
      fun _ => .pure _
  | addUserToGroup =>
    exact .map _ (addUserToGroup_asksOnly hlooks hload (fun _ _ => hP _ rfl)
      (fun _ _ => hP _ rfl) _ _ _ _)
  | unsetRoot => exact .map _ (unsetRoot_asksOnly (fun _ _ => hP _ rfl) _)
  | templateGroups | searchGroups | searchMyProjects => exact nomatch hc

end

variable {page : Page}

private theorem turns_of_looks {q : Query} (hq : q.Looks) : q.Turns (some page) :=
  Query.turns_of_window? hq.window? _

/-- A search for the rows of the page, once it is found to be one. -/
private theorem turns_of_validate {q : Query} (hvalid : page.validate = .ok ())
    (hq : q.window? = some (page.offset, page.size)) : q.Turns (some page) := by
  intro w hw
  exact ⟨page, rfl, hvalid, (Option.some.inj (hq.symm.trans hw)).symm⟩

theorem searchGroups_turns (query? : Option String) (page : Page)
    (organizationKey? : Option String) :
    Acting.AsksOnly (Query.Turns (some page)) (searchGroups query? page organizationKey?) := by
  refine .bind Session.checkSignedIn_asksOnly fun _ => .orRaise_bind fun _ hvalid =>
    .transaction ?_
  exact .bind (.lift (Lookup.organization_asksOnly (fun _ => turns_of_looks) _)) fun _ =>
    .bind (.query (Query.turns_of_window? rfl _)) fun _ =>
    .bind (.query (turns_of_validate hvalid rfl)) fun _ => .pure _

theorem searchMyProjects_turns (query? : Option String) (page : Page) :
    Acting.AsksOnly (Query.Turns (some page)) (searchMyProjects query? page) := by
  refine .bind Session.signedIn_asksOnly fun _ => .orRaise_bind fun _ hvalid =>
    .bind (.orRaise _) fun _ => .transaction ?_
  exact .bind (.query (Query.turns_of_window? rfl _)) fun _ =>
    .bind (.query (turns_of_validate hvalid rfl)) fun _ => .pure _

theorem templateGroups_turns (templateId? templateName? permission? query? : Option String)
    (page : Page) (organizationKey? : Option String) :
    Acting.AsksOnly (Query.Turns (some page))
      (templateGroups templateId? templateName? permission? query? page organizationKey?) := by
  have hload : Acting.AsksOnly (Query.Turns (some page)) Session.load :=
    Session.load_asksOnly (Query.turns_of_window? rfl _) fun _ => Query.turns_of_window? rfl _
  refine .bind Session.checkSignedIn_asksOnly fun _ => ?_
  have hlist : Acting.AsksOnly (Query.Turns (some page)) (orRaise page.validate >>= fun _ =>
      transaction do
        let template ← Session.lift (Lookup.template templateId? templateName? organizationKey?)
        Session.checkAdministers (some (.organization template.organization))
        let total ← Query.ask (.countTemplateGroups template.uuid template.organization
          permission? (searchText query?))
        let groups ← Query.ask (.searchTemplateGroups template.uuid template.organization
          permission? (searchText query?) page.offset page.size)
        return (⟨groups, page, total⟩ : Listing TemplateGroup)) := by
    refine .orRaise_bind fun _ hvalid => .transaction ?_
    exact .bind (.lift (Lookup.template_asksOnly (fun _ => turns_of_looks) _ _ _)) fun _ =>
      .bind (Session.checkAdministers_asksOnly hload _) fun _ =>
      .bind (.query (Query.turns_of_window? rfl _)) fun _ =>
      .bind (.query (turns_of_validate hvalid rfl)) fun _ => .pure _
  dsimp only
  split
  · exact .bind (.orRaise _) fun _ => hlist
  · exact hlist

/-- A command searches for the rows of its page only, after it was found to be one. -/
theorem Command.run_turns (c : Command) : Acting.AsksOnly (Query.Turns c.page?) c.run := by
  cases hpage : c.page? with
  | none => exact c.run_unpaged (fun q hq => Query.turns_of_window? hq none) hpage
  | some page =>
    cases c with
    | templateGroups =>
      obtain rfl := Option.some.inj hpage
      exact .map _ (templateGroups_turns _ _ _ _ _ _)
    | searchGroups =>
      obtain rfl := Option.some.inj hpage
      exact .map _ (searchGroups_turns _ _ _)
    | searchMyProjects =>
      obtain rfl := Option.some.inj hpage
      exact .map _ (searchMyProjects_turns _ _)
    | _ => exact nomatch hpage

end Service

end Entitlements
