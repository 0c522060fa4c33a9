import Entitlements.Proofs.Session.Authority
import Entitlements.Proofs.Store.Listings
import Entitlements.Service.Accounts
import Entitlements.Service.Projects
import Entitlements.Service.Templates
import Entitlements.Store.Sample

/-!
# Paging through listings

Whoever may see a listing gets every page of it that is asked for, in whatever order and however
often within one session, and on every page the number of all rows. The pages go through the rows of
the listing: all that match what was asked for, each once and in order.
-/

namespace Entitlements

variable {α : Type} {s t : Store} {σ τ : Session}

/-- The listing gives the session the rows of the store: with pages of any size that a listing can
have, the pages go through the rows, and those asked for are given one after the other. -/
def Acting.Lists (list : Page → Acting (Listing α)) (σ : Session) (s : Store) (rows : List α) :
    Prop :=
  ∀ size, 1 ≤ size → size ≤ maxPageSize → ∃ pages : Nat → List α, Pages rows size pages ∧
    ∀ ks : List Nat, ∃ τ t, s.run ((ks.mapM fun k => list (.after k size)).run.run σ) =
      ((.ok (ks.map fun k => ⟨pages k, .after k size, rows.length⟩), τ), t)

namespace Acting

/-- What a session does in the same way each time, it does in that way one time after the other. -/
theorem mapM_ensures {β : Type} (act : β → Acting α) {answer : β → α} {I : Session → Prop}
    {bs : List β} (h : ∀ b ∈ bs, ∀ τ t, I τ → s.Untouched t → Ensures Store.setting (act b) τ t
      (fun a τ' t' => a = answer b ∧ I τ' ∧ s.Untouched t') fun _ _ _ => False)
    (hσ : I σ) (ht : s.Untouched t) :
    Ensures Store.setting (bs.mapM act) σ t
      (fun as τ t' => as = bs.map answer ∧ I τ ∧ s.Untouched t') fun _ _ _ => False := by
  -- of what was done before, only what the session learnt and the count of units of work are left
  induction bs generalizing σ t with
  | nil => exact ⟨rfl, hσ, ht⟩
  | cons b bs ih =>
    rw [List.forall_mem_cons] at h
    rw [List.mapM_cons, ensures_bind]
    refine (h.1 σ t hσ ht).mono ?_ fun _ _ _ => False.elim
    rintro a τ t' ⟨rfl, hτ, ht'⟩
    rw [ensures_bind]
    refine (ih h.2 hτ ht').mono ?_ fun _ _ _ => False.elim
    rintro as τ' t'' ⟨rfl, hτ', ht''⟩
    exact ⟨rfl, hτ', ht''⟩

/-- A listing that answers each page from the rows, and leaves the session able to ask for others,
lists the rows. -/
theorem lists_of_ensures {list : Page → Acting (Listing α)} {rows : List α}
    (h : ∀ page τ t, page.validate = .ok () → Session.Learned s σ τ → s.Untouched t →
      Ensures Store.setting (list page) τ t
        (fun l τ' t' => l = ⟨Store.page page.offset page.size rows, page, rows.length⟩ ∧
          Session.Learned s σ τ' ∧ s.Untouched t') fun _ _ _ => False) :
    Lists list σ s rows := by
  intro size hpos hmax
  have hvalid (k : Nat) : (Page.after k size).validate = .ok () := by
    have hindex : ¬ (k : Int) + 1 < 1 := by omega
    have hsize : ¬ ((size : Int) < 1 ∨ (maxPageSize : Int) < size) := by omega
    rw [Page.validate, Page.after, if_neg hindex, if_neg hsize]
  refine ⟨_, Store.pages_page hpos rows, fun ks => ?_⟩
  have hmapM := mapM_ensures (fun k => list (.after k size)) (I := Session.Learned s σ)
    (fun k (_ : k ∈ ks) τ t => h (.after k size) τ t (hvalid k)) (.refl s σ) (.refl s)
  obtain ⟨_, τ, t, hrun, rfl, -, -⟩ := run_of_ensures hmapM
  exact ⟨τ, t, hrun⟩

end Acting

namespace Service

/-- Whoever is signed in is listed the groups of an organization. -/
theorem searchGroups_lists {query? organizationKey? : Option String} {o : Organization}
    (hσ : σ.principal.isSignedIn = true) (ho : s.organizationOf? organizationKey? = some o) :
    Acting.Lists (searchGroups query? · organizationKey?) σ s
      (s.groupSizes (s.groupsMatching o.uuid (searchText query?))) := by
  refine Acting.lists_of_ensures fun page τ t hpage hτ ht => ?_
  have hsigned : τ.principal.isSignedIn = true := by rw [hτ.principal, hσ]
  have hcount : Query.Reads (.countGroups o.uuid (searchText query?)) := trivial
  have hrows : Query.Reads (.searchGroups o.uuid (searchText query?) page.offset page.size) :=
    trivial
  rw [searchGroups, Acting.ensures_bind]
  refine Session.checkSignedIn_ensures (fun _ => ?_) fun hnot => absurd hsigned hnot
  rw [Acting.ensures_bind, Acting.ensures_orRaise, hpage]
  dsimp only
  rw [Acting.ensures_setting_transaction, Acting.ensures_bind, Acting.ensures_lift]
  refine Lookup.organization_finds ht ho ?_
  rw [Acting.ensures_bind, Acting.ensures_read_iff ht hcount]
  dsimp only [Store.answer]
  rw [Acting.ensures_bind, Acting.ensures_read_iff ht hrows]
  refine ⟨?_, hτ, ht.completed⟩
  simp [Store.groupSizes, Store.page]

/-- Whoever is signed in is given a page of the projects that they administer, and the session learns
nothing from it. -/
theorem searchMyProjects_answers {query? : Option String} {caller : Int} {page : Page}
    (hσ : σ.principal.id? = some caller)
    (hquery : validateQueryLength (searchText query?) = .ok ()) (hpage : page.validate = .ok ())
    (ht : s.Untouched t) :
    Acting.Ensures Store.setting (searchMyProjects query? page) σ t
      (fun l τ t' => l = ⟨Store.page page.offset page.size
          (s.projectsWith caller Permission.administer (searchText query?)), page,
          (s.projectsWith caller Permission.administer (searchText query?)).length⟩ ∧
        τ = σ ∧ s.Untouched t') fun _ _ _ => False := by
  have hcount : Query.Reads (.countProjects caller Permission.administer (searchText query?)) :=
    trivial
  have hrows : Query.Reads (.searchProjects caller Permission.administer (searchText query?)
    page.offset page.size) := trivial
  rw [searchMyProjects, Acting.ensures_bind]
  refine Session.signedIn_ensures (fun id hid => ?_) fun hnot => ?_
  · obtain rfl : id = caller := Option.some.inj (hid.symm.trans hσ)
    rw [Acting.ensures_bind, Acting.ensures_orRaise, hpage]
    dsimp only
    rw [Acting.ensures_bind, Acting.ensures_orRaise, hquery]
    dsimp only
    rw [Acting.ensures_setting_transaction, Acting.ensures_bind,
      Acting.ensures_read_iff ht hcount]
    dsimp only [Store.answer]
    rw [Acting.ensures_bind, Acting.ensures_read_iff ht hrows]
    exact ⟨rfl, rfl, ht.completed⟩
  · exact absurd (by simp [Principal.isSignedIn, hσ]) hnot

/-- Whoever is signed in is listed the projects that they administer. -/
theorem searchMyProjects_lists {query? : Option String} {caller : Int}
    (hσ : σ.principal.id? = some caller)
    (hquery : validateQueryLength (searchText query?) = .ok ()) :
    Acting.Lists (searchMyProjects query?) σ s
      (s.projectsWith caller Permission.administer (searchText query?)) := by
  refine Acting.lists_of_ensures fun page τ t hpage hτ ht => ?_
  have hcaller : τ.principal.id? = some caller := by rw [hτ.principal, hσ]
  refine (searchMyProjects_answers hcaller hquery hpage ht).mono ?_ fun _ _ _ => False.elim
  rintro l _ t' ⟨rfl, rfl, ht'⟩
  exact ⟨rfl, hτ, ht'⟩

/-- Whoever administers the organization of a template is listed everyone and the groups in it. -/
theorem templateGroups_lists {templateId? templateName? permission? query? : Option String}
    {organizationKey? : Option String} {tpl : Template} (hσ : σ.principal.isSignedIn = true)
    (hpermission : ∀ p ∈ given? permission?, Permission.validateForProject p = .ok ())
    (htpl : s.templateOf? templateId? templateName? organizationKey? = some tpl)
    (hclears : σ.Clears s (.organization tpl.organization)) :
    Acting.Lists
      (templateGroups templateId? templateName? permission? query? · organizationKey?) σ s
      (s.templateGroupsMatching tpl.uuid tpl.organization permission? (searchText query?)) := by
  refine Acting.lists_of_ensures fun page τ t hpage hτ ht => ?_
  have hsigned : τ.principal.isSignedIn = true := by rw [hτ.principal, hσ]
  have hcount : Query.Reads (.countTemplateGroups tpl.uuid tpl.organization permission?
    (searchText query?)) := trivial
  have hrows : Query.Reads (.searchTemplateGroups tpl.uuid tpl.organization permission?
    (searchText query?) page.offset page.size) := trivial
  have hlist : Acting.Ensures Store.setting (do
      orRaise page.validate
      transaction do
        let template ← Session.lift (Lookup.template templateId? templateName? organizationKey?)
        Session.checkAdministers (some (.organization template.organization))
        let total ← Query.ask (.countTemplateGroups template.uuid template.organization
          permission? (searchText query?))
        let groups ← Query.ask (.searchTemplateGroups template.uuid template.organization
          permission? (searchText query?) page.offset page.size)
        return (⟨groups, page, total⟩ : Listing TemplateGroup)) τ t
      (fun l τ' t' => l = ⟨Store.page page.offset page.size (s.templateGroupsMatching tpl.uuid
          tpl.organization permission? (searchText query?)), page, (s.templateGroupsMatching
          tpl.uuid tpl.organization permission? (searchText query?)).length⟩ ∧
        Session.Learned s σ τ' ∧ s.Untouched t') fun _ _ _ => False := by
    rw [Acting.ensures_bind, Acting.ensures_orRaise, hpage]
    dsimp only
    rw [Acting.ensures_setting_transaction, Acting.ensures_bind, Acting.ensures_lift]
    refine Lookup.template_finds ht htpl ?_
    rw [Acting.ensures_bind]
    refine Session.checkAdministers_decides ht (fun _ τ' t' hτ' ht' => ?_)
      fun hnot => absurd (hτ.clears hclears) hnot
    rw [Acting.ensures_bind, Acting.ensures_read_iff ht' hcount]
    dsimp only [Store.answer]
    rw [Acting.ensures_bind, Acting.ensures_read_iff ht' hrows]
    exact ⟨rfl, hτ.trans (.inr hτ'), ht'.completed⟩
  rw [templateGroups, Acting.ensures_bind]
  refine Session.checkSignedIn_ensures (fun _ => ?_) fun hnot => absurd hsigned hnot
  dsimp only
  cases hgiven : given? permission? with
  | none => exact hlist
  | some permission =>
    dsimp only
    rw [Acting.ensures_bind, Acting.ensures_orRaise, hpermission permission hgiven]
    exact hlist

open Store in
/-- Searches for groups and for projects and the listing of a template can be gone through page by
page: their rows are all that match what is asked for, each once and in order. -/
theorem listings_paged (hs : s.Keyed) (σ : Session) (hσ : σ.principal.isSignedIn = true) :
    (∀ query? organizationKey? o, s.organizationOf? organizationKey? = some o →
      ∃ rows, Acting.Lists (searchGroups query? · organizationKey?) σ s rows ∧
        (∀ row, row ∈ rows ↔ ∃ g ∈ s.groups, g.organization = o.uuid ∧
          nameFits (searchText query?) g.name = true ∧ ⟨g, (s.membersOf g.id).length⟩ = row) ∧
        rows.Pairwise fun a b =>
          position a.group.name a.group.id < position b.group.name b.group.id) ∧
    (∀ query? caller, σ.principal.id? = some caller →
      validateQueryLength (searchText query?) = .ok () →
      ∃ rows, Acting.Lists (searchMyProjects query?) σ s rows ∧
        (∀ c, c ∈ rows ↔ c ∈ s.components ∧
          s.grantedOnProject caller Permission.administer c.uuid = true ∧ c.isProject = true ∧
            componentFits (searchText query?) c = true) ∧
        rows.Pairwise fun a b => position a.name a.uuid < position b.name b.uuid) ∧
    ∀ templateId? templateName? permission? query? organizationKey? tpl,
      s.templateOf? templateId? templateName? organizationKey? = some tpl →
      σ.Clears s (.organization tpl.organization) →
      (∀ p ∈ given? permission?, Permission.validateForProject p = .ok ()) →
      ∃ rows, Acting.Lists
          (templateGroups templateId? templateName? permission? query? · organizationKey?)
          σ s rows ∧
        (∀ row, row ∈ rows ↔
          (row = ⟨none, Holder.anyoneName, none, s.templatePermissions tpl.uuid .anyone⟩ ∨
            ∃ g ∈ s.groups, g.organization = tpl.organization ∧
              ⟨some g.id, g.name, g.description,
                s.templatePermissions tpl.uuid (.group g.id)⟩ = row) ∧
          row.IsAsked permission? (searchText query?)) ∧
        rows.Pairwise fun a b => a.position < b.position := by
  refine ⟨fun query? organizationKey? o ho => ?_, fun query? caller hcaller hquery => ?_,
    fun templateId? templateName? permission? query? organizationKey? tpl htpl hclears hp => ?_⟩
  · refine ⟨_, searchGroups_lists hσ ho, fun row => ?_, ?_⟩
    · simp [groupSizes, mem_groupsMatching_iff, and_assoc]
    · exact List.pairwise_map.mpr (pairwise_groupsMatching hs o.uuid)
  · exact ⟨_, searchMyProjects_lists hcaller hquery, fun c => mem_projectsWith_iff,
      pairwise_projectsWith hs caller _⟩
  · refine ⟨_, templateGroups_lists hσ hp htpl hclears, fun row => ?_,
      pairwise_templateGroupsMatching hs _ _⟩
    rw [mem_templateGroupsMatching_iff, mem_templateCandidates_iff]

/-- The sample with a project that `root` administers and a template that gives something to a
group. -/
def sampleListed (around : Surroundings) : Store :=
  let s := Store.sample around
  { s with
    grants := s.grants ++ [⟨Store.sampleDefault, .user 1 "root", Permission.administer,
      .project "proj-1" Store.sampleDefault⟩]
    templates := [⟨"tpl-1", Store.sampleDefault, "Base", none, none, none, none⟩]
    templateGrants := [⟨"tpl-1", .group 11, "user"⟩] }

/-- There `root` can go through the groups, the project and what the template gives. -/
theorem listings_paged_sample :
    let s := sampleListed default
    let σ := Session.ofUser? (s.userByLogin? "root")
    (∃ rows, Acting.Lists (searchGroups (some "DEV") · none) σ s rows ∧
      ⟨⟨11, Store.sampleDefault, "devs", some "Developers", none, none⟩, 0⟩ ∈ rows) ∧
    (∃ rows, Acting.Lists (searchMyProjects none) σ s rows ∧
      ⟨"proj-1", "project-one", "Project One", "TRK", "proj-1", Store.sampleDefault⟩ ∈ rows) ∧
    ∃ rows, Acting.Lists (templateGroups (some "tpl-1") none none none · none) σ s rows ∧
      ⟨some 11, "devs", some "Developers", ["user"]⟩ ∈ rows := by
  intro s σ
  have hs : s.Keyed := ⟨by decide, by decide, by decide⟩
  have hclears : σ.Clears s (.organization Store.sampleDefault) :=
    ⟨.inr ⟨_, rfl⟩, _, rfl, by decide +kernel⟩
  have hdevs : ⟨11, Store.sampleDefault, "devs", some "Developers", none, none⟩ ∈ s.groups := by
    decide
  obtain ⟨hgroups, hprojects, htemplate⟩ := listings_paged hs σ rfl
  obtain ⟨groups, hgroups, hgroup, -⟩ := hgroups (some "DEV") none _ rfl
  obtain ⟨projects, hprojects, hproject, -⟩ := hprojects none 1 rfl rfl
  obtain ⟨listed, hlisted, hrow, -⟩ :=
    htemplate (some "tpl-1") none none none none _ rfl hclears nofun
  refine ⟨⟨groups, hgroups, ?_⟩, ⟨projects, hprojects, ?_⟩, ⟨listed, hlisted, ?_⟩⟩
  · exact (hgroup _).mpr ⟨_, hdevs, rfl, by decide +kernel, rfl⟩
  · exact (hproject _).mpr ⟨by decide, by decide +kernel, rfl, rfl⟩
  · refine (hrow _).mpr ⟨.inr ⟨_, hdevs, rfl, by decide +kernel⟩, rfl, fun _ => ?_⟩
    exact List.cons_ne_nil _ _

end Service

end Entitlements
