import Entitlements.Proofs.Service.Paging
import Entitlements.Proofs.Store.Searches

/-!
# Who is listed for a template

Everyone and the groups of an organization are listed for a template by three filters. A search text
asks for names, a permission for those who have it in the template, and where neither is given only
those are listed whom the template gives something. Whatever is asked for, each row has all that its
holder is given in the template, in order and without repetition.
-/

namespace Entitlements

/-- Everyone and the groups of the template's organization can be listed, under their names. -/
inductive Template.CanList (s : Store) (tpl : Template) : Holder → String → Prop
  | anyone : CanList s tpl .anyone Holder.anyoneName
  | group (g : Group) (hg : g ∈ s.groups) (ho : g.organization = tpl.organization) :
    CanList s tpl (.group g.id) g.name

namespace Store

variable {s : Store} {template : String} {holder : Holder}

theorem mem_templatePermissions_iff {p : Permission} :
    p ∈ s.templatePermissions template holder ↔ ⟨template, holder, p⟩ ∈ s.templateGrants := by
  rw [templatePermissions, List.mem_mergeSort, List.mem_map]
  constructor
  · rintro ⟨g, hg, rfl⟩
    obtain ⟨hmem, hgiven⟩ := List.mem_filter.mp hg
    rw [Bool.and_eq_true, beq_iff_eq, beq_iff_eq] at hgiven
    rw [← hgiven.1, ← hgiven.2]
    exact hmem
  · intro hmem
    exact ⟨_, List.mem_filter.mpr ⟨hmem, by simp⟩, rfl⟩

/-- As the grants of templates are a set, the permissions of a holder are in order without
repetition. -/
theorem pairwise_templatePermissions (hs : s.templateGrants.Nodup) :
    (s.templatePermissions template holder).Pairwise (· < ·) := by
  have hnodup : ((s.templateGrants.filter fun g => g.template == template && g.holder == holder).map
      (·.permission)).Nodup := by
    refine List.Nodup.map_on (fun g hg g' hg' hp => ?_) (hs.filter _)
    have hgiven := (List.mem_filter.mp hg).2
    have hgiven' := (List.mem_filter.mp hg').2
    simp only [Bool.and_eq_true, beq_iff_eq] at hgiven hgiven'
    obtain ⟨ht, hh⟩ := hgiven
    obtain ⟨ht', hh'⟩ := hgiven'
    cases g
    cases g'
    simp_all
  have hsorted : (s.templatePermissions template holder).Pairwise fun a b =>
      decide (a ≤ b) = true := by
    refine List.pairwise_mergeSort (fun a b c hab hbc => ?_) (fun a b => ?_) _
    · rw [decide_eq_true_eq] at hab hbc ⊢
      exact hab.trans hbc
    · rw [Bool.or_eq_true, decide_eq_true_eq, decide_eq_true_eq]
      exact le_total a b
  have hne : (s.templatePermissions template holder).Nodup :=
    (List.mergeSort_perm _ _).nodup_iff.mpr hnodup
  refine (hsorted.and hne).imp fun {a b} h => ?_
  exact lt_of_le_of_ne (of_decide_eq_true h.1) h.2

variable {tpl : Template} {row : TemplateGroup}

/-- The candidates of a template are those who can be listed, each with all that the template gives
them. -/
theorem canList_of_mem_templateCandidates
    (hrow : row ∈ s.templateCandidates tpl.uuid tpl.organization) :
    tpl.CanList s row.holder row.name ∧
      row.permissions = s.templatePermissions tpl.uuid row.holder := by
  rcases mem_templateCandidates_iff.mp hrow with rfl | ⟨g, hg, ho, rfl⟩
  · exact ⟨.anyone, rfl⟩
  · exact ⟨.group g hg ho, rfl⟩

theorem exists_mem_templateCandidates {name : String} (h : tpl.CanList s holder name) :
    ∃ row ∈ s.templateCandidates tpl.uuid tpl.organization, row.holder = holder ∧
      row.name = name := by
  cases h with
  | anyone => exact ⟨_, mem_templateCandidates_iff.mpr (.inl rfl), rfl, rfl⟩
  | group g hg ho => exact ⟨_, mem_templateCandidates_iff.mpr (.inr ⟨g, hg, ho, rfl⟩), rfl, rfl⟩

end Store

/-- The filters let the holder of the name through: by the search text, by the permission and, where
neither is given, by having any permission in the template. -/
structure Template.Wants (s : Store) (tpl : Template) (permission? query? : Option String)
    (holder : Holder) (name : String) : Prop where
  name : NameHas (trimmedQuery query?) name
  permission : ∀ p, given? permission? = some p → ⟨tpl.uuid, holder, p⟩ ∈ s.templateGrants
  any : given? permission? = none → trimmedQuery query? = "" →
    ∃ p, ⟨tpl.uuid, holder, p⟩ ∈ s.templateGrants

namespace Service

variable {s : Store} {σ : Session} {tpl : Template}
  {templateId? templateName? permission? query? organizationKey? : Option String}

/-- A row that has all that the template gives its holder is asked for exactly where the filters let
the holder through. -/
theorem isAsked_iff_wants {row : TemplateGroup}
    (hrow : row.permissions = s.templatePermissions tpl.uuid row.holder) :
    row.IsAsked permission? (searchText query?) ↔
      tpl.Wants s permission? query? row.holder row.name := by
  have hmem (p : Permission) :
      p ∈ row.permissions ↔ ⟨tpl.uuid, row.holder, p⟩ ∈ s.templateGrants := by
    rw [hrow, Store.mem_templatePermissions_iff]
  have hany : row.permissions ≠ [] ↔ ∃ p, ⟨tpl.uuid, row.holder, p⟩ ∈ s.templateGrants := by
    constructor
    · intro hne
      obtain ⟨p, hp⟩ := List.exists_mem_of_ne_nil _ hne
      exact ⟨p, (hmem p).mp hp⟩
    · rintro ⟨p, hp⟩
      exact List.ne_nil_of_mem ((hmem p).mpr hp)
  rw [TemplateGroup.IsAsked, Store.nameFits_searchText_iff]
  cases hpermission : given? permission? with
  | none =>
    dsimp only
    rw [given?_searchText_eq_none_iff, hany]
    constructor
    · rintro ⟨hname, h⟩
      exact ⟨hname, by simp [hpermission], fun _ => h⟩
    · rintro ⟨hname, -, h⟩
      exact ⟨hname, h hpermission⟩
  | some p =>
    dsimp only
    rw [hmem]
    constructor
    · rintro ⟨hname, h⟩
      refine ⟨hname, fun p' hp' => ?_, by simp [hpermission]⟩
      obtain rfl : p = p' := Option.some.inj (hpermission.symm.trans hp')
      exact h
    · rintro ⟨hname, h, -⟩
      exact ⟨hname, h p hpermission⟩

/-- Whoever administers the organization of a template is listed, page by page, exactly those that
can be listed and that the filters let through, and every row has exactly what the template gives
its holder, in order and without repetition. -/
theorem templateGroups_holders (query? : Option String) (hs : s.templateGrants.Nodup)
    (hσ : σ.principal.isSignedIn = true) (hclears : σ.Clears s (.organization tpl.organization))
    (htpl : s.templateOf? templateId? templateName? organizationKey? = some tpl)
    (hpermission : ∀ p, given? permission? = some p → p ∈ Permission.ofProject) :
    ∃ rows, Acting.Lists
        (templateGroups templateId? templateName? permission? query? · organizationKey?) σ s rows ∧
      (∀ holder, (∃ row ∈ rows, row.holder = holder) ↔
        ∃ name, tpl.CanList s holder name ∧ tpl.Wants s permission? query? holder name) ∧
      ∀ row ∈ rows, tpl.CanList s row.holder row.name ∧
        (∀ p, p ∈ row.permissions ↔ ⟨tpl.uuid, row.holder, p⟩ ∈ s.templateGrants) ∧
        row.permissions.Pairwise (· < ·) := by
  have hvalid : ∀ p ∈ given? permission?, Permission.validateForProject p = .ok () := by
    intro p hp
    have hproject : Permission.isProject p = true := List.contains_iff_mem.mpr (hpermission p hp)
    rw [Permission.validateForProject, if_pos hproject]
  refine ⟨_, templateGroups_lists hσ hvalid htpl hclears, fun holder => ?_, fun row hrow => ?_⟩
  · constructor
    · rintro ⟨row, hrow, rfl⟩
      obtain ⟨hcandidate, hasked⟩ := Store.mem_templateGroupsMatching_iff.mp hrow
      obtain ⟨hcan, hgiven⟩ := Store.canList_of_mem_templateCandidates hcandidate
      exact ⟨row.name, hcan, (isAsked_iff_wants hgiven).mp hasked⟩
    · rintro ⟨name, hcan, hwants⟩
      obtain ⟨row, hcandidate, rfl, rfl⟩ := Store.exists_mem_templateCandidates hcan
      have hgiven := (Store.canList_of_mem_templateCandidates hcandidate).2
      refine ⟨row, Store.mem_templateGroupsMatching_iff.mpr ⟨hcandidate, ?_⟩, rfl⟩
      exact (isAsked_iff_wants hgiven).mpr hwants
  · obtain ⟨hcandidate, -⟩ := Store.mem_templateGroupsMatching_iff.mp hrow
    obtain ⟨hcan, hgiven⟩ := Store.canList_of_mem_templateCandidates hcandidate
    refine ⟨hcan, fun p => ?_, ?_⟩
    · rw [hgiven, Store.mem_templatePermissions_iff]
    · rw [hgiven]
      exact Store.pairwise_templatePermissions hs

/-- The sample with two templates of the default organization. The first one gives two permissions
to a group and one to everyone and to a user; the second one gives something to another group. -/
def sampleTemplates (around : Surroundings) : Store :=
  let s := Store.sample around
  { s with
    templates := [⟨"tpl-1", Store.sampleDefault, "Base", none, none, none, none⟩,
      ⟨"tpl-2", Store.sampleDefault, "Other", none, none, none, none⟩]
    templateGrants := [⟨"tpl-1", .group 11, "user"⟩, ⟨"tpl-1", .group 11, "codeviewer"⟩,
      ⟨"tpl-1", .anyone, "user"⟩, ⟨"tpl-1", .user 2 "alice", "user"⟩,
      ⟨"tpl-2", .group 10, "user"⟩] }

/-- There `root` asks for those who may view the code by the first template: the row of the group
has its other permission as well, and everyone is not listed. -/
theorem templateGroups_holders_codeviewer :
    let s := sampleTemplates default
    let σ := Session.ofUser? (s.userByLogin? "root")
    (s.templateGrants.Nodup ∧ σ.principal.isSignedIn = true ∧
      σ.Clears s (.organization Store.sampleDefault)) ∧
    ∃ rows, Acting.Lists (templateGroups (some "tpl-1") none (some "codeviewer") none · none) σ s
        rows ∧
      (∃ row ∈ rows, row.holder = .group 11 ∧ "user" ∈ row.permissions) ∧
      ¬ ∃ row ∈ rows, row.holder = .anyone := by
  intro s σ
  have hs : s.templateGrants.Nodup := by decide
  have hclears : σ.Clears s (.organization Store.sampleDefault) :=
    ⟨.inr ⟨_, rfl⟩, _, rfl, by decide +kernel⟩
  have hpermission : ∀ p, given? (some "codeviewer") = some p → p ∈ Permission.ofProject := by
    rintro p hp
    obtain rfl : "codeviewer" = p := Option.some.inj hp
    decide
  have htpl : s.templateOf? (some "tpl-1") none none =
      some ⟨"tpl-1", Store.sampleDefault, "Base", none, none, none, none⟩ := rfl
  obtain ⟨rows, hlists, hlisted, hrows⟩ :=
    templateGroups_holders none hs (σ := σ) rfl hclears htpl hpermission
  have hblank : trimmedQuery none = "" := rfl
  refine ⟨⟨hs, rfl, hclears⟩, rows, hlists, ?_, fun hanyone => ?_⟩
  · have hdevs : ⟨11, Store.sampleDefault, "devs", some "Developers", none, none⟩ ∈ s.groups := by
      decide
    obtain ⟨row, hrow, hholder⟩ := (hlisted (.group 11)).mpr ⟨_, .group _ hdevs rfl, .inl hblank,
      fun p hp => by obtain rfl : "codeviewer" = p := Option.some.inj hp; decide, nofun⟩
    refine ⟨row, hrow, hholder, ((hrows row hrow).2.1 _).mpr ?_⟩
    rw [hholder]
    decide
  · obtain ⟨name, -, hwants⟩ := (hlisted .anyone).mp hanyone
    exact absurd (hwants.permission "codeviewer" rfl) (by decide)

end Service

end Entitlements
