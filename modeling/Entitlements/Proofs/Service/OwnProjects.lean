import Entitlements.Proofs.Service.Paging
import Entitlements.Proofs.Session.Answers
import Entitlements.Proofs.Store.Searches

/-!
# Projects administered in person

Users are listed the projects that they administer in person or through a group. A session tells
whether its caller administers a project by another way, from a snapshot of all that the caller
holds. The two agree up to what counts for the session only: what everyone holds, and what is held
on the whole organization of the project.
-/

namespace Entitlements

variable {s : Store} {user : Int} {p : Permission}

/-- The user holds the grant in person, or through a group that the user is a member of. What
everyone holds does not count. -/
def Grant.HeldInPerson (s : Store) (user : Int) (g : Grant) : Prop :=
  match g.holder with
  | .anyone => False
  | .user id _ => id = user
  | .group group => (group, user) ∈ s.members

/-- A user has the benefit of what everyone holds and of what is held in person. -/
theorem Grant.heldBy_some_iff {g : Grant} :
    g.HeldBy s (some user) ↔ g.holder = .anyone ∨ g.HeldInPerson s user := by
  unfold Grant.HeldBy Grant.HeldInPerson
  cases g.holder with
  | anyone => simp
  | user id login => simp [eq_comm]
  | group group => simp

namespace Store

/-- A grant on the project gives the permission to the user in person or to a group of the user. -/
def HeldInPerson (s : Store) (user : Int) (p : Permission) (project : String) : Prop :=
  ∃ g ∈ s.grants, g.scope.project? = some project ∧ g.permission = p ∧ g.HeldInPerson s user

/-- A grant on the project gives the permission to everyone. -/
def HeldByAnyone (s : Store) (p : Permission) (project : String) : Prop :=
  ∃ g ∈ s.grants, g.scope.project? = some project ∧ g.permission = p ∧ g.holder = .anyone

/-- A grant on the whole organization gives the permission to the user in person, to a group of the
user or to everyone. -/
def HeldGlobally (s : Store) (user : Int) (p : Permission) (organization : String) : Prop :=
  ∃ g ∈ s.grants, g.scope.project? = none ∧ g.organization = organization ∧ g.permission = p ∧
    g.HeldBy s (some user)

theorem grantedOnProject_iff_heldInPerson {project : String} :
    s.grantedOnProject user p project = true ↔ s.HeldInPerson user p project := by
  rw [grantedOnProject, List.any_eq_true]
  refine exists_congr fun g => and_congr_right fun _ => ?_
  rw [Bool.and_eq_true, Bool.and_eq_true, beq_iff_eq, beq_iff_eq, and_assoc]
  refine and_congr_right fun _ => and_congr_right fun _ => ?_
  unfold Grant.HeldInPerson
  cases g.holder with
  | anyone => simp
  | user id login => simp
  | group group => simp [mem_groupsOf]

/-- What supports a permission on a project is held there in person, held there by everyone, or held
on the whole organization. -/
theorem supported_project_iff {project organization : String} :
    s.Supported (some user) p (.project project organization) ↔
      s.HeldInPerson user p project ∨ s.HeldByAnyone p project ∨
        s.HeldGlobally user p organization := by
  constructor
  · rintro ⟨g, hg, hheld, hp, hglobal | hproject⟩
    · exact .inr (.inr ⟨g, hg, hglobal.1, hglobal.2, hp, hheld⟩)
    · rcases Grant.heldBy_some_iff.mp hheld with hanyone | hperson
      · exact .inr (.inl ⟨g, hg, hproject, hp, hanyone⟩)
      · exact .inl ⟨g, hg, hproject, hp, hperson⟩
  · rintro (⟨g, hg, hproject, hp, hperson⟩ | ⟨g, hg, hproject, hp, hanyone⟩ |
      ⟨g, hg, hnone, horganization, hp, hheld⟩)
    · exact ⟨g, hg, Grant.heldBy_some_iff.mpr (.inr hperson), hp, .inr hproject⟩
    · exact ⟨g, hg, Grant.heldBy_some_iff.mpr (.inl hanyone), hp, .inr hproject⟩
    · exact ⟨g, hg, hheld, hp, .inl ⟨hnone, horganization⟩⟩

/-- On a component that carries permissions, a permission is supported by the identifier of the
component as it is by the component. -/
theorem supportedOnProject_iff (hkeyed : (s.components.map (·.uuid)).Nodup) {user? : Option Int}
    {c : Component} (hc : c ∈ s.components) (hcarries : c.carriesPermissions = true) :
    s.SupportedOnProject user? p c.uuid ↔ s.Supported user? p (.project c.uuid c.organization) := by
  constructor
  · rintro ⟨c', hc', huuid, -, hsupported⟩
    obtain rfl : c' = c := List.inj_on_of_nodup_map hkeyed hc' hc huuid
    exact hsupported
  · intro hsupported
    exact ⟨c, hc, rfl, hcarries, hsupported⟩

end Store

namespace Service

variable {query? : Option String} {u : User} {d : Organization}

theorem validateQueryLength_searchText
    (h : trimmedQuery query? = "" ∨ minQueryLength ≤ (trimmedQuery query?).length) :
    validateQueryLength (searchText query?) = .ok () := by
  rw [searchText_eq_given?]
  by_cases hempty : trimmedQuery query? = ""
  · rw [given?_some_eq_none_iff.mpr hempty]
    rfl
  · have hlong : ¬ (trimmedQuery query?).length < minQueryLength :=
      Nat.not_lt.mpr (h.resolve_left hempty)
    rw [given?_some_of_ne hempty, validateQueryLength, Option.any_some, decide_eq_false hlong,
      if_neg Bool.false_ne_true]

/-- Go through some pages of the listing of projects and then ask whether the caller administers a
project. -/
def browseAndAsk (query? : Option String) (pages : List Page) (project : String) : Acting Bool := do
  let _ ← pages.mapM (searchMyProjects query?)
  Session.hasProjectPermission Permission.administer project

/-- Whatever pages a user went through before, the session of the user tells what the grants say
about a project. -/
theorem answer_browseAndAsk (hkeyed : (s.components.map (·.uuid)).Nodup)
    (hd : s.defaultOrganization = .ok d)
    (hquery : validateQueryLength (searchText query?) = .ok ()) {pages : List Page}
    (hpages : ∀ page ∈ pages, page.validate = .ok ()) (project : String) :
    ∃ b, (Session.ofUser? (some u)).answer s (browseAndAsk query? pages project) = .ok b ∧
      (b = true ↔ s.SupportedOnProject (some u.id) Permission.administer project) := by
  have hbrowse := Acting.mapM_ensures (searchMyProjects query?)
    (I := (· = Session.ofUser? (some u)))
    (fun page hpage τ t hτ ht => by
      obtain rfl := hτ
      exact searchMyProjects_answers rfl hquery (hpages page hpage) ht)
    rfl (.refl s)
  have hasked : Acting.Ensures Store.setting (browseAndAsk query? pages project)
      (Session.ofUser? (some u)) s
      (fun b _ _ => b = true ↔ s.SupportedOnProject (some u.id) Permission.administer project)
      fun _ _ _ => False := by
    rw [browseAndAsk, Acting.ensures_bind]
    refine hbrowse.mono ?_ fun _ _ _ => False.elim
    rintro _ _ t ⟨-, rfl, ht⟩
    exact (Session.current_ofUser? s (some u)).hasProjectPermission_ensures hkeyed hd ht _ _
      fun b _ _ hb _ _ => hb
  rcases Session.answer_of_ensures hasked with ⟨b, hanswer, hb⟩ | ⟨_, -, hfalse⟩
  · exact ⟨b, hanswer, hb⟩
  · exact hfalse.elim

/-- A user who searches for projects is listed, page by page, the projects administered in person or
through a group that the text finds. All of them the session of the user takes for administered.
Beyond those, of all projects, it takes for administered exactly those that everyone administers and
those of an organization that the user, a group of the user or everyone administers. -/
theorem ownProjects_administered (hkeyed : (s.components.map (·.uuid)).Nodup)
    (hd : s.defaultOrganization = .ok d) (u : User) (query? : Option String)
    (hquery : trimmedQuery query? = "" ∨ minQueryLength ≤ (trimmedQuery query?).length) :
    ∃ rows, Acting.Lists (searchMyProjects query?) (Session.ofUser? (some u)) s rows ∧
      (∀ c, c ∈ rows ↔ c ∈ s.components ∧ c.qualifier = Component.projectQualifier ∧
        c.project = c.uuid ∧ s.HeldInPerson u.id Permission.administer c.uuid ∧
        (NameHas (trimmedQuery query?) c.name ∨ c.key = trimmedQuery query?)) ∧
      ∀ pages : List Page, (∀ page ∈ pages, page.validate = .ok ()) → ∀ c ∈ s.components,
        c.qualifier = Component.projectQualifier → c.project = c.uuid →
        ∃ b, (Session.ofUser? (some u)).answer s (browseAndAsk query? pages c.uuid) = .ok b ∧
          (c ∈ rows → b = true) ∧
          (trimmedQuery query? = "" → (b = true ↔ c ∈ rows ∨
            s.HeldByAnyone Permission.administer c.uuid ∨
            s.HeldGlobally u.id Permission.administer c.organization)) := by
  have hlength := validateQueryLength_searchText hquery
  have hlisted (c : Component) :
      c ∈ s.projectsWith u.id Permission.administer (searchText query?) ↔ c ∈ s.components ∧
        c.qualifier = Component.projectQualifier ∧ c.project = c.uuid ∧
        s.HeldInPerson u.id Permission.administer c.uuid ∧
        (NameHas (trimmedQuery query?) c.name ∨ c.key = trimmedQuery query?) := by
    rw [Store.mem_projectsWith_iff, Store.grantedOnProject_iff_heldInPerson,
      Store.componentFits_searchText_iff, Component.isProject, Bool.and_eq_true, beq_iff_eq,
      beq_iff_eq, and_left_comm (a := s.HeldInPerson u.id _ c.uuid), and_assoc]
  refine ⟨_, searchMyProjects_lists rfl hlength, hlisted, ?_⟩
  intro pages hpages c hc hqualifier hself
  have hcarries : c.carriesPermissions = true :=
    Component.carriesPermissions_of_isProject (by simp [Component.isProject, hqualifier, hself])
  obtain ⟨b, hanswer, hb⟩ := answer_browseAndAsk (u := u) hkeyed hd hlength hpages c.uuid
  rw [Store.supportedOnProject_iff hkeyed hc hcarries, Store.supported_project_iff] at hb
  refine ⟨b, hanswer, fun hrow => ?_, fun hblank => ?_⟩
  · exact hb.mpr (.inl ((hlisted c).mp hrow).2.2.2.1)
  · -- without a search text a project is listed exactly where it is administered in person
    have hperson : c ∈ s.projectsWith u.id Permission.administer (searchText query?) ↔
        s.HeldInPerson u.id Permission.administer c.uuid := by
      rw [hlisted]
      exact ⟨fun h => h.2.2.2.1, fun h => ⟨hc, hqualifier, hself, h, .inl (.inl hblank)⟩⟩
    rw [hb, hperson]

/-- The sample where the group of `alice` administers the first project and everyone administers the
second one. -/
def sampleShared (around : Surroundings) : Store :=
  let s := Store.sample around
  { s with
    members := [(11, 2)]
    grants := s.grants ++
      [⟨Store.sampleDefault, .group 11, Permission.administer,
          .project "proj-1" Store.sampleDefault⟩,
        ⟨Store.sampleOther, .anyone, Permission.administer,
          .project "proj-2" Store.sampleOther⟩] }

/-- There `alice` is listed the first project only, and is told that she administers both. -/
theorem ownProjects_administered_alice :
    let s := sampleShared default
    let alice : User := ⟨2, "alice", some "Alice", none, true, false⟩
    let one : Component :=
      ⟨"proj-1", "project-one", "Project One", "TRK", "proj-1", Store.sampleDefault⟩
    let two : Component :=
      ⟨"proj-2", "project-two", "Project Two", "TRK", "proj-2", Store.sampleOther⟩
    ((s.components.map (·.uuid)).Nodup ∧ trimmedQuery none = "") ∧
      ∃ rows, Acting.Lists (searchMyProjects none) (Session.ofUser? (some alice)) s rows ∧
        one ∈ rows ∧ two ∉ rows ∧
        (Session.ofUser? (some alice)).answer s (browseAndAsk none [⟨1, 100⟩] "proj-1") = .ok true ∧
        (Session.ofUser? (some alice)).answer s (browseAndAsk none [⟨1, 100⟩] "proj-2") =
          .ok true := by
  intro s alice one two
  have hkeyed : (s.components.map (·.uuid)).Nodup := by decide
  have hblank : trimmedQuery none = "" := rfl
  have hpages : ∀ page ∈ [(⟨1, 100⟩ : Page)], page.validate = .ok () := by
    rintro page hpage
    obtain rfl := List.mem_singleton.mp hpage
    rfl
  obtain ⟨rows, hlists, hrows, hasked⟩ :=
    ownProjects_administered hkeyed (s := s) rfl alice none (.inl hblank)
  have hone : one ∈ rows := by
    refine (hrows one).mpr ⟨by decide, rfl, rfl, ?_, .inl (.inl hblank)⟩
    exact ⟨⟨Store.sampleDefault, .group 11, Permission.administer,
      .project "proj-1" Store.sampleDefault⟩, by decide, rfl, rfl, List.mem_singleton_self _⟩
  have htwo : two ∉ rows := by
    intro hmem
    obtain ⟨-, -, -, ⟨g, hg, hproject, -, hperson⟩, -⟩ := (hrows two).mp hmem
    have hgrants : ∀ g ∈ s.grants, g.scope.project? = some "proj-2" → g.holder = .anyone := by
      decide
    simp [Grant.HeldInPerson, hgrants g hg hproject] at hperson
  obtain ⟨b, hanswer, hlisted, -⟩ := hasked [⟨1, 100⟩] hpages one (by decide) rfl rfl
  obtain ⟨b', hanswer', -, hiff⟩ := hasked [⟨1, 100⟩] hpages two (by decide) rfl rfl
  have hanyone : s.HeldByAnyone Permission.administer two.uuid :=
    ⟨⟨Store.sampleOther, .anyone, Permission.administer, .project "proj-2" Store.sampleOther⟩,
      by decide, rfl, rfl, rfl⟩
  rw [hlisted hone] at hanswer
  rw [(hiff hblank).mpr (.inr (.inl hanyone))] at hanswer'
  exact ⟨⟨hkeyed, hblank⟩, rows, hlists, hone, htwo, hanswer, hanswer'⟩

end Service

end Entitlements
