import Entitlements.Proofs.Service.World
import Entitlements.Proofs.Store.Sparing

/-!
# Organizations are closed to outsiders

Those who administer neither an organization nor a project of it cannot change anything of it,
whatever they do in other organizations, in whatever order, and however many of them there are.
What they hold in the organization stays as it is as well.
-/

namespace Entitlements

open Session (Learned)

/-- The permissions that a session goes by say that its caller is an outsider. -/
structure Session.Barred (σ : Session) (s : Store) (organization : String) : Prop where
  byDefault? : σ.byDefault? s = s.defaultOrganization.toOption.map (·.uuid)
  overall : ∀ o, s.Governs o organization →
    ¬ (σ.view s).allows Permission.administer (.organization o) = true
  onProject : ∀ c ∈ s.components, c.organization = organization → c.carriesPermissions = true →
    ¬ (σ.view s).allows Permission.administer (.project c.uuid organization) = true

variable {s t : Store} {O : String}

/-- An outsider's permissions are read as those of an outsider. -/
theorem Store.Outsider.barred {σ : Session} (h : s.Outsider σ.principal.id? O)
    (hσ : σ.snapshot? = none) : σ.Barred s O := by
  have hview : σ.view s = s.snapshot σ.principal.id? := by
    rw [Session.view, hσ, Option.getD_none]
  refine ⟨?_, fun o ho => ?_, fun c hc ho hp => ?_⟩
  · rw [Session.byDefault?, hσ]
  · rw [hview, allows_snapshot_iff]
    exact h.overall o ho
  · rw [hview, allows_snapshot_iff]
    exact h.onProject c hc ho hp

namespace Session

variable {σ τ : Session}

/-- A session that is barred does not administer what governs the organization. -/
theorem Barred.not_administers_organization (h : σ.Barred s O) {o : String} (ho : s.Governs o O) :
    ¬ σ.Administers s (.organization o) := by
  rintro ⟨o', ho', hallows⟩
  rw [h.byDefault?] at ho'
  refine h.overall o' ?_ hallows
  by_cases hempty : o = ""
  · rw [if_pos hempty] at ho'
    have horganization : O = "" := by
      rcases ho with rfl | ⟨hO, -⟩
      · exact hempty
      · exact hO
    exact .inr ⟨horganization, ho'⟩
  · rw [if_neg hempty] at ho'
    exact Option.some.inj ho' ▸ ho

/-- What a session learns is what it goes by already. -/
theorem Barred.learned (h : σ.Barred s O) (hτ : Learned s σ τ) : τ.Barred s O := by
  rcases hτ with rfl | hτ
  · exact h
  · refine ⟨hτ.byDefault?.trans h.byDefault?, ?_, ?_⟩
    · rw [hτ.view]
      exact h.overall
    · rw [hτ.view]
      exact h.onProject

/-- A session stays barred as long as the organization is spared: what it has read stays with it,
and what it has not read yet says the same. -/
theorem Barred.of_spares (h : σ.Barred s O) (hst : s.Spares O t) (hs : s.WellFormed)
    (ht : t.WellFormed) : σ.Barred t O := by
  cases hσ : σ.snapshot? with
  | none =>
    have hview : σ.view s = s.snapshot σ.principal.id? := by rw [view, hσ, Option.getD_none]
    have hout : s.Outsider σ.principal.id? O := by
      refine ⟨fun o ho => ?_, fun c hc ho hp => ?_⟩
      · rw [← Store.allows_snapshot_iff, ← hview]
        exact h.overall o ho
      · rw [← Store.allows_snapshot_iff, ← hview]
        exact h.onProject c hc ho hp
    exact (hst.outsider hs ht hout).barred hσ
  | some held =>
    have hview : σ.view t = σ.view s := by rw [view, view, hσ, Option.getD_some, Option.getD_some]
    have hdefault : σ.byDefault? t = σ.byDefault? s := by
      rw [Session.byDefault?, Session.byDefault?, hσ]
    refine ⟨?_, fun o ho => ?_, fun c hc ho hp => ?_⟩
    · rw [hdefault, h.byDefault?, hst.defaultOrganization]
    · rw [hview]
      exact h.overall o ((hst.governs_iff o O).mp ho)
    · rw [hview]
      exact h.onProject c (hst.components ▸ hc) ho hp

/-- No grant that a session may change is one that is to be spared. -/
theorem Barred.not_spared (h : σ.Barred s O) {g : Grant} (hg : s.Grounds g)
    (hadmin : σ.Administers s g.scope) :
    ¬ (g.organization = O ∨ s.Governs g.organization O ∧ g.scope.project? = none) := by
  have howner := hg.owner
  cases hscope : g.scope with
  | organization uuid =>
    rw [hscope] at hadmin howner
    have hgov : ¬ s.Governs g.organization O := by
      intro hgov
      rw [← howner] at hgov
      exact h.not_administers_organization hgov hadmin
    rintro (ho | ⟨ho, -⟩)
    · exact hgov (.inl ho)
    · exact hgov ho
  | project uuid o =>
    obtain ⟨c, hc, rfl, ho, hp⟩ := hg.project uuid (by rw [hscope]; rfl)
    rw [hscope] at hadmin howner
    obtain rfl : o = g.organization := howner
    rintro (rfl | ⟨-, hnone⟩)
    · exact h.onProject c hc ho hp hadmin
    · cases hnone

end Session

/-- What a barred session may bring about spares the organization. -/
theorem Effect.spares {σ : Session} {e : Effect} (hs : s.Orderly) (hσ : σ.Barred s O)
    (hproper : e.Proper s) (hgenuine : e.Genuine s) (hentitled : σ.EntitledTo s e) :
    s.Spares O (e.on s) := by
  have hrefl := Store.Spares.refl s O
  cases e with
  | grantAdded g =>
    refine { hrefl with grants := fun g' hg' => ?_ }
    have hne : g' ≠ g := by
      rintro rfl
      exact hσ.not_spared hproper hentitled hg'
    rw [on, Store.addGrant, mem_insertNew]
    exact or_iff_left hne
  | grantRemoved g =>
    refine { hrefl with grants := fun g' hg' => ?_ }
    have hne : g' ≠ g := by
      rintro rfl
      exact hσ.not_spared hproper hentitled hg'
    rw [on, Store.removeGrant, mem_removeAll]
    exact and_iff_left hne
  | memberAdded group user =>
    refine { hrefl with members := fun group' user' hrows => ?_ }
    obtain ⟨-, row, hrow, hid, hadmin⟩ := hentitled
    have hne : (group', user') ≠ (group, user) := by
      intro heq
      obtain ⟨rfl, -⟩ := Prod.mk.inj heq
      exact hσ.not_administers_organization (hrows row hrow hid) hadmin
    rw [on, Store.addMember, mem_insertNew]
    exact or_iff_left hne
  | templateAdded tpl =>
    refine { hrefl with templates := fun tpl' ho => ?_ }
    have hne : tpl' ≠ tpl := by
      rintro rfl
      exact hσ.not_administers_organization (.inl ho) hentitled.2
    have htemplates : ((templateAdded tpl).on s).templates = s.templates ++ [tpl] :=
      replaceOrAdd_of_forall_ne hgenuine
    rw [htemplates, List.mem_append, List.mem_singleton]
    exact or_iff_left hne
  | templateGrantRemoved given =>
    refine { hrefl with templateGrants := fun tpl htpl ho given' hgiven => ?_ }
    obtain ⟨-, tpl', htpl', huuid, hadmin⟩ := hentitled
    have hne : given' ≠ given := by
      rintro rfl
      obtain rfl := List.inj_on_of_nodup_map hs.keyed.templates htpl htpl'
        (hgiven.symm.trans huuid.symm)
      exact hσ.not_administers_organization (.inl ho) hadmin
    rw [on, Store.removeTemplateGrant, mem_removeAll]
    exact and_iff_left hne
  | rootCleared login =>
    have husers : ((rootCleared login).on s).users.map User.plain = s.users.map User.plain :=
      map_modifyFirst (f := ({ · with root := false })) (fun _ => rfl) s.users
    exact { hrefl with users := husers }

namespace Service

/-- A grant that a change asks for is kept by the organization that it is about. -/
theorem grounds_ofProject? {o : String} {holder : Holder} {p : Permission}
    {project? : Option Component}
    (hgroup : ∀ id, holder = .group id → ∃ row ∈ s.groups, row.id = id ∧ row.organization = o)
    (hproject : ∀ c, project? = some c →
      c ∈ s.components ∧ c.organization = o ∧ c.carriesPermissions = true) :
    s.Grounds ⟨o, holder, p, .ofProject? o (project?.map (·.uuid))⟩ where
  owner := Scope.owner_ofProject? _ _
  group := hgroup
  project uuid huuid := by
    rw [Scope.project?_ofProject?] at huuid
    obtain ⟨c, hc, rfl⟩ := Option.map_eq_some_iff.mp huuid
    obtain ⟨hmem, ho, hp⟩ := hproject c hc
    exact ⟨c, hmem, rfl, ho, hp⟩

theorem proper_of_effect? {operation : Operation} {g : Grant} {e : Effect}
    (he : operation.effect? g = some e) (hg : s.Grounds g) : e.Proper s := by
  cases operation with
  | add =>
    obtain rfl : Effect.grantAdded g = e := Option.some.inj he
    exact hg
  | remove =>
    obtain rfl : Effect.grantRemoved g = e := Option.some.inj he
    exact hg
  | other name => cases he

/-- What commands ask for names what is stored. -/
theorem Command.AsksFor.proper {c : Command} {e : Effect} (h : c.AsksFor s e) : e.Proper s := by
  cases c with
  | changeUserPermission operation login permission projectId? projectKey? organizationKey? =>
    obtain ⟨u, project?, organization, -, hleads, howner, he⟩ := h
    refine proper_of_effect? he (grounds_ofProject? nofun ?_)
    rintro project rfl
    obtain ⟨hc, hp⟩ := Store.mem_of_projectOf? hleads
    exact ⟨hc, howner, hp⟩
  | changeGroupPermission operation permission groupId? groupName? projectId? projectKey?
      organizationKey? =>
    obtain ⟨o, group?, project?, hgroup, hleads, hsame, he⟩ := h
    refine proper_of_effect? he (grounds_ofProject? ?_ ?_)
    · intro id hid
      cases group? with
      | none => cases hid
      | some row =>
        obtain ⟨hrow, ho⟩ := Store.mem_of_groupOf? hgroup
        exact ⟨row, hrow, Holder.group.inj hid, ho⟩
    · rintro project rfl
      obtain ⟨hc, hp⟩ := Store.mem_of_projectOf? hleads
      exact ⟨hc, hsame project rfl, hp⟩
  | createTemplate name description? keyPattern? organizationKey? =>
    obtain ⟨o, at?, -, rfl⟩ := h
    rfl
  | removeUserFromTemplate login permission templateId? templateName? organizationKey? =>
    obtain ⟨u, tpl, -, -, rfl⟩ := h
    trivial
  | addUserToGroup login groupId? groupName? organizationKey? =>
    obtain ⟨u, o, g, -, -, rfl⟩ := h
    trivial
  | unsetRoot login? =>
    obtain ⟨login, -, rfl⟩ := h
    trivial
  | templateGroups => exact h.elim
  | searchGroups => exact h.elim
  | searchMyProjects => exact h.elim

/-- A command of a barred session leaves the store in order and spares the organization. -/
theorem Command.Leaves.spares {c : Command} {σ : Session} (h : c.Leaves σ s t) (hs : s.Orderly)
    (hσ : σ.Barred s O) : t.Orderly ∧ s.Spares O t := by
  rcases h with hsame | ⟨e, hask, hgenuine, hentitled, hsame⟩
  · exact ⟨hs.of_sameData hsame, .of_sameData hsame⟩
  · have horderly : (e.on s).Orderly := hs.on hask.proper
    have hspares : s.Spares O (e.on s) := e.spares hs hσ hask.proper hgenuine hentitled
    exact ⟨horderly.of_sameData hsame, hspares.trans (.of_sameData hsame)⟩

end Service

/-- Whoever signs in is one of the principals. -/
def Move.By (P : Option String → Prop) : Move → Prop
  | .signIn login? => P login?
  | .call .. => True

/-- What is stored of an organization is the same: its grants, the members of its groups, its
templates and what they give. So is what each user and each visitor holds there. -/
structure Store.SameWithin (s : Store) (organization : String) (t : Store) : Prop where
  grants : ∀ g, g.organization = organization → (g ∈ t.grants ↔ g ∈ s.grants)
  members : ∀ row ∈ s.groups, row.organization = organization →
    ∀ user, ((row.id, user) ∈ t.members ↔ (row.id, user) ∈ s.members)
  templates : ∀ tpl, tpl.organization = organization → (tpl ∈ t.templates ↔ tpl ∈ s.templates)
  templateGrants : ∀ tpl ∈ s.templates, tpl.organization = organization →
    ∀ given, given.template = tpl.uuid → (given ∈ t.templateGrants ↔ given ∈ s.templateGrants)
  callers : ∀ login?, t.callerId? login? = s.callerId? login?
  overall : ∀ user? p,
    t.Holds user? p (.organization organization) ↔ s.Holds user? p (.organization organization)
  onProjects : ∀ c ∈ s.components, c.organization = organization → ∀ user? p,
    t.Holds user? p (.project c.uuid organization) ↔ s.Holds user? p (.project c.uuid organization)

theorem Store.Spares.sameWithin (h : s.Spares O t) (hs : s.Orderly) (ht : t.WellFormed) :
    s.SameWithin O t where
  grants g hg := h.grants g (.inl hg)
  members row hrow ho user := by
    refine h.members row.id user fun row' hrow' hid => .inl ?_
    rw [List.inj_on_of_nodup_map hs.keyed.groups hrow' hrow hid, ho]
  templates := h.templates
  templateGrants := h.templateGrants
  callers := h.callerId?
  overall _ _ := h.holds_organization_iff hs.wellFormed ht (.refl s O)
  onProjects _ hc ho _ _ := h.holds_project_iff hs.wellFormed ht hc ho

namespace World

/-- The world has spared an organization so far, and will go on to do so: all of its sessions are
those of outsiders. -/
structure Sealed (s : Store) (organization : String) (w : World) : Prop where
  orderly : w.store.Orderly
  spares : s.Spares organization w.store
  barred : ∀ σ ∈ w.sessions, σ.Barred w.store organization

/-- No move of outsiders breaks the seal. -/
theorem Sealed.step {w : World} (h : w.Sealed s O) (hs : s.WellFormed) {m : Move}
    (hm : m.By fun login? => s.Outsider (s.callerId? login?) O) : (w.step m).Sealed s O := by
  obtain ⟨horderly, hspares, hbarred⟩ := h
  cases m with
  | signIn login? =>
    obtain ⟨hsame, hsessions⟩ := w.step_signIn login?
    have horderly' := horderly.of_sameData hsame
    have hspares' : w.store.Spares O (w.step (.signIn login?)).store := .of_sameData hsame
    refine ⟨horderly', hspares.trans hspares', fun τ hτ => ?_⟩
    refine Session.Barred.of_spares ?_ hspares' horderly.wellFormed horderly'.wellFormed
    rcases hsessions τ hτ with hτ | rfl
    · exact hbarred τ hτ
    · have hout : w.store.Outsider (w.store.callerId? login?) O := by
        rw [hspares.callerId? login?]
        exact hspares.outsider hs horderly.wellFormed hm
      have hid : (Session.ofUser? (w.store.caller? login?)).principal.id? =
          w.store.callerId? login? := by
        rw [Store.callerId?]
        cases w.store.caller? login? <;> rfl
      exact Store.Outsider.barred (hid ▸ hout) rfl
  | call session c =>
    have hfresh : w.store.NextUuidFresh := horderly.freshUuids _ (Nat.lt_succ_self _)
    rcases w.step_call hfresh session c with hsame | ⟨σ, hσ, hleaves, hsessions⟩
    · rw [hsame]
      exact ⟨horderly, hspares, hbarred⟩
    · obtain ⟨horderly', hspares'⟩ := hleaves.spares horderly (hbarred σ hσ)
      refine ⟨horderly', hspares.trans hspares', fun τ hτ => ?_⟩
      refine Session.Barred.of_spares ?_ hspares' horderly.wellFormed horderly'.wellFormed
      rcases hsessions τ hτ with hτ | hlearned
      · exact hbarred τ hτ
      · exact (hbarred σ hσ).learned hlearned

theorem Sealed.run {w : World} (h : w.Sealed s O) (hs : s.WellFormed) {moves : List Move}
    (hmoves : ∀ m ∈ moves, m.By fun login? => s.Outsider (s.callerId? login?) O) :
    (w.run moves).Sealed s O := by
  induction moves generalizing w with
  | nil => exact h
  | cons m rest ih =>
    exact ih (h.step hs (hmoves m List.mem_cons_self))
      fun m' hm' => hmoves m' (List.mem_cons_of_mem m hm')

/-- Whatever outsiders do, nothing of the organization changes, and nobody has more or less there
than before. -/
theorem run_sameWithin (hkeyed : s.Keyed) (hformed : s.WellFormed) (hfresh : s.FreshUuids)
    {P : Option String → Prop}
    (hP : ∀ login?, P login? → s.Outsider (s.callerId? login?) O) {moves : List Move}
    (hmoves : ∀ m ∈ moves, m.By P) : s.SameWithin O (run ⟨s, []⟩ moves).store := by
  have hs : s.Orderly := ⟨hkeyed, hformed, hfresh⟩
  have hby : ∀ m ∈ moves, m.By fun login? => s.Outsider (s.callerId? login?) O := by
    intro m hm
    cases m with
    | signIn login? => exact hP login? (hmoves _ hm)
    | call => trivial
  have hstart : Sealed s O ⟨s, []⟩ := ⟨hs, .refl s O, nofun⟩
  have hend := hstart.run hformed hby
  exact hend.spares.sameWithin hs hend.orderly.wellFormed

/-- The sample with one more grant, by which `alice` administers the other organization. -/
def sampleNeighbour (around : Surroundings) : Store :=
  let g : Grant :=
    ⟨Store.sampleOther, .user 2 "alice", Permission.administer, .organization Store.sampleOther⟩
  { Store.sample around with grants := (Store.sample around).grants ++ [g] }

/-- The default organization of the sample is closed to the administrator of the other one. -/
theorem run_sameWithin_neighbour :
    let s := sampleNeighbour default
    let P : Option String → Prop := (· = some "alice")
    (s.Keyed ∧ s.WellFormed ∧ s.FreshUuids ∧
        ∀ login?, P login? → s.Outsider (s.callerId? login?) Store.sampleDefault) ∧
      ∀ moves, (∀ m ∈ moves, m.By P) →
        s.SameWithin Store.sampleDefault (run ⟨s, []⟩ moves).store := by
  intro s P
  have hkeyed : s.Keyed := ⟨by decide, by decide, by decide⟩
  have hformed : s.WellFormed := by
    intro g hg
    rcases List.mem_cons.mp hg with rfl | hg
    · exact ⟨rfl, nofun, nofun⟩
    · obtain rfl := List.mem_singleton.mp hg
      exact ⟨rfl, nofun, nofun⟩
  have hfresh : s.FreshUuids := nofun
  have hnot (scope : Scope) (ho : scope.owner = Store.sampleDefault) :
      ¬ s.Holds (some 2) Permission.administer scope := by
    rintro ⟨g, hg, hm, -, hr⟩
    rcases List.mem_cons.mp hg with rfl | hg
    · exact absurd hm (by decide)
    · obtain rfl := List.mem_singleton.mp hg
      have hother : Store.sampleOther ≠ Store.sampleDefault := by decide
      cases scope with
      | organization o => exact hother (hr.2.trans ho)
      | project uuid o =>
        rcases hr with ⟨-, hr⟩ | hr
        · exact hother (hr.trans ho)
        · cases hr
  have hP : ∀ login?, P login? → s.Outsider (s.callerId? login?) Store.sampleDefault := by
    rintro login? rfl
    have hid : s.callerId? (some "alice") = some 2 := by decide
    rw [hid]
    refine ⟨fun o ho => hnot _ ?_, fun c _ _ _ => hnot _ rfl⟩
    rcases ho with rfl | ⟨hempty, -⟩
    · rfl
    · exact absurd hempty (by decide)
  exact ⟨⟨hkeyed, hformed, hfresh, hP⟩,
    fun moves hmoves => run_sameWithin hkeyed hformed hfresh hP hmoves⟩

/-- An organization without an identifier is not closed to the administrator of the default
organization, who is an outsider there: `root` signs in and adds a grant of it. -/
theorem grant_added_by_outsider :
    let s := Service.sampleNameless default
    let g : Grant := ⟨"", .user 2 "alice", "scan", .organization ""⟩
    let moves := [.signIn (some "root"),
      .call 0 (.changeUserPermission .add "alice" "scan" none none (some "nameless"))]
    (s.Keyed ∧ s.WellFormed ∧ s.FreshUuids) ∧
      ¬ s.Holds (s.callerId? (some "root")) Permission.administer (.organization "") ∧
      (∀ c ∈ s.components, c.organization ≠ "") ∧
      (∀ m ∈ moves, m.By (· = some "root")) ∧
      g ∉ s.grants ∧ g ∈ (run ⟨s, []⟩ moves).store.grants := by
  intro s g moves
  refine ⟨⟨?_, ?_, nofun⟩, ?_, by decide, ?_, by decide, by decide⟩
  · exact ⟨by decide, by decide, by decide⟩
  · intro g hg
    obtain rfl := List.mem_singleton.mp hg
    exact ⟨rfl, nofun, nofun⟩
  · rintro ⟨g, hg, -, -, hr⟩
    obtain rfl := List.mem_singleton.mp hg
    exact absurd hr.2 (by decide)
  · intro m hm
    rcases List.mem_cons.mp hm with rfl | hm
    · rfl
    · obtain rfl := List.mem_singleton.mp hm
      trivial

end World

end Entitlements
