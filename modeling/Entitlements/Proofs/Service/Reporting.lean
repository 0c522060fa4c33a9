import Entitlements.Proofs.Service.Reports

/-!
# Reports of commands

Commands about templates, groups and root users report after their unit of work, which was completed
by then. Commands that change a permission report within it; they make a single change each, and
nothing of them can be refused after it is reported.
-/

namespace Entitlements

variable {α β : Type} {u : Nat} {b g : Books} {e : Event} {q : Query}

open Books

namespace Acting

variable {σ : Session} {ok : α → Session → Books → Prop} {err : Fault → Session → Books → Prop}

/-- A write is entered with the unit that carries it. -/
theorem write_ensures_books (hb : b.Calm g) (hu : b.pending.head? = some u)
    (hq : q.isWrite = true) :
    Ensures .books (Query.ask q) σ g
      (fun x _ g' => b.Follows g' ∧ g'.last? = some (u, ⟨q, .ok x⟩)) fun _ _ g' => b.Follows g' := by
  rw [ensures_query]
  refine ⟨trivial, ?_⟩
  rintro x _ rfl
  have hfollows : b.Follows (g.after (.query q) x) := hb.toFollows.trans (follows_after_query q x)
  cases x with
  | error f => exact hfollows
  | ok x =>
    refine ⟨hfollows, ?_⟩
    rw [after_query, hq, if_pos rfl, hb.pending, hu]
    rfl

/-- What is said in the log of the last write is borne out where its unit was completed. -/
theorem record_ensures_books {asked : Asked} (hg : g.Sound) (hlast : g.last? = some (u, asked))
    (he : e.Reports asked) (hu : u ∈ g.completed) :
    Ensures .books e.record σ g (fun _ _ => Sound) err := by
  rw [ensures_record]
  refine ⟨trivial, ?_⟩
  rintro _ _ rfl
  exact hg.report hlast he hu

/-- After a unit of work that reports nothing, what was written in it may be reported. -/
theorem transaction_ensures_books {a : Acting α} {k : α → Acting β}
    {P : α → Option (Nat × Asked) → Prop} (hb : b.Sound)
    (ha : Ensures .books a σ (b.after .begin ())
      (fun x _ g => (b.after .begin ()).Follows g ∧ P x g.last?)
      fun _ _ g => (b.after .begin ()).Follows g)
    (hk : ∀ x τ g, g.Sound → b.begun ∈ g.completed → P x g.last? →
      Ensures .books (k x) τ g (fun _ _ => Sound) fun _ _ => Sound) :
    Ensures .books (transaction a >>= k) σ b (fun _ _ => Sound) fun _ _ => Sound := by
  rw [ensures_bind, ensures_transaction]
  refine ⟨trivial, ?_⟩
  rintro _ _ rfl
  refine ha.mono (fun x τ g hg => ⟨trivial, ?_⟩) fun f τ g hg => ⟨trivial, ?_⟩
  · rintro (f | _) _ rfl
    · exact (hg.1.ended (.inl rfl)).1.sound hb
    · obtain ⟨hfollows, hlast⟩ := hg.1.ended (r := .complete) (a := .ok ()) (.inl rfl)
      refine hk x τ _ (hfollows.sound hb) ?_ (hlast ▸ hg.2)
      rw [completed_after_complete, hg.1.pending]
      exact List.mem_append_left _ (List.mem_singleton_self _)
  · rintro _ _ rfl
    exact (hg.ended (.inr ⟨f, rfl⟩)).1.sound hb

/-- What only reads leaves all reports borne out. -/
theorem Preserves.sound {a : Acting α} (h : Preserves .books b.Calm a) (hb : b.Sound) :
    Ensures .books a σ b (fun _ _ => Sound) fun _ _ => Sound :=
  (h σ b (.refl b)).mono (fun _ _ _ hg => hg.sound hb) fun _ _ _ hg => hg.sound hb

end Acting

namespace Service

variable {σ : Session}

theorem applyOne_ensures_books (c : Change) (hb : b.Sound) (hcompleted : b.completed ≠ []) :
    Acting.Ensures .books (applyOne c) σ b (fun _ _ => Sound) fun _ _ => Excusable := by
  unfold applyOne
  rw [Acting.ensures_bind]
  refine (Change.applyBatch_singleton_ensures_books c σ hb hcompleted).mono
    (fun outcomes _ g hg => ?_) fun _ _ _ h => h
  cases outcomes <;> exact hg

theorem changeUserPermission_ensures_books (operation : Operation) (login : String)
    (permission : Permission) (projectId? projectKey? organizationKey? : Option String)
    (hb : b.Sound) :
    Acting.Ensures .books
      (changeUserPermission operation login permission projectId? projectKey? organizationKey?) σ b
      (fun _ _ => Sound) fun _ _ => Excusable := by
  unfold changeUserPermission
  rw [Acting.ensures_bind, Acting.ensures_lift]
  refine (Work.reading_ensures_books ?_).mono (fun found g hg => ?_)
    fun _ g hg => (hg.sound hb).excusable
  · refine .bind (Lookup.user_makesOnly _) fun _ => .bind (Lookup.project?_makesOnly _ _)
      fun project? => ?_
    cases project? with
    | some project => exact .pure _
    | none => exact .bind (Lookup.organization_makesOnly _) fun _ => .pure _
  · obtain ⟨⟨id, login⟩, project?, organization⟩ := found
    dsimp only
    rw [Acting.ensures_bind, Acting.ensures_orRaise]
    cases permission.validate project?.isSome with
    | error r => exact (hg.1.sound hb).excusable
    | ok => exact applyOne_ensures_books _ (hg.1.sound hb) hg.2

theorem changeGroupPermission_ensures_books (operation : Operation) (permission : Permission)
    (groupId? : Option Int) (groupName? projectId? projectKey? organizationKey? : Option String)
    (hb : b.Sound) :
    Acting.Ensures .books
      (changeGroupPermission operation permission groupId? groupName? projectId? projectKey?
        organizationKey?) σ b (fun _ _ => Sound) fun _ _ => Excusable := by
  unfold changeGroupPermission
  rw [Acting.ensures_bind, Acting.ensures_lift]
  refine (Work.reading_ensures_books ?_).mono (fun found g hg => ?_)
    fun _ g hg => (hg.sound hb).excusable
  · exact .bind (Lookup.group_makesOnly _ _ _) fun _ => .bind (Lookup.project?_makesOnly _ _)
      fun _ => .pure _
  · obtain ⟨o, group?, project?⟩ := found
    dsimp only
    rw [Acting.ensures_bind, Acting.ensures_orRaise]
    cases permission.validate project?.isSome with
    | error r => exact (hg.1.sound hb).excusable
    | ok =>
      dsimp only
      rw [Acting.ensures_bind, Acting.ensures_orRaise]
      cases sameOrganization o project? with
      | error r => exact (hg.1.sound hb).excusable
      | ok => exact applyOne_ensures_books _ (hg.1.sound hb) hg.2

theorem createTemplate_ensures_books
    (name description? keyPattern? organizationKey? : Option String) (hb : b.Sound) :
    Acting.Ensures .books (createTemplate name description? keyPattern? organizationKey?) σ b
      (fun _ _ => Sound) fun _ _ => Sound := by
  unfold createTemplate
  generalize Text.trim (name.getD "") = trimmed
  refine Session.checkSignedIn_preserves.bind_ensures (Calm.refl b)
    (fun _ _ _ hg => hg.sound hb) fun _ τ g hg => ?_
  refine Acting.transaction_ensures_books (hg.sound hb)
    (P := fun tpl last? => last? = some (g.begun, ⟨.insertTemplate tpl, .ok ()⟩)) ?_
    fun tpl τ k hk hunit hlast => ?_
  · have hhosts := Setting.books_hosts 1 (g.after .begin ())
    have herr (f : Fault) (τ : Session) (k : Books) (hk : (g.after .begin ()).Calm k) :
        (g.after .begin ()).Follows k := hk.toFollows
    refine (Acting.Preserves.lift ((Lookup.organization_makesOnly _).hosted hhosts)).bind_ensures
      (.refl _) herr fun o τ k hk => ?_
    refine (Session.checkAdministers_hosted hhosts _).bind_ensures hk herr fun _ τ k hk => ?_
    dsimp only
    split
    · exact hk.toFollows
    · refine (Acting.Preserves.liftExcept _).bind_ensures hk herr fun _ τ k hk => ?_
      refine (Acting.Preserves.hosted_query (q := .templateByName o.uuid trimmed) trivial
        hhosts).bind_ensures hk herr fun found τ k hk => ?_
      split
      · exact hk.toFollows
      · rw [Acting.ensures_bind, Acting.ensures_ask]
        refine ⟨trivial, ?_⟩
        rintro now _ rfl
        rw [Acting.ensures_bind, Acting.ensures_ask]
        refine ⟨trivial, ?_⟩
        rintro uuid _ rfl
        rw [Acting.ensures_bind]
        exact Acting.write_ensures_books (b := g.after .begin ()) hk (head?_pending_after_begin g)
          rfl
  · rw [Acting.ensures_bind]
    exact Acting.record_ensures_books hk hlast ⟨tpl, rfl, rfl, rfl⟩ hunit

theorem removeUserFromTemplate_ensures_books (login : String) (permission : Permission)
    (templateId? templateName? organizationKey? : Option String) (hb : b.Sound) :
    Acting.Ensures .books
      (removeUserFromTemplate login permission templateId? templateName? organizationKey?) σ b
      (fun _ _ => Sound) fun _ _ => Sound := by
  unfold removeUserFromTemplate
  have hsound (f : Fault) (τ : Session) (g : Books) (hg : b.Calm g) : g.Sound := hg.sound hb
  refine Session.checkSignedIn_preserves.bind_ensures (Calm.refl b) hsound fun _ τ g hg => ?_
  refine (Acting.Preserves.orRaise _).bind_ensures hg hsound fun _ τ g hg => ?_
  refine Acting.transaction_ensures_books (hg.sound hb)
    (P := fun found last? => ∃ id, last? =
      some (g.begun, ⟨.deleteTemplateGrant found.1.uuid (.user id found.2) permission, .ok ()⟩)) ?_
    fun found τ k hk hunit hlast => ?_
  · have hhosts := Setting.books_hosts 1 (g.after .begin ())
    have herr (f : Fault) (τ : Session) (k : Books) (hk : (g.after .begin ()).Calm k) :
        (g.after .begin ()).Follows k := hk.toFollows
    refine (Acting.Preserves.lift ((Lookup.template_makesOnly _ _ _).hosted hhosts)).bind_ensures
      (.refl _) herr fun tpl τ k hk => ?_
    refine (Session.checkAdministers_hosted hhosts _).bind_ensures hk herr fun _ τ k hk => ?_
    refine (Acting.Preserves.lift ((Lookup.user_makesOnly _).hosted hhosts)).bind_ensures hk herr
      fun found τ k hk => ?_
    obtain ⟨id, login⟩ := found
    dsimp only
    rw [Acting.ensures_bind]
    exact (Acting.write_ensures_books hk (head?_pending_after_begin g) rfl).mono
      (fun _ _ _ hk => ⟨hk.1, id, hk.2⟩) fun _ _ _ hk => hk
  · obtain ⟨tpl, login⟩ := found
    obtain ⟨id, hlast⟩ := hlast
    exact Acting.record_ensures_books hk hlast ⟨id, rfl⟩ hunit

theorem addUserToGroup_ensures_books (login : String) (groupId? : Option Int)
    (groupName? organizationKey? : Option String) (hb : b.Sound) :
    Acting.Ensures .books (addUserToGroup login groupId? groupName? organizationKey?) σ b
      (fun _ _ => Sound) fun _ _ => Sound := by
  unfold addUserToGroup
  refine Session.checkSignedIn_preserves.bind_ensures (Calm.refl b)
    (fun _ _ _ hg => hg.sound hb) fun _ τ g hg => ?_
  refine Acting.transaction_ensures_books (hg.sound hb)
    (P := fun joined? last? => ∀ login group, joined? = some (login, group) → ∃ id, last? =
      some (g.begun, ⟨.addMember group id, .ok ()⟩)) ?_ fun joined? τ k hk hunit hlast => ?_
  · have hhosts := Setting.books_hosts 1 (g.after .begin ())
    have herr (f : Fault) (τ : Session) (k : Books) (hk : (g.after .begin ()).Calm k) :
        (g.after .begin ()).Follows k := hk.toFollows
    refine (Acting.Preserves.lift ((Lookup.group_makesOnly _ _ _).hosted hhosts)).bind_ensures
      (.refl _) herr fun found τ k hk => ?_
    obtain ⟨o, group?⟩ := found
    refine (Session.checkAdministers_hosted hhosts _).bind_ensures hk herr fun _ τ k hk => ?_
    cases group? with
    | none => exact hk.toFollows
    | some group =>
      refine (Acting.Preserves.lift ((Lookup.user_makesOnly _).hosted hhosts)).bind_ensures hk
        herr fun found τ k hk => ?_
      obtain ⟨id, login⟩ := found
      refine (Acting.Preserves.hosted_query (q := .isMember group id) trivial
        hhosts).bind_ensures hk herr fun known τ k hk => ?_
      cases known with
      | true => exact ⟨hk.toFollows, nofun⟩
      | false =>
        rw [if_neg Bool.false_ne_true, Acting.ensures_bind]
        refine (Acting.write_ensures_books hk (head?_pending_after_begin g) rfl).mono
          (fun _ _ _ hk => ⟨hk.1, ?_⟩) fun _ _ _ hk => hk
        rintro _ _ ⟨⟩
        exact ⟨id, hk.2⟩
  · rcases joined? with - | ⟨login, group⟩
    · exact hk
    · obtain ⟨id, hlast⟩ := hlast login group rfl
      dsimp only
      rw [Acting.ensures_bind]
      exact Acting.record_ensures_books hk hlast ⟨id, rfl⟩ hunit

theorem unsetRoot_ensures_books (login? : Option String) (hb : b.Sound) :
    Acting.Ensures .books (unsetRoot login?) σ b (fun _ _ => Sound) fun _ _ => Sound := by
  unfold unsetRoot Session.checkRoot
  rw [Acting.ensures_bind, Acting.ensures_bind, Acting.ensures_get, Acting.ensures_require]
  split
  next =>
    cases given? login? with
    | none => exact hb
    | some login =>
      refine Acting.transaction_ensures_books hb
        (P := fun changed last? => last? = some (b.begun, ⟨.setRoot login false, .ok changed⟩))
        (Acting.write_ensures_books (.refl _) (head?_pending_after_begin b) rfl)
        fun changed τ k hk hunit hlast => ?_
      cases changed with
      | false => exact hk
      | true =>
        rw [if_pos rfl, Acting.ensures_bind, Acting.ensures_get, Acting.ensures_bind]
        exact Acting.record_ensures_books hk hlast rfl hunit
  next => exact hb

/-- A command leaves the reports borne out, unless it changes permissions and cannot complete its
unit of work. -/
theorem Command.run_ensures_books (c : Command) (σ : Session) (hb : b.Sound) :
    Acting.Ensures .books c.run σ b (fun _ _ => Sound) fun _ _ => Excusable := by
  have hsound {a : Acting Reply}
      (h : Acting.Ensures .books a σ b (fun _ _ => Sound) fun _ _ => Sound) :
      Acting.Ensures .books a σ b (fun _ _ => Sound) fun _ _ => Excusable :=
    h.mono (fun _ _ _ h => h) fun _ _ _ h => h.excusable
  unfold run
  cases c with
  | changeUserPermission operation login permission projectId? projectKey? organizationKey? =>
    exact (Acting.ensures_map _ _).mpr (changeUserPermission_ensures_books _ _ _ _ _ _ hb)
  | changeGroupPermission operation permission groupId? groupName? projectId? projectKey?
      organizationKey? =>
    exact (Acting.ensures_map _ _).mpr (changeGroupPermission_ensures_books _ _ _ _ _ _ _ hb)
  | createTemplate name description? keyPattern? organizationKey? =>
    exact hsound ((Acting.ensures_map _ _).mpr (createTemplate_ensures_books _ _ _ _ hb))
  | removeUserFromTemplate login permission templateId? templateName? organizationKey? =>
    exact hsound ((Acting.ensures_bind _ _).mpr
      (removeUserFromTemplate_ensures_books _ _ _ _ _ hb))
  | templateGroups templateId? templateName? permission? query? page organizationKey? =>
    exact hsound ((templateGroups_hosted (Setting.books_hosts 2 b) _ _ _ _ _ _).map _ |>.sound hb)
  | addUserToGroup login groupId? groupName? organizationKey? =>
    exact hsound ((Acting.ensures_map _ _).mpr (addUserToGroup_ensures_books _ _ _ _ hb))
  | searchGroups query? page organizationKey? =>
    exact hsound ((searchGroups_hosted (Setting.books_hosts 1 b) _ _ _).map _ |>.sound hb)
  | searchMyProjects query? page =>
    exact hsound ((searchMyProjects_hosted (Setting.books_hosts 1 b) _ _).map _ |>.sound hb)
  | unsetRoot login? => exact hsound ((Acting.ensures_map _ _).mpr (unsetRoot_ensures_books _ hb))

end Service

end Entitlements
