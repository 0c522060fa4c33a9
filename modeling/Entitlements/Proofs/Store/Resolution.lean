import Entitlements.Proofs.Store.Reading

/-!
# What references stand for

Users, organizations, projects, groups and templates are named in requests by login, key, name or
identifier. What a reference stands for is read off the store, and a lookup that ends well has
found just that. A lookup that fails has changed nothing either.
-/

namespace Entitlements

namespace Store

/-- The active user of a login. -/
def activeUser? (s : Store) (login : String) : Option User :=
  (s.userByLogin? login).filter (·.active)

/-- The account behind a login: of the active user who has it, and none for visitors. -/
def caller? (s : Store) (login? : Option String) : Option User :=
  (given? login?).bind s.activeUser?

/-- The identifier behind a login, where it is that of an active user. -/
def callerId? (s : Store) (login? : Option String) : Option Int := (s.caller? login?).map (·.id)

/-- The organization of a key, or the default organization where no key is given. -/
def organizationOf? (s : Store) (key? : Option String) : Option Organization :=
  match given? key? with
  | none => s.defaultOrganization.toOption
  | some key => s.organizations.find? (·.key == key)

/-- The project that is given either by identifier or by key. -/
def projectOf? (s : Store) (id? key? : Option String) : Option Component :=
  match given? id?, given? key? with
  | some id, none => (s.components.find? (·.uuid == id)).filter (·.carriesPermissions)
  | none, some key => (s.components.find? (·.key == key)).filter (·.carriesPermissions)
  | _, _ => none

/-- The references lead to the project, or there are none and to no project. -/
def LeadsTo (s : Store) (id? key? : Option String) : Option Component → Prop
  | some c => s.projectOf? id? key? = some c
  | none => given? id? = none ∧ given? key? = none

/-- The organization is that of the project, or the one named where no project is given. -/
def IsOwner (s : Store) (organizationKey? : Option String) (organization : String) :
    Option Component → Prop
  | some project => project.organization = organization
  | none => ∃ o, s.organizationOf? organizationKey? = some o ∧ o.uuid = organization

/-- The group that is given either by identifier or by name in an organization, and its
organization. There is no group where the name stands for everyone. -/
def groupOf? (s : Store) (organizationKey? : Option String) (id? : Option Int)
    (name? : Option String) : Option (Organization × Option Group) :=
  match id?, given? name? with
  | some id, none => do
    let g ← s.groups.find? (·.id == id)
    let o ← s.organizations.find? (·.uuid == g.organization)
    return (o, some g)
  | none, some name => do
    let o ← s.organizationOf? organizationKey?
    if Holder.isAnyoneName name then return (o, none)
    else
      let g ← s.groups.find? fun g => g.organization == o.uuid && g.name == name
      return (o, some g)
  | _, _ => none

/-- The template that is given either by identifier or by name in an organization. -/
def templateOf? (s : Store) (id? name? organizationKey? : Option String) : Option Template :=
  match given? id?, given? name? with
  | some id, none => s.templates.find? (·.uuid == id)
  | none, some name => do
    let o ← s.organizationOf? organizationKey?
    s.templateByName? o.uuid name
  | _, _ => none

variable {s : Store}

/-- A user that is found is stored. -/
theorem mem_of_activeUser? {login : String} {u : User} (h : s.activeUser? login = some u) :
    u ∈ s.users := by
  obtain ⟨hu, -⟩ := Option.filter_eq_some_iff.mp h
  exact List.mem_of_find?_eq_some hu

/-- A project that is found is stored and carries permissions. -/
theorem mem_of_projectOf? {id? key? : Option String} {c : Component}
    (h : s.projectOf? id? key? = some c) : c ∈ s.components ∧ c.carriesPermissions = true := by
  unfold projectOf? at h
  split at h
  · obtain ⟨hc, hp⟩ := Option.filter_eq_some_iff.mp h
    exact ⟨List.mem_of_find?_eq_some hc, hp⟩
  · obtain ⟨hc, hp⟩ := Option.filter_eq_some_iff.mp h
    exact ⟨List.mem_of_find?_eq_some hc, hp⟩
  · cases h

/-- A group that is found is stored and belongs to the organization found with it. -/
theorem mem_of_groupOf? {organizationKey? : Option String} {id? : Option Int}
    {name? : Option String} {o : Organization} {g : Group}
    (h : s.groupOf? organizationKey? id? name? = some (o, some g)) :
    g ∈ s.groups ∧ g.organization = o.uuid := by
  unfold groupOf? at h
  split at h
  · simp only [Option.bind_eq_bind, Option.bind_eq_some_iff, Option.pure_def, Option.some.injEq,
      Prod.mk.injEq] at h
    obtain ⟨g', hg, o', ho, rfl, rfl⟩ := h
    have huuid := List.find?_some ho
    exact ⟨List.mem_of_find?_eq_some hg, (beq_iff_eq.mp huuid).symm⟩
  · simp only [Option.bind_eq_bind, Option.bind_eq_some_iff, Option.pure_def] at h
    obtain ⟨o', -, h⟩ := h
    split at h
    · simp at h
    · simp only [Option.bind_eq_some_iff, Option.some.injEq, Prod.mk.injEq] at h
      obtain ⟨g', hg, rfl, rfl⟩ := h
      have hname := List.find?_some hg
      simp only [Bool.and_eq_true, beq_iff_eq] at hname
      exact ⟨List.mem_of_find?_eq_some hg, hname.1⟩
  · cases h

/-- A template that is found is stored. -/
theorem mem_of_templateOf? {id? name? organizationKey? : Option String} {t : Template}
    (h : s.templateOf? id? name? organizationKey? = some t) : t ∈ s.templates := by
  unfold templateOf? at h
  split at h
  · exact List.mem_of_find?_eq_some h
  · obtain ⟨o, -, ht⟩ := Option.bind_eq_some_iff.mp h
    exact List.mem_of_find?_eq_some ht
  · cases h

end Store

namespace Lookup

variable {α : Type} {s t : Store} {err : Fault → Store → Prop}

theorem orNotFound_ensures {subject : String} {key : Json.Value} {a? : Option α}
    {ok : α → Store → Prop} (hok : ∀ a, a? = some a → ok a t) (herr : ∀ f, err f t) :
    Work.Ensures Store.setting (orNotFound subject key a?) t ok err := by
  cases a? with
  | none => exact herr _
  | some a => exact hok a rfl

/-- A user that is found is active and has the login. -/
theorem user_ensures {login : String} {ok : Int × String → Store → Prop} (ht : s.Untouched t)
    (hok : ∀ u, s.activeUser? login = some u → ok (u.id, u.login) t) (herr : ∀ f, err f t) :
    Work.Ensures Store.setting (user login) t ok err := by
  unfold user
  rw [Work.ensures_bind]
  refine Work.ensures_read ht trivial (fun found hfound => ?_) herr
  obtain rfl : s.userByLogin? login = found := Except.ok.inj hfound
  rw [Work.ensures_bind]
  exact orNotFound_ensures (fun u hu => hok u hu) herr

theorem organization_ensures {key? : Option String} {ok : Organization → Store → Prop}
    (ht : s.Untouched t) (hok : ∀ o, s.organizationOf? key? = some o → ok o t)
    (herr : ∀ f, err f t) : Work.Ensures Store.setting (organization key?) t ok err := by
  unfold organization
  unfold Store.organizationOf? at hok
  cases hkey : given? key? with
  | none =>
    rw [hkey] at hok
    refine Work.ensures_read ht trivial (fun o ho => hok o ?_) herr
    have hdefault : s.defaultOrganization = .ok o := ho
    simp [hdefault, Except.toOption]
  | some key =>
    rw [hkey] at hok
    dsimp only
    rw [Work.ensures_bind]
    refine Work.ensures_read ht trivial (fun found hfound => ?_) herr
    obtain rfl : s.organizations.find? (·.key == key) = found := Except.ok.inj hfound
    exact orNotFound_ensures hok herr

theorem projectOnly_ensures {c : Component} {ok : Component → Store → Prop}
    (hok : c.carriesPermissions = true → ok c t) (herr : ∀ f, err f t) :
    Work.Ensures Store.setting (projectOnly c) t ok err := by
  unfold projectOnly
  by_cases h : c.carriesPermissions = true
  · rw [if_pos h]
    exact hok h
  · rw [if_neg h]
    exact herr _

/-- The component of either reference has to be there and to carry permissions. -/
private theorem project_ensures {subject : String} {key : Json.Value} {found : Option Component}
    {ok : Option Component → Store → Prop}
    (hok : ∀ c, found.filter (·.carriesPermissions) = some c → ok (some c) t)
    (herr : ∀ f, err f t) :
    Work.Ensures Store.setting (do
      let c ← orNotFound subject key found
      return some (← projectOnly c)) t ok err := by
  rw [Work.ensures_bind]
  refine orNotFound_ensures (fun c hc => ?_) herr
  rw [Work.ensures_bind]
  refine projectOnly_ensures (fun hp => hok c ?_) herr
  rw [hc, Option.filter_some_pos hp]

theorem project?_ensures {id? key? : Option String} {ok : Option Component → Store → Prop}
    (ht : s.Untouched t) (hok : ∀ c?, s.LeadsTo id? key? c? → ok c? t) (herr : ∀ f, err f t) :
    Work.Ensures Store.setting (project? id? key?) t ok err := by
  unfold project?
  cases hid : given? id? with
  | none =>
    cases hkey : given? key? with
    | none => exact hok none ⟨hid, hkey⟩
    | some key =>
      dsimp only
      rw [Work.ensures_bind]
      refine Work.ensures_read ht trivial (fun found hfound => ?_) herr
      obtain rfl : s.components.find? (·.key == key) = found := Except.ok.inj hfound
      refine project_ensures (fun c hc => hok (some c) ?_) herr
      simpa only [Store.LeadsTo, Store.projectOf?, hid, hkey] using hc
  | some id =>
    cases hkey : given? key? with
    | some key => exact herr _
    | none =>
      dsimp only
      rw [Work.ensures_bind]
      refine Work.ensures_read ht trivial (fun found hfound => ?_) herr
      obtain rfl : s.components.find? (·.uuid == id) = found := Except.ok.inj hfound
      refine project_ensures (fun c hc => hok (some c) ?_) herr
      simpa only [Store.LeadsTo, Store.projectOf?, hid, hkey] using hc

theorem group_ensures {organizationKey? : Option String} {id? : Option Int}
    {name? : Option String} {ok : Organization × Option Int → Store → Prop} (ht : s.Untouched t)
    (hok : ∀ o g?, s.groupOf? organizationKey? id? name? = some (o, g?) →
      ok (o, g?.map (·.id)) t) (herr : ∀ f, err f t) :
    Work.Ensures Store.setting (group organizationKey? id? name?) t ok err := by
  unfold group
  cases id? with
  | none =>
    cases hname : given? name? with
    | none => exact herr _
    | some name =>
      dsimp only
      rw [Work.ensures_bind]
      refine organization_ensures ht (fun o ho => ?_) herr
      by_cases hany : Holder.isAnyoneName name = true
      · rw [if_pos hany]
        refine hok o none ?_
        simp [Store.groupOf?, hname, ho, hany]
      · rw [if_neg hany, Work.ensures_bind]
        refine Work.ensures_read ht trivial (fun found hfound => ?_) herr
        obtain rfl : (s.groups.find? fun g => g.organization == o.uuid && g.name == name) = found :=
          Except.ok.inj hfound
        rw [Work.ensures_bind]
        refine orNotFound_ensures (fun g hg => hok o (some g) ?_) herr
        simp [Store.groupOf?, hname, ho, hany, hg]
  | some id =>
    cases hname : given? name? with
    | some name => exact herr _
    | none =>
      dsimp only
      rw [Work.ensures_bind]
      refine Work.ensures_read ht trivial (fun found hfound => ?_) herr
      obtain rfl : s.groups.find? (·.id == id) = found := Except.ok.inj hfound
      rw [Work.ensures_bind]
      refine orNotFound_ensures (fun g hg => ?_) herr
      rw [Work.ensures_bind]
      refine Work.ensures_read ht trivial (fun found hfound => ?_) herr
      obtain rfl : s.organizations.find? (·.uuid == g.organization) = found :=
        Except.ok.inj hfound
      rw [Work.ensures_bind]
      refine orNotFound_ensures (fun o ho => hok o (some g) ?_) herr
      simp [Store.groupOf?, hname, hg, ho]

theorem template_ensures {id? name? organizationKey? : Option String}
    {ok : Template → Store → Prop} (ht : s.Untouched t)
    (hok : ∀ tpl, s.templateOf? id? name? organizationKey? = some tpl → ok tpl t)
    (herr : ∀ f, err f t) :
    Work.Ensures Store.setting (template id? name? organizationKey?) t ok err := by
  unfold template
  unfold Store.templateOf? at hok
  cases hid : given? id? with
  | none =>
    cases hname : given? name? with
    | none => exact herr _
    | some name =>
      simp only [hid, hname] at hok
      dsimp only
      rw [Work.ensures_bind]
      refine organization_ensures ht (fun o ho => ?_) herr
      rw [Work.ensures_bind]
      refine Work.ensures_read ht trivial (fun found hfound => ?_) herr
      obtain rfl : s.templateByName? o.uuid name = found := Except.ok.inj hfound
      refine orNotFound_ensures (fun tpl htpl => hok tpl ?_) herr
      rw [ho]
      exact htpl
  | some id =>
    cases hname : given? name? with
    | some name => exact herr _
    | none =>
      simp only [hid, hname] at hok
      dsimp only
      rw [Work.ensures_bind]
      refine Work.ensures_read ht trivial (fun found hfound => ?_) herr
      obtain rfl : s.templates.find? (·.uuid == id) = found := Except.ok.inj hfound
      exact orNotFound_ensures hok herr

/-- An organization that a reference leads to is found. -/
theorem organization_finds {key? : Option String} {o : Organization}
    {ok : Organization → Store → Prop} (ht : s.Untouched t)
    (ho : s.organizationOf? key? = some o) (hok : ok o t) :
    Work.Ensures Store.setting (organization key?) t ok err := by
  unfold organization
  unfold Store.organizationOf? at ho
  cases hkey : given? key? with
  | none =>
    rw [hkey] at ho
    have hreads : Query.Reads .defaultOrganization := trivial
    have hanswer : (s.answer .defaultOrganization).1 = s.defaultOrganization := rfl
    dsimp only
    rw [Work.ensures_read_iff ht hreads, hanswer]
    cases hdefault : s.defaultOrganization with
    | error f => simp [hdefault, Except.toOption] at ho
    | ok o' =>
      obtain rfl : o' = o := by simpa [hdefault, Except.toOption] using ho
      exact hok
  | some key =>
    rw [hkey] at ho
    have hreads : Query.Reads (.organizationByKey key) := trivial
    have hanswer : (s.answer (.organizationByKey key)).1 = .ok (some o) := congrArg Except.ok ho
    dsimp only
    rw [Work.ensures_bind, Work.ensures_read_iff ht hreads, hanswer]
    exact hok

/-- A template that a reference leads to is found. -/
theorem template_finds {id? name? organizationKey? : Option String} {tpl : Template}
    {ok : Template → Store → Prop} (ht : s.Untouched t)
    (htpl : s.templateOf? id? name? organizationKey? = some tpl) (hok : ok tpl t) :
    Work.Ensures Store.setting (template id? name? organizationKey?) t ok err := by
  unfold template
  unfold Store.templateOf? at htpl
  cases hid : given? id? with
  | none =>
    cases hname : given? name? with
    | none => simp [hid, hname] at htpl
    | some name =>
      simp only [hid, hname, Option.bind_eq_bind, Option.bind_eq_some_iff] at htpl
      obtain ⟨o, ho, htpl⟩ := htpl
      have hreads : Query.Reads (.templateByName o.uuid name) := trivial
      have hanswer : (s.answer (.templateByName o.uuid name)).1 = .ok (some tpl) :=
        congrArg Except.ok htpl
      dsimp only
      rw [Work.ensures_bind]
      refine organization_finds ht ho ?_
      rw [Work.ensures_bind, Work.ensures_read_iff ht hreads, hanswer]
      exact hok
  | some id =>
    cases hname : given? name? with
    | some name => simp [hid, hname] at htpl
    | none =>
      simp only [hid, hname] at htpl
      have hreads : Query.Reads (.templateByUuid id) := trivial
      have hanswer : (s.answer (.templateByUuid id)).1 = .ok (some tpl) := congrArg Except.ok htpl
      dsimp only
      rw [Work.ensures_bind, Work.ensures_read_iff ht hreads, hanswer]
      exact hok

end Lookup

end Entitlements
