import Entitlements.Proofs.Store.Reading

/-!
# Single effects

Everything that a command can do to a store comes down to one of six effects, each of which changes
one element: a grant, a membership, a template, what a template gives, or a root flag. An effect is
genuine where it really changes something.
-/

namespace Entitlements

/-- A change of a single element of a store. -/
inductive Effect where
  /-- A grant is added. -/
  | grantAdded (g : Grant)
  /-- A grant is dropped. -/
  | grantRemoved (g : Grant)
  /-- A user joins a group. -/
  | memberAdded (group user : Int)
  /-- A template is added, for which an identifier is given out. -/
  | templateAdded (tpl : Template)
  /-- A permission of a template is dropped. -/
  | templateGrantRemoved (g : TemplateGrant)
  /-- The first user of a login is no longer root. -/
  | rootCleared (login : String)

namespace Effect

/-- The store with the effect. -/
def on : Effect → Store → Store
  | grantAdded g, s => s.addGrant g
  | grantRemoved g, s => s.removeGrant g
  | memberAdded group user, s => s.addMember group user
  | templateAdded tpl, s => { s.addTemplate tpl with around := s.around.issue.2 }
  | templateGrantRemoved g, s => s.removeTemplateGrant g
  | rootCleared login, s =>
    { s with users := modifyFirst (·.login == login) ({ · with root := false }) s.users }

/-- The effect changes something: what it adds is not there, and what it drops is. -/
def Genuine (s : Store) : Effect → Prop
  | grantAdded g => g ∉ s.grants
  | grantRemoved g => g ∈ s.grants
  | memberAdded group user => (group, user) ∉ s.members
  | templateAdded tpl => ∀ tpl' ∈ s.templates, tpl'.uuid ≠ tpl.uuid
  | templateGrantRemoved g => g ∈ s.templateGrants
  | rootCleared login => (s.userByLogin? login).any (·.root) = true

end Effect

namespace Store

variable {s t : Store}

/-- An effect does the same to the same data. -/
theorem SameData.on (h : s.SameData t) (e : Effect) : (e.on s).SameData (e.on t) := by
  obtain ⟨j, a, rfl⟩ := h
  cases e <;> exact ⟨_, _, rfl⟩

/-- Dropping what is not there changes nothing. -/
theorem SameData.removeTemplateGrant_of_not_mem {g : TemplateGrant} (h : s.SameData t)
    (hg : g ∉ s.templateGrants) : s.SameData (t.removeTemplateGrant g) := by
  obtain ⟨j, a, rfl⟩ := h
  exact ⟨j, a, by rw [removeTemplateGrant, removeAll_of_not_mem hg]⟩

/-- The permissions that a holder has in a scope are those of its grants. -/
theorem mem_permissionsOf {o : String} {h : Holder} {scope : Scope} {p : Permission} :
    p ∈ s.permissionsOf o h scope ↔ ⟨o, h, p, scope⟩ ∈ s.grants := by
  unfold permissionsOf
  rw [List.mem_map]
  constructor
  · rintro ⟨g, hg, rfl⟩
    obtain ⟨hmem, hfields⟩ := List.mem_filter.mp hg
    simp only [Bool.and_eq_true, beq_iff_eq] at hfields
    obtain ⟨⟨rfl, rfl⟩, rfl⟩ := hfields
    exact hmem
  · intro hg
    exact ⟨_, List.mem_filter.mpr ⟨hg, by simp⟩, rfl⟩

theorem answer_setRoot (s : Store) (login : String) (root : Bool) :
    s.answer (.setRoot login root) =
      (.ok (s.setRoot login root).1, (s.setRoot login root).2) := rfl

/-- Whether a user was root, and what is left then. -/
theorem setRoot_false (s : Store) (login : String) :
    (s.setRoot login false).2 = s ∨
      (Effect.rootCleared login).Genuine s ∧
        (s.setRoot login false).2 = (Effect.rootCleared login).on s := by
  unfold setRoot Effect.Genuine
  cases hu : s.userByLogin? login with
  | none => exact .inl rfl
  | some u =>
    by_cases hroot : u.root = true
    · refine .inr ⟨by simpa [hu] using hroot, ?_⟩
      simp only [hroot]
      rfl
    · left
      simp [hroot]

/-- The user of a login is what the user was made. -/
theorem root_of_setRoot {login : String} {root : Bool} {u : User}
    (h : (s.setRoot login root).2.userByLogin? login = some u) : u.root = root := by
  cases hu : s.userByLogin? login with
  | none => simp [setRoot, hu] at h
  | some u' =>
    by_cases hroot : u'.root = root
    · obtain rfl : u' = u := by simpa [setRoot, hu, hroot] using h
      exact hroot
    · have hset : (s.setRoot login root).2 = { s with
          users := modifyFirst (·.login == login) ({ · with root := root }) s.users } := by
        simp [setRoot, hu, hroot]
      rw [hset] at h
      have hfound := (find?_modifyFirst (by intro _; rfl) s.users).symm.trans h
      obtain ⟨_, -, rfl⟩ := Option.map_eq_some_iff.mp hfound
      rfl

/-- A user who is so already is not made root, or an ordinary one. -/
theorem setRoot_of_root {login : String} {root : Bool}
    (h : ∀ u, s.userByLogin? login = some u → u.root = root) :
    s.setRoot login root = (false, s) := by
  unfold setRoot
  cases hu : s.userByLogin? login with
  | none => rfl
  | some u => simp [h u hu]

end Store

end Entitlements
