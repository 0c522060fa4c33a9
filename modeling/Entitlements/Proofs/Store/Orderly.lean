import Entitlements.Proofs.Store.Effect
import Mathlib.Data.List.Nodup

/-!
# Stores in order

A store is in order when groups, components and templates are kept by identifier, every grant is
kept by the organization that it is about, and no template has an identifier that is still to be
given out. A store stays in order as long as what is added names things that are stored.
-/

namespace Entitlements

/-- Replacing or adding an element leaves one element for each key. -/
theorem nodup_map_replaceOrAdd {α κ : Type} [BEq κ] [LawfulBEq κ] {key : α → κ} {as : List α}
    (h : (as.map key).Nodup) (a : α) : ((replaceOrAdd key a as).map key).Nodup := by
  rw [map_replaceOrAdd, insertNew]
  split
  next => exact h
  next hnew =>
    rw [List.contains_iff_mem] at hnew
    rw [← List.concat_eq_append]
    exact h.concat hnew

namespace Store

/-- No two groups have one identifier, nor have two components or two templates. -/
structure Keyed (s : Store) : Prop where
  groups : (s.groups.map (·.id)).Nodup
  components : (s.components.map (·.uuid)).Nodup
  templates : (s.templates.map (·.uuid)).Nodup

/-- The grant is kept by the organization that it is about: by that of its scope, of the group
that holds it, and of the project that it is limited to. -/
structure Fits (s : Store) (g : Grant) : Prop where
  owner : g.scope.owner = g.organization
  group : ∀ row ∈ s.groups, g.holder = .group row.id → row.organization = g.organization
  project : ∀ c ∈ s.components, g.scope.project? = some c.uuid →
    c.organization = g.organization

/-- Every grant is kept by the organization that it is about. -/
def WellFormed (s : Store) : Prop := ∀ g ∈ s.grants, s.Fits g

/-- No template has an identifier that is still to be given out. -/
def FreshUuids (s : Store) : Prop :=
  ∀ n, s.around.issued < n → ∀ tpl ∈ s.templates, tpl.uuid ≠ uuidOf n

/-- The store is in order. -/
structure Orderly (s : Store) : Prop where
  keyed : s.Keyed
  wellFormed : s.WellFormed
  freshUuids : s.FreshUuids

/-- The group that holds the grant and the project that it is limited to are stored, and both
belong to the organization that keeps the grant. -/
structure Grounds (s : Store) (g : Grant) : Prop where
  owner : g.scope.owner = g.organization
  group : ∀ id, g.holder = .group id →
    ∃ row ∈ s.groups, row.id = id ∧ row.organization = g.organization
  project : ∀ uuid, g.scope.project? = some uuid →
    ∃ c ∈ s.components, c.uuid = uuid ∧ c.organization = g.organization ∧
      c.carriesPermissions = true

variable {s t : Store} {g : Grant}

/-- Whether a grant fits depends on the groups and the components only. -/
theorem Fits.congr (h : s.Fits g) (hgroups : t.groups = s.groups)
    (hcomponents : t.components = s.components) : t.Fits g where
  owner := h.owner
  group := hgroups ▸ h.group
  project := hcomponents ▸ h.project

theorem Grounds.fits (h : s.Grounds g) (hs : s.Keyed) : s.Fits g where
  owner := h.owner
  group row hrow hholder := by
    obtain ⟨row', hrow', hid, horganization⟩ := h.group row.id hholder
    rw [List.inj_on_of_nodup_map hs.groups hrow hrow' hid.symm, horganization]
  project c hc hproject := by
    obtain ⟨c', hc', huuid, horganization, -⟩ := h.project c.uuid hproject
    rw [List.inj_on_of_nodup_map hs.components hc hc' huuid.symm, horganization]

/-- A store with the same keys is in order as well, as long as all of its grants fit. -/
theorem Orderly.of_grants (hs : s.Orderly) (hgroups : t.groups = s.groups)
    (hcomponents : t.components = s.components) (htemplates : t.templates = s.templates)
    (hissued : t.around.issued = s.around.issued) (hgrants : ∀ g ∈ t.grants, s.Fits g) :
    t.Orderly := by
  obtain ⟨hkeyed, -, hfresh⟩ := hs
  refine ⟨⟨?_, ?_, ?_⟩, fun g hg => (hgrants g hg).congr hgroups hcomponents, ?_⟩
  · rw [hgroups]
    exact hkeyed.groups
  · rw [hcomponents]
    exact hkeyed.components
  · rw [htemplates]
    exact hkeyed.templates
  · rw [FreshUuids, hissued, htemplates]
    exact hfresh

theorem Orderly.of_sameData (hs : s.Orderly) (h : s.SameData t) : t.Orderly := by
  obtain ⟨j, a, rfl⟩ := h
  exact hs.of_grants rfl rfl rfl rfl hs.wellFormed

end Store

/-- What the effect adds names what is stored, and comes with the identifier that is given out
next. -/
def Effect.Proper (s : Store) : Effect → Prop
  | .grantAdded g | .grantRemoved g => s.Grounds g
  | .templateAdded tpl => tpl.uuid = uuidOf (s.around.issued + 1)
  | _ => True

/-- Identifiers that are still to be given out stay fresh, as a new template has the next one. -/
theorem Store.FreshUuids.on {s : Store} {e : Effect} (hs : s.FreshUuids) (he : e.Proper s) :
    (e.on s).FreshUuids := by
  cases e with
  | templateAdded tpl =>
    have huuid : tpl.uuid = uuidOf (s.around.issued + 1) := he
    have htemplates : ((Effect.templateAdded tpl).on s).templates = s.templates ++ [tpl] := by
      refine replaceOrAdd_of_forall_ne fun tpl' htpl' => ?_
      rw [huuid]
      exact hs _ (Nat.lt_succ_self _) tpl' htpl'
    intro n hn tpl' htpl'
    have hlt : s.around.issued + 1 < n := hn
    rw [htemplates, List.mem_append, List.mem_singleton] at htpl'
    rcases htpl' with htpl' | rfl
    · exact hs n (Nat.lt_of_succ_lt hlt) tpl' htpl'
    · rw [huuid]
      exact fun heq => Nat.ne_of_lt hlt (uuidOf_injective heq)
  | grantAdded | grantRemoved | memberAdded | templateGrantRemoved | rootCleared => exact hs

/-- Proper effects leave a store in order. -/
theorem Store.Orderly.on {s : Store} {e : Effect} (hs : s.Orderly) (he : e.Proper s) :
    (e.on s).Orderly := by
  cases e with
  | grantAdded g =>
    refine hs.of_grants rfl rfl rfl rfl fun g' hg' => ?_
    rcases mem_insertNew.mp hg' with hg' | rfl
    · exact hs.wellFormed g' hg'
    · exact Grounds.fits he hs.keyed
  | grantRemoved g =>
    exact hs.of_grants rfl rfl rfl rfl fun g' hg' => hs.wellFormed g' (mem_removeAll.mp hg').1
  | memberAdded group user => exact hs.of_grants rfl rfl rfl rfl hs.wellFormed
  | templateAdded tpl =>
    obtain ⟨hkeyed, hformed, hfresh⟩ := hs
    refine ⟨⟨hkeyed.groups, hkeyed.components, ?_⟩, fun g hg => (hformed g hg).congr rfl rfl,
      hfresh.on he⟩
    exact nodup_map_replaceOrAdd hkeyed.templates tpl
  | templateGrantRemoved given => exact hs.of_grants rfl rfl rfl rfl hs.wellFormed
  | rootCleared login => exact hs.of_grants rfl rfl rfl rfl hs.wellFormed

end Entitlements
