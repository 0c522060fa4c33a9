import Entitlements.Lookup
import Entitlements.Proofs.Store.Orderly
import Entitlements.Store.Select
import Mathlib.Data.Prod.Lex
import Mathlib.Data.String.Basic

/-!
# Listings and their pages

A listing is in order of lower-cased names and, where names are equal, of identifiers. As
identifiers tell the things in it apart, each has a place of its own, and the pages of the listing,
one after the other, go through it without leaving out or repeating anything.
-/

namespace Entitlements

/-- The pages of a size go through the rows: one after the other they hold all of them, and only the
last one that holds anything can hold less than the others. -/
structure Pages {α : Type} (rows : List α) (size : Nat) (pages : Nat → List α) : Prop where
  /-- As many pages as it takes hold all rows. -/
  all : ∀ n, rows.length ≤ n * size → (List.range n).flatMap pages = rows
  /-- A page before one that holds anything is full. -/
  full : ∀ j k, j < k → pages k ≠ [] → (pages j).length = size
  /-- A page holds something as long as rows are left. -/
  ne_nil_iff : ∀ k, pages k ≠ [] ↔ k * size < rows.length

/-- The page of a size that comes after as many others. -/
def Page.after (k size : Nat) : Page := ⟨k + 1, size⟩

@[simp] theorem Page.offset_after (k size : Nat) :
    (Page.after k size).offset = (k * size : Nat) := by
  simp [Page.offset, Page.after]

namespace Store

variable {α κ : Type}

/-- The place of a thing in a listing by name. -/
def position (name : String) (key : κ) : String ×ₗ κ := toLex (Text.lower name, key)

theorem position_ne {name name' : String} {key key' : κ} (h : key ≠ key') :
    position name key ≠ position name' key' := by
  intro heq
  exact h (Prod.ext_iff.mp (toLex_inj.mp heq)).2

variable [LinearOrder κ]

theorem byName_iff (name : α → String) (key : α → κ) (a b : α) :
    byName name key a b = true ↔ position (name a) (key a) ≤ position (name b) (key b) := by
  simp [byName, position, Prod.Lex.toLex_le_toLex]

/-- Things that their keys tell apart each have a place of their own. -/
theorem pairwise_mergeSort_byName {name : α → String} {key : α → κ} {as : List α}
    (hkeys : (as.map key).Nodup) :
    (as.mergeSort (byName name key)).Pairwise fun a b =>
      position (name a) (key a) < position (name b) (key b) := by
  have hle : (as.mergeSort (byName name key)).Pairwise fun a b => byName name key a b = true := by
    refine List.pairwise_mergeSort (fun a b c hab hbc => ?_) (fun a b => ?_) as
    · rw [byName_iff] at hab hbc ⊢
      exact hab.trans hbc
    · rw [Bool.or_eq_true, byName_iff, byName_iff]
      exact le_total _ _
  have hne : (as.mergeSort (byName name key)).Pairwise fun a b => key a ≠ key b := by
    have hperm := (List.mergeSort_perm as (byName name key)).map key
    exact List.pairwise_map.mp (hperm.nodup_iff.mpr hkeys)
  refine (hle.and hne).imp fun {a b} h => ?_
  exact lt_of_le_of_ne ((byName_iff name key a b).mp h.1) (position_ne h.2)

/-- Cutting a list at the multiples of a size gives pages of it. -/
theorem pages_page {size : Nat} (hsize : 0 < size) (rows : List α) :
    Pages rows size fun k => page (Page.after k size).offset size rows := by
  have hpage (k : Nat) :
      page (Page.after k size).offset size rows = (rows.drop (k * size)).take size := by
    rw [page, Page.offset_after, Int.toNat_natCast, Int.toNat_natCast]
  have hlength (k : Nat) : (page (Page.after k size).offset size rows).length =
      min size (rows.length - k * size) := by
    rw [hpage, List.length_take, List.length_drop]
  have hne (k : Nat) :
      page (Page.after k size).offset size rows ≠ [] ↔ k * size < rows.length := by
    rw [← List.length_pos_iff, hlength]
    omega
  -- the first pages together are a beginning of the rows
  have htake (n : Nat) : ((List.range n).flatMap fun k =>
      page (Page.after k size).offset size rows) = rows.take (n * size) := by
    induction n with
    | zero => simp
    | succ n ih =>
      rw [List.range_succ, List.flatMap_append, ih, List.flatMap_singleton, hpage, Nat.succ_mul,
        List.take_add]
  refine ⟨fun n hn => ?_, fun j k hjk hk => ?_, hne⟩
  · rw [htake, List.take_of_length_le hn]
  · have hlast := (hne k).mp hk
    have hnext : (j + 1) * size ≤ k * size := Nat.mul_le_mul_right size hjk
    rw [Nat.succ_mul] at hnext
    rw [hlength]
    omega

section

variable {s : Store} {query? : Option String}

theorem mem_groupsMatching_iff {organization : String} {g : Group} :
    g ∈ s.groupsMatching organization query? ↔
      g ∈ s.groups ∧ g.organization = organization ∧ nameFits query? g.name = true := by
  simp [groupsMatching]

/-- The groups of an organization are listed in order. -/
theorem pairwise_groupsMatching (hs : s.Keyed) (organization : String) :
    (s.groupsMatching organization query?).Pairwise fun a b =>
      position a.name a.id < position b.name b.id :=
  pairwise_mergeSort_byName (hs.groups.sublist (List.filter_sublist.map _))

theorem mem_projectsWith_iff {user : Int} {permission : Permission} {c : Component} :
    c ∈ s.projectsWith user permission query? ↔
      c ∈ s.components ∧ s.grantedOnProject user permission c.uuid = true ∧ c.isProject = true ∧
        componentFits query? c = true := by
  simp [projectsWith, and_assoc]

/-- Projects are listed in order. -/
theorem pairwise_projectsWith (hs : s.Keyed) (user : Int) (permission : Permission) :
    (s.projectsWith user permission query?).Pairwise fun a b =>
      position a.name a.uuid < position b.name b.uuid :=
  pairwise_mergeSort_byName (hs.components.sublist (List.filter_sublist.map _))

end

end Store

/-- The place of everyone or a group in the listing of a template: everyone comes first. -/
def TemplateGroup.position (g : TemplateGroup) : Nat ×ₗ String ×ₗ Int :=
  toLex (if g.group?.isSome then 1 else 0, Store.position g.name (g.group?.getD 0))

/-- The row is asked for: by its name, and by a permission that it has. Where neither a text nor a
permission is given, it has any permission. -/
def TemplateGroup.IsAsked (permission? query? : Option String) (g : TemplateGroup) : Prop :=
  Store.nameFits query? g.name = true ∧
    match given? permission? with
    | some permission => permission ∈ g.permissions
    | none => given? query? = none → g.permissions ≠ []

namespace Store

variable {s : Store} {template organization : String}

/-- Everyone and the groups of the organization are the candidates, each with what the template
gives them. -/
theorem mem_templateCandidates_iff {row : TemplateGroup} :
    row ∈ s.templateCandidates template organization ↔
      row = ⟨none, Holder.anyoneName, none, s.templatePermissions template .anyone⟩ ∨
        ∃ g ∈ s.groups, g.organization = organization ∧
          ⟨some g.id, g.name, g.description, s.templatePermissions template (.group g.id)⟩ =
            row := by
  simp [templateCandidates, and_assoc]

/-- Everyone and the groups are listed as they are asked for. -/
theorem mem_templateGroupsMatching_iff {permission? query? : Option String} {row : TemplateGroup} :
    row ∈ s.templateGroupsMatching template organization permission? query? ↔
      row ∈ s.templateCandidates template organization ∧ row.IsAsked permission? query? := by
  have hsays (text? : Option String) : saysSomething text? = (given? text?).isSome := by
    cases text? with
    | none => rfl
    | some text => cases h : text.isEmpty <;> simp [saysSomething, given?, h]
  rw [templateGroupsMatching, List.mem_filter, isListed, Bool.and_eq_true, hsays, hsays,
    TemplateGroup.IsAsked]
  cases hpermission : given? permission? with
  | none => cases given? query? <;> simp
  | some permission =>
    obtain ⟨rfl, -⟩ := Option.filter_eq_some_iff.mp hpermission
    simp

theorem pairwise_templateCandidates (hs : s.Keyed) :
    (s.templateCandidates template organization).Pairwise fun a b => a.position < b.position := by
  have hgroups : ((s.groups.filter (·.organization == organization)).map (·.id)).Nodup :=
    hs.groups.sublist (List.filter_sublist.map _)
  refine List.pairwise_cons.mpr ⟨fun row hrow => ?_, List.pairwise_map.mpr ?_⟩
  · obtain ⟨g, -, rfl⟩ := List.mem_map.mp hrow
    simp [TemplateGroup.position, Prod.Lex.toLex_lt_toLex]
  · refine (pairwise_mergeSort_byName hgroups).imp fun {a b} hab => ?_
    simpa [TemplateGroup.position, Prod.Lex.toLex_lt_toLex] using hab

/-- The groups of a template are listed in order. -/
theorem pairwise_templateGroupsMatching (hs : s.Keyed) (permission? query? : Option String) :
    (s.templateGroupsMatching template organization permission? query?).Pairwise fun a b =>
      a.position < b.position :=
  (pairwise_templateCandidates hs).filter _

end Store

end Entitlements
