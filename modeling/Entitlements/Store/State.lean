import Entitlements.Surroundings

/-!
# A store in memory

The state of a store that keeps everything in lists. Accounts, groups and the like keep the order
in which they were first added; grants, memberships and permissions of templates are sets, so
adding one that is there changes nothing. The journal tells what was asked of the store so far.
-/

namespace Entitlements

/-- Add an element to a set. -/
def insertNew {α : Type} [BEq α] (a : α) (as : List α) : List α :=
  if as.contains a then as else as ++ [a]

/-- Take an element out of a set. -/
def removeAll {α : Type} [BEq α] (a : α) (as : List α) : List α :=
  as.filter (· != a)

/-- Put an element in the place of the one with the same key, or at the end. -/
def replaceOrAdd {α κ : Type} [BEq κ] (key : α → κ) (a : α) : List α → List α
  | [] => [a]
  | b :: rest => if key b == key a then a :: rest else b :: replaceOrAdd key a rest

/-- Change the first element that a test picks. -/
def modifyFirst {α : Type} (test : α → Bool) (f : α → α) : List α → List α
  | [] => []
  | a :: rest => if test a then f a :: rest else a :: modifyFirst test f rest

@[simp] theorem mem_insertNew {α : Type} [BEq α] [LawfulBEq α] {a b : α} {as : List α} :
    b ∈ insertNew a as ↔ b ∈ as ∨ b = a := by
  unfold insertNew
  split
  next h =>
    rw [iff_self_or]
    rintro rfl
    exact List.contains_iff_mem.mp h
  next h => rw [List.mem_append, List.mem_singleton]

@[simp] theorem mem_removeAll {α : Type} [BEq α] [LawfulBEq α] {a b : α} {as : List α} :
    b ∈ removeAll a as ↔ b ∈ as ∧ b ≠ a := by
  rw [removeAll, List.mem_filter, bne_iff_ne]

theorem insertNew_of_mem {α : Type} [BEq α] [LawfulBEq α] {a : α} {as : List α} (h : a ∈ as) :
    insertNew a as = as := by
  rw [insertNew, if_pos (List.contains_iff_mem.mpr h)]

theorem removeAll_of_not_mem {α : Type} [BEq α] [LawfulBEq α] {a : α} {as : List α}
    (h : a ∉ as) : removeAll a as = as := by
  rw [removeAll, List.filter_eq_self]
  intro b hb
  rw [bne_iff_ne]
  rintro rfl
  exact h hb

/-- Elements that a test does not pick can be added to a set unnoticed. -/
theorem filter_insertNew {α : Type} [BEq α] {p : α → Bool} {a : α} (h : p a = false)
    (as : List α) : (insertNew a as).filter p = as.filter p := by
  unfold insertNew
  split
  · rfl
  · simp [h]

/-- So can they be taken out of it. -/
theorem filter_removeAll {α : Type} [BEq α] [LawfulBEq α] {p : α → Bool} {a : α} (h : p a = false)
    (as : List α) : (removeAll a as).filter p = as.filter p := by
  rw [removeAll, List.filter_filter]
  refine List.filter_congr fun b _ => ?_
  by_cases hb : b = a
  · simp [hb, h]
  · simp [hb]

/-- Elements keep their keys, and one with a new key comes to stand at the end. -/
theorem map_replaceOrAdd {α κ : Type} [BEq κ] [LawfulBEq κ] (key : α → κ) (a : α) (as : List α) :
    (replaceOrAdd key a as).map key = insertNew (key a) (as.map key) := by
  induction as with
  | nil => rfl
  | cons b rest ih =>
    rw [replaceOrAdd]
    by_cases hb : key b = key a
    · simp [insertNew, hb]
    · have hne : (key b == key a) = false := beq_false_of_ne hb
      rw [hne, if_neg Bool.false_ne_true, List.map_cons, ih, insertNew, insertNew, List.map_cons,
        List.contains_cons, beq_false_of_ne (Ne.symm hb), Bool.false_or]
      split <;> rfl

/-- Without an element of its key, an element comes to stand at the end. -/
theorem replaceOrAdd_of_forall_ne {α κ : Type} [BEq κ] [LawfulBEq κ] {key : α → κ} {a : α}
    {as : List α} (h : ∀ b ∈ as, key b ≠ key a) : replaceOrAdd key a as = as ++ [a] := by
  induction as with
  | nil => rfl
  | cons b rest ih =>
    have hb : (key b == key a) = false := beq_false_of_ne (h b List.mem_cons_self)
    rw [replaceOrAdd, hb, ih fun c hc => h c (List.mem_cons_of_mem b hc)]
    rfl

/-- A change that does not show leaves what is shown of a list as it is. -/
theorem map_modifyFirst {α β : Type} {p : α → Bool} {f : α → α} {g : α → β}
    (h : ∀ a, g (f a) = g a) (as : List α) : (modifyFirst p f as).map g = as.map g := by
  induction as with
  | nil => rfl
  | cons a rest ih =>
    rw [modifyFirst]
    split
    · rw [List.map_cons, List.map_cons, h a]
    · rw [List.map_cons, List.map_cons, ih]

/-- A change that the test does not notice changes the element that the test finds. -/
theorem find?_modifyFirst {α : Type} {p : α → Bool} {f : α → α} (h : ∀ a, p (f a) = p a)
    (as : List α) : (modifyFirst p f as).find? p = (as.find? p).map f := by
  induction as with
  | nil => rfl
  | cons a rest ih =>
    rw [modifyFirst]
    by_cases ha : p a = true
    · simp [ha, h]
    · simp [ha, ih]

/-- An element that was put into a list is there. -/
theorem mem_replaceOrAdd_self {α κ : Type} [BEq κ] (key : α → κ) (a : α) (as : List α) :
    a ∈ replaceOrAdd key a as := by
  induction as with
  | nil => exact List.mem_singleton_self a
  | cons b rest ih =>
    rw [replaceOrAdd]
    split
    · exact List.mem_cons_self
    · exact List.mem_cons_of_mem b ih

/-- What was asked of a store so far. -/
structure Journal where
  /-- The organizations whose grants were locked. -/
  locked : List String := []
  /-- The grants that were to be added. -/
  inserted : List Grant := []
  /-- The grants that were to be dropped. -/
  deleted : List Grant := []
  /-- The number of units of work completed. -/
  commits : Nat := 0
  /-- The number of units of work abandoned. -/
  rollbacks : Nat := 0
  deriving DecidableEq, Repr, Inhabited

/-- A store in memory with its surroundings. -/
structure Store where
  /-- Organizations in order. -/
  organizations : List Organization := []
  /-- The identifier of the default organization. -/
  defaultOrganization? : Option String := none
  /-- Users in order. -/
  users : List User := []
  /-- Groups in order. -/
  groups : List Group := []
  /-- Pairs of a group and a member of it. -/
  members : List (Int × Int) := []
  /-- Components in order. -/
  components : List Component := []
  /-- The grants. -/
  grants : List Grant := []
  /-- Templates in order. -/
  templates : List Template := []
  /-- The permissions of templates. -/
  templateGrants : List TemplateGrant := []
  /-- What was asked so far. -/
  journal : Journal := {}
  /-- What is around the store. -/
  around : Surroundings
  deriving Inhabited

namespace Store

/-- Add an organization. The first one becomes the default organization. -/
def addOrganization (o : Organization) (s : Store) : Store :=
  { s with
    organizations := replaceOrAdd (·.uuid) o s.organizations
    defaultOrganization? := some (s.defaultOrganization?.getD o.uuid) }

/-- Add a user. -/
def addUser (u : User) (s : Store) : Store :=
  { s with users := replaceOrAdd (·.id) u s.users }

/-- Add a group. -/
def addGroup (g : Group) (s : Store) : Store :=
  { s with groups := replaceOrAdd (·.id) g s.groups }

/-- Make a user a member of a group. -/
def addMember (group user : Int) (s : Store) : Store :=
  { s with members := insertNew (group, user) s.members }

/-- End the membership of a user in a group. -/
def removeMember (group user : Int) (s : Store) : Store :=
  { s with members := removeAll (group, user) s.members }

/-- Add a component. -/
def addComponent (c : Component) (s : Store) : Store :=
  { s with components := replaceOrAdd (·.uuid) c s.components }

/-- Add a grant. -/
def addGrant (g : Grant) (s : Store) : Store :=
  { s with grants := insertNew g s.grants }

/-- Drop a grant. -/
def removeGrant (g : Grant) (s : Store) : Store :=
  { s with grants := removeAll g s.grants }

/-- Add a template. -/
def addTemplate (t : Template) (s : Store) : Store :=
  { s with templates := replaceOrAdd (·.uuid) t s.templates }

/-- Add a permission of a template. -/
def addTemplateGrant (g : TemplateGrant) (s : Store) : Store :=
  { s with templateGrants := insertNew g s.templateGrants }

/-- Drop a permission of a template. -/
def removeTemplateGrant (g : TemplateGrant) (s : Store) : Store :=
  { s with templateGrants := removeAll g s.templateGrants }

end Store

end Entitlements
