import Entitlements.Proofs.Store.Holdings
import Entitlements.Sql.Database
import Entitlements.Store.Run
import Entitlements.Store.Sample
import Mathlib.Data.Finset.Dedup

/-!
# Snapshots from rows

The database tells what somebody holds by rows: one for every grant that counts, with the
organization, the project where there is one, and the permission. The rows come in any order, and
grants that differ in their holder only have the same row. Whatever the order, and however often a
row comes, the snapshot put together from them says of every organization and of every project what
the snapshot of a store in memory says that has the same grants.
-/

namespace Entitlements

namespace Snapshot

/-- What stands under a key. -/
def under (key : String) (held : List (String × Permission)) : Finset Permission :=
  ((held.filter (·.1 == key)).map (·.2)).toFinset

/-- The permissions held on an organization. -/
def ofOrganization (s : Snapshot) (organization : String) : Finset Permission :=
  under organization s.onOrganizations

/-- The permissions held on a project, but for those held on its organization. -/
def ofProject (s : Snapshot) (project : String) : Finset Permission := under project s.onProjects

variable {key : String} {p : Permission} {held : List (String × Permission)}

@[simp] theorem mem_under : p ∈ under key held ↔ (key, p) ∈ held := by
  simp [under]

end Snapshot

namespace Sql

/-- The row that a grant has in the answer to the question what somebody holds. -/
def heldRow (g : Grant) : Row :=
  [.text g.organization, (g.scope.project?.map .text).getD .null, .text g.permission]

variable {g : Grant} {gs : List Grant} {organization project : String} {p : Permission}

/-- The row of a grant of the whole organization has no project. -/
theorem heldRow_eq_global_iff :
    heldRow g = [.text organization, .null, .text p] ↔
      g.scope.project? = none ∧ g.organization = organization ∧ g.permission = p := by
  cases h : g.scope.project? <;> simp [heldRow, h]

/-- The row of a grant on a project names it. -/
theorem heldRow_eq_project_iff :
    heldRow g = [.text organization, .text project, .text p] ↔
      g.scope.project? = some project ∧ g.organization = organization ∧ g.permission = p := by
  cases h : g.scope.project? <;> simp [heldRow, h, and_left_comm]

/-- The row of a grant adds what the grant itself would. -/
theorem addHeld_heldRow (held : Snapshot) (g : Grant) :
    addHeld held (heldRow g) = .ok (held.add g.organization g.scope.project? g.permission) := by
  cases h : g.scope.project? <;> simp only [heldRow, h] <;> rfl

/-- Rows of grants are read without fail, one after the other. -/
theorem foldlM_addHeld_heldRow (gs : List Grant) (held : Snapshot) :
    (gs.map heldRow).foldlM addHeld held =
      .ok (gs.foldl (fun held g => held.add g.organization g.scope.project? g.permission)
        held) := by
  induction gs generalizing held with
  | nil => rfl
  | cons g rest ih =>
    rw [List.map_cons, List.foldlM_cons, addHeld_heldRow, List.foldl_cons]
    exact ih _

/-- What grants say of an organization depends on which rows they have, and neither on their order
nor on how often a row comes. -/
theorem mem_ofOrganization_foldl :
    p ∈ (gs.foldl (fun held g => held.add g.organization g.scope.project? g.permission)
        Snapshot.empty).ofOrganization organization ↔
      [.text organization, .null, .text p] ∈ gs.map heldRow := by
  rw [Snapshot.ofOrganization, Snapshot.mem_under, mem_foldl_add.1, List.mem_map]
  simp only [heldRow_eq_global_iff, Snapshot.empty, List.not_mem_nil, false_or]

/-- So does what they say of a project, whatever the organization in the row. -/
theorem mem_ofProject_foldl :
    p ∈ (gs.foldl (fun held g => held.add g.organization g.scope.project? g.permission)
        Snapshot.empty).ofProject project ↔
      ∃ organization, [.text organization, .text project, .text p] ∈ gs.map heldRow := by
  rw [Snapshot.ofProject, Snapshot.mem_under, mem_foldl_add.2]
  simp only [List.mem_map, heldRow_eq_project_iff, Snapshot.empty, List.not_mem_nil, false_or]
  constructor
  · rintro ⟨g, hg, hproject, hp⟩
    exact ⟨g.organization, g, hg, hproject, rfl, hp⟩
  · rintro ⟨organization, g, hg, hproject, -, hp⟩
    exact ⟨g, hg, hproject, hp⟩

/-- The rows of the grants that somebody holds. -/
theorem mem_map_heldGrants {s : Store} {user? : Option Int} {r : Row} :
    r ∈ (s.heldGrants user?).map heldRow ↔
      ∃ g ∈ s.grants, g.HeldBy s user? ∧ heldRow g = r := by
  simp only [List.mem_map, Store.heldGrants, List.mem_filter, Store.matchesHolder_iff_heldBy,
    and_assoc]

namespace Database

/-- Where the database answers with the rows of just those grants that somebody holds, in any order
and each as often as it likes, the snapshot put together from them has the same permissions on every
organization and on every project as that of a store in memory with these grants. -/
theorem loadSnapshot_agrees (s : Store) (user? : Option Int) (d : Database) (t : Table)
    (rest : List Response) (hanswer : d.responses = .table t :: rest)
    (hrows : ∀ r, r ∈ t.rows ↔ ∃ g ∈ s.grants, g.HeldBy s user? ∧ heldRow g = r) :
    ∃ told kept, (d.answer (.loadSnapshot user?)).1 = .ok told ∧
      (s.answer (.loadSnapshot user?)).1 = .ok kept ∧
      (∀ organization, told.ofOrganization organization = kept.ofOrganization organization) ∧
      ∀ project, told.ofProject project = kept.ofProject project := by
  have hheld (r : Row) : r ∈ t.rows ↔ r ∈ (s.heldGrants user?).map heldRow :=
    (hrows r).trans mem_map_heldGrants.symm
  -- every row is that of some grant, so the rows are those of some list of grants
  obtain ⟨gs, hgs⟩ : t.rows ∈ Set.range (List.map heldRow) := by
    rw [Set.range_list_map]
    intro r hr
    obtain ⟨g, -, -, hg⟩ := (hrows r).mp hr
    exact ⟨g, hg⟩
  have htold : (d.answer (.loadSnapshot user?)).1 =
      .ok (gs.foldl (fun held g => held.add g.organization g.scope.project? g.permission)
        Snapshot.empty) := by
    have hread : (d.answer (.loadSnapshot user?)).1 = readAnswer t (.loadSnapshot user?) := by
      simp only [answer, respond, tell, hanswer]
    rw [hread, readAnswer, ← hgs, foldlM_addHeld_heldRow]
    rfl
  refine ⟨_, _, htold, rfl, fun organization => ?_, fun project => ?_⟩
  · ext p
    rw [mem_ofOrganization_foldl, Store.snapshot, mem_ofOrganization_foldl, hgs]
    exact hheld _
  · ext p
    rw [mem_ofProject_foldl, Store.snapshot, mem_ofProject_foldl, hgs]
    exact exists_congr fun organization => hheld _

/-- A permission that comes to a user in person and through a group stands in two rows that are the
same. -/
theorem loadSnapshot_agrees_alice :
    let scan (h : Holder) : Grant :=
      ⟨Store.sampleDefault, h, "scan", .organization Store.sampleDefault⟩
    let browse : Grant :=
      ⟨Store.sampleDefault, .anyone, "user", .project "proj-1" Store.sampleDefault⟩
    let s := { Store.sample { clock := default } with
      members := [(11, 2)]
      grants := [scan (.user 2 "alice"), scan (.group 11), scan (.group 20), browse] }
    let rows := [heldRow browse, heldRow (scan (.group 11)), heldRow (scan (.user 2 "alice"))]
    let d : Database := { responses := [.table ⟨rows, 3⟩], around := { clock := default } }
    (∀ r, r ∈ rows ↔ ∃ g ∈ s.grants, g.HeldBy s (some 2) ∧ heldRow g = r) ∧
    ∃ told kept, (d.answer (.loadSnapshot (some 2))).1 = .ok told ∧
      (s.answer (.loadSnapshot (some 2))).1 = .ok kept ∧
      (∀ organization, told.ofOrganization organization = kept.ofOrganization organization) ∧
      ∀ project, told.ofProject project = kept.ofProject project := by
  intro scan browse s rows d
  have hops : ¬ (scan (.group 20)).HeldBy s (some 2) := by
    simp [Grant.HeldBy, scan, s]
  have hdevs : (scan (.group 11)).HeldBy s (some 2) := ⟨2, rfl, List.mem_singleton_self _⟩
  have hrows (r : Row) : r ∈ rows ↔ ∃ g ∈ s.grants, g.HeldBy s (some 2) ∧ heldRow g = r := by
    constructor
    · intro hr
      simp only [rows, List.mem_cons, List.not_mem_nil, or_false] at hr
      rcases hr with rfl | rfl | rfl
      · exact ⟨browse, by simp [s], trivial, rfl⟩
      · exact ⟨scan (.group 11), by simp [s], hdevs, rfl⟩
      · exact ⟨scan (.user 2 "alice"), by simp [s], rfl, rfl⟩
    · rintro ⟨g, hg, hheld, rfl⟩
      simp only [s, List.mem_cons, List.not_mem_nil, or_false] at hg
      rcases hg with rfl | rfl | rfl | rfl
      · simp [rows]
      · simp [rows]
      · exact absurd hheld hops
      · simp [rows]
  exact ⟨hrows, loadSnapshot_agrees s (some 2) d ⟨rows, 3⟩ [] rfl hrows⟩

end Database

end Sql

end Entitlements
