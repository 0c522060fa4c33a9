import Entitlements.Proofs.Schema.Checks
import Entitlements.Record
import Entitlements.Schema.Revision
import Entitlements.Sql.Database

/-!
# Rows of grants

A grant is written as a row, and it is read and deleted by conditions on the columns of that row.
The conditions for a holder and a scope pick the rows of the grants with that holder and that scope,
and no others: each kind of holder names the columns that tell its holders apart, and a column that
holds nothing is asked for as such. What is written passes the check of its table. A value that is
no holder has no row and no conditions, and nothing is told to the database about it.
-/

namespace Entitlements

/-- The holders are of one kind and, where they are users or groups, have one identifier. -/
def Holder.Agrees : Holder → Holder → Prop
  | .user id _, .user id' _ | .group id, .group id' => id = id'
  | .anyone, .anyone => True
  | _, _ => False

namespace Sql

variable {lower : String → String} {row : String → Datum}

/-- The columns of the row that are about a holder are about this one. -/
structure NamesHolder (row : String → Datum) (h : Holder) : Prop where
  /-- The kind is the holder's. -/
  kind : row "holder_kind" = .text (holderKind h)
  /-- The user is the holder's, if it has one. -/
  user : row "user_id" = .ofInt? (holderUser h)
  /-- The group is the holder's, if it has one. -/
  group : row "group_id" = .ofInt? (holderGroup h)

theorem legible_holderConditions (h : Holder) : ∀ c ∈ holderConditions h, c.Legible := by
  cases h <;> simp [holderConditions, Condition.Legible] <;> decide +kernel

theorem legible_scopeConditions (s : Scope) : ∀ c ∈ scopeConditions s, c.Legible := by
  cases s <;> simp [scopeConditions, Condition.Legible] <;> decide +kernel

theorem legible_permission (p : Permission) :
    ∀ c ∈ [Condition.equals "permission" (.text p)], c.Legible := by
  have hpermission : Condition.IsName "permission" := by decide +kernel
  exact List.forall_mem_singleton.mpr hpermission

theorem legible_grantConditions (o : String) (h : Holder) (s : Scope) :
    ∀ c ∈ grantConditions o h s, c.Legible := by
  have horganization : Condition.IsName "organization_uuid" := by decide +kernel
  exact List.forall_mem_cons.mpr ⟨horganization,
    List.forall_mem_append.mpr ⟨legible_holderConditions h, legible_scopeConditions s⟩⟩

/-- The conditions for a holder hold of the rows that name it. -/
theorem holds_holderConditions_iff {g h : Holder} (hrow : NamesHolder row g) :
    (∀ c ∈ holderConditions h, c.holds row = true) ↔ g.Agrees h := by
  obtain ⟨hkind, huser, hgroup⟩ := hrow
  cases g <;> cases h <;>
    simp [holderConditions, Condition.holds, Holder.Agrees, hkind, huser, hgroup, holderKind,
      holderUser, holderGroup, Datum.ofInt?]

theorem holds_scopeConditions_iff {project? : Option String} {s : Scope}
    (hrow : row "project_uuid" = .ofText? project?) :
    (∀ c ∈ scopeConditions s, c.holds row = true) ↔ project? = s.project? := by
  cases project? <;> cases s <;>
    simp [scopeConditions, Condition.holds, Scope.project?, hrow, Datum.ofText?]

theorem namesHolder_grantRow (g : Grant) (now : Instant) :
    NamesHolder (cells (grantRow g now)) g.holder := by
  constructor <;> rfl

/-- The conditions for a grant hold of the rows of the grants like it, but for the permission. -/
theorem holds_grantConditions_iff {g : Grant} {o : String} {h : Holder} {s : Scope}
    {now : Instant} :
    (∀ c ∈ grantConditions o h s, c.holds (cells (grantRow g now)) = true) ↔
      g.organization = o ∧ g.holder.Agrees h ∧ g.scope.project? = s.project? := by
  have horganization : cells (grantRow g now) "organization_uuid" = .text g.organization := rfl
  have hproject : cells (grantRow g now) "project_uuid" = .ofText? g.scope.project? := rfl
  rw [grantConditions, List.forall_mem_cons, List.forall_mem_append,
    holds_holderConditions_iff (namesHolder_grantRow g now), holds_scopeConditions_iff hproject]
  simp [Condition.holds, horganization]

theorem holds_permission_iff {p p' : Permission} (hrow : row "permission" = .text p') :
    (Condition.equals "permission" (.text p)).holds row = true ↔ p' = p := by
  simp [Condition.holds, hrow]

section

variable (now : Instant) (o : String) (h : Holder) (s : Scope) (p : Permission)

/-- Grants are read where all their conditions hold. -/
theorem selects_selectPermissions_iff :
    (statement now (.selectPermissions o h s)).Selects lower "grants" row ↔
      ∀ c ∈ grantConditions o h s, c.holds row = true := by
  have hread (rest : List Symbol) : Clause.read? ([.name "SELECT", .name "permission",
      .name "FROM", .name "grants", .name "WHERE"] ++ rest) =
        (Formula.read? rest).map (⟨"grants", ·⟩) := by
    simp [Clause.read?]
  exact Fragment.selects_all_iff _ (List.cons_ne_nil _ _) (legible_grantConditions o h s) hread
    (by decide +kernel) (by decide +kernel) rfl

/-- A grant is deleted where its permission is the one in addition. -/
theorem selects_deleteGrant_iff :
    (statement now (.deleteGrant ⟨o, h, p, s⟩)).Selects lower "grants" row ↔
      ∀ c ∈ grantConditions o h s ++ [.equals "permission" (.text p)], c.holds row = true := by
  have hread (rest : List Symbol) : Clause.read? ([.name "DELETE", .name "FROM",
      .name "grants", .name "WHERE"] ++ rest) = (Formula.read? rest).map (⟨"grants", ·⟩) := by
    simp [Clause.read?]
  have hlegible := List.forall_mem_append.mpr
    ⟨legible_grantConditions o h s, legible_permission p⟩
  exact Fragment.selects_all_iff _ (List.cons_ne_nil _ _) hlegible hread
    (by decide +kernel) (by decide +kernel) rfl

/-- A grant of a template is deleted by the conditions for its holder too. -/
theorem selects_deleteTemplateGrant_iff (template : String) :
    (statement now (.deleteTemplateGrant template h p)).Selects lower
        "permission_template_grants" row ↔
      ∀ c ∈ Condition.equals "template_uuid" (.text template) ::
        (holderConditions h ++ [.equals "permission" (.text p)]), c.holds row = true := by
  have hread (rest : List Symbol) : Clause.read? ([.name "DELETE", .name "FROM",
      .name "permission_template_grants", .name "WHERE"] ++ rest) =
        (Formula.read? rest).map (⟨"permission_template_grants", ·⟩) := by
    simp [Clause.read?]
  have htemplate : (Condition.equals "template_uuid" (.text template)).Legible :=
    (by decide +kernel : Condition.IsName "template_uuid")
  have hlegible := List.forall_mem_cons.mpr ⟨htemplate, List.forall_mem_append.mpr
    ⟨legible_holderConditions h, legible_permission p⟩⟩
  exact Fragment.selects_all_iff _ (List.cons_ne_nil _ _) hlegible hread
    (by decide +kernel) (by decide +kernel) rfl

end

/-- The columns of a grant's row, in order. -/
def grantColumns : List String :=
  ["organization_uuid", "holder_kind", "user_id", "group_id", "project_uuid", "permission",
    "created_at"]

/-- A grant is written as its row. -/
theorem inserts_insertGrant (now : Instant) (g : Grant) :
    (statement now (.insertGrant g)).Inserts "grants" (cells (grantRow g now)) := by
  have hmarked : (statement now (.insertGrant g)).symbols? =
      Binding.fill? (.ordered ((grantRow g now).map Prod.snd))
        ([.name "INSERT", .name "INTO", .name "grants", .opening] ++
          (grantColumns.map Symbol.name).intersperse (.other ',') ++
          [.closing, .name "VALUES", .opening] ++
          (grantColumns.map fun _ => Symbol.mark .next).intersperse (.other ',') ++ [.closing]) :=
    Fragment.Spells.symbols? _ (by repeat' constructor) (by decide +kernel)
  refine ⟨grantRow g now, ?_, rfl⟩
  rw [hmarked]
  rfl

/-- Rows that name a holder are among the cases of the check on holders. -/
theorem holds_holderCases {h : Holder} (hrow : NamesHolder row h) :
    ∃ cs ∈ Schema.holderCases, ∀ c ∈ cs, c.holds row = true := by
  obtain ⟨hkind, huser, hgroup⟩ := hrow
  cases h <;>
    simp [Schema.holderCases, Condition.holds, hkind, huser, hgroup, holderKind, holderUser,
      holderGroup, Datum.ofInt?]

/-- Rows that name a holder pass every check of the table of grants. -/
theorem picks_of_check_grants {h : Holder} (hrow : NamesHolder row h) {name : String}
    {cases : List (List Condition)} (hcheck : .check name cases ∈ Schema.grants.constraints) :
    ∃ f, Schema.checked? (Schema.Constraint.check name cases).words = some f ∧
      f.Picks lower row := by
  obtain ⟨rfl, rfl⟩ : name = "ck_grants_holder_kind" ∧ cases = Schema.holderCases := by
    simpa [Schema.grants] using hcheck
  have hname : Condition.IsName "ck_grants_holder_kind" := by decide +kernel
  have hlegible : ∀ cs ∈ Schema.holderCases, Schema.LegibleCase cs := by decide +kernel
  obtain ⟨f, hf, hpicks⟩ := Schema.checked?_check hname (List.cons_ne_nil _ _) hlegible
  exact ⟨f, hf, (hpicks lower row).mpr (holds_holderCases hrow)⟩

/-- A value stands for the holder that it shows. -/
theorem holder?_eq_some_iff {v : Json.Value} {h : Holder} :
    holder? v = some h ↔ toRecord h = v := by
  constructor
  · intro hv
    unfold holder? at hv
    split at hv <;> cases hv <;> rfl
  · rintro rfl
    cases h <;> rfl

/-- A value that shows no holder fails before anything is told to the database. -/
theorem run_holderOf_of_none {v : Json.Value} (hv : ∀ h : Holder, toRecord h ≠ v) {α : Type}
    (next : Holder → Work α) (d : Database) :
    d.run (liftExcept (holderOf v) >>= next).run = (.error (.unsupportedHolder v), d) := by
  have hnone : holder? v = none := by
    rw [Option.eq_none_iff_forall_ne_some]
    intro h hh
    exact hv h (holder?_eq_some_iff.mp hh)
  rw [holderOf, hnone]
  rfl

/-- A value that shows a holder is as good as the holder. -/
theorem liftExcept_holderOf_toRecord (h : Holder) {α : Type} (next : Holder → Work α) :
    (liftExcept (holderOf (toRecord h)) >>= next) = next h := by
  rw [holderOf, holder?_eq_some_iff.mpr rfl]
  rfl

/-- Of the grants that are stored, reading and deleting finds those of the holder in the scope,
whatever the holder's login. Each of them is stored in a row that passes the checks of its table.
The statements are those of the calls that are given a value for the holder; where the value is no
holder, every such call fails and nothing is told to the database. -/
theorem stored_row_selected_iff (lower : String → String) (now now' : Instant) (g : Grant)
    (o : String) (h : Holder) (s : Scope) (p : Permission) (template : String) :
    (∃ row, (statement now' (.insertGrant g)).Inserts "grants" row ∧
      ((statement now (.selectPermissions o h s)).Selects lower "grants" row ↔
        g.organization = o ∧ g.holder.Agrees h ∧ g.scope.project? = s.project?) ∧
      ((statement now (.deleteGrant ⟨o, h, p, s⟩)).Selects lower "grants" row ↔
        g.organization = o ∧ g.holder.Agrees h ∧ g.scope.project? = s.project? ∧
          g.permission = p) ∧
      ∀ name cases, .check name cases ∈ Schema.grants.constraints →
        ∃ f, Schema.checked? (Schema.Constraint.check name cases).words = some f ∧
          f.Picks lower row) ∧
    (∀ row h', NamesHolder row h' →
      ((statement now (.deleteTemplateGrant template h p)).Selects lower
          "permission_template_grants" row ↔
        row "template_uuid" = .text template ∧ h'.Agrees h ∧ row "permission" = .text p)) ∧
    (insertGrant o (toRecord h) s p = Query.ask (.insertGrant ⟨o, h, p, s⟩) ∧
      selectPermissions o (toRecord h) s = Query.ask (.selectPermissions o h s) ∧
      deleteGrant o (toRecord h) s p = Query.ask (.deleteGrant ⟨o, h, p, s⟩) ∧
      deleteTemplateGrant template (toRecord h) p =
        Query.ask (.deleteTemplateGrant template h p)) ∧
    ∀ v, (∀ h : Holder, toRecord h ≠ v) → ∀ d : Database,
      d.run (insertGrant o v s p).run = (.error (.unsupportedHolder v), d) ∧
      d.run (selectPermissions o v s).run = (.error (.unsupportedHolder v), d) ∧
      d.run (deleteGrant o v s p).run = (.error (.unsupportedHolder v), d) ∧
      d.run (deleteTemplateGrant template v p).run = (.error (.unsupportedHolder v), d) := by
  have hpermission : cells (grantRow g now') "permission" = .text g.permission := rfl
  refine ⟨⟨_, inserts_insertGrant now' g, ?_, ?_, fun name cases hcheck => ?_⟩,
    fun row h' hrow => ?_, ?_, fun v hv d => ?_⟩
  · rw [selects_selectPermissions_iff, holds_grantConditions_iff]
  · rw [selects_deleteGrant_iff, List.forall_mem_append, holds_grantConditions_iff,
      List.forall_mem_singleton, holds_permission_iff hpermission]
    simp only [and_assoc]
  · exact picks_of_check_grants (namesHolder_grantRow g now') hcheck
  · rw [selects_deleteTemplateGrant_iff, List.forall_mem_cons, List.forall_mem_append,
      holds_holderConditions_iff hrow, List.forall_mem_singleton]
    simp [Condition.holds]
  · exact ⟨liftExcept_holderOf_toRecord h _, liftExcept_holderOf_toRecord h _,
      liftExcept_holderOf_toRecord h _, liftExcept_holderOf_toRecord h _⟩
  · exact ⟨run_holderOf_of_none hv _ d, run_holderOf_of_none hv _ d,
      run_holderOf_of_none hv _ d, run_holderOf_of_none hv _ d⟩

/-- What `alice` is granted is found under another login, and dropped from a template under it; the
name alone is no holder. -/
theorem renamed_row_selected :
    let g : Grant := ⟨"org", .user 2 "alice", "scan", .project "proj-1" "org"⟩
    let row := cells [("template_uuid", .text "tpl-1"), ("holder_kind", .text "user"),
      ("user_id", .int 2), ("permission", .text "scan")]
    (∃ row, (statement default (.insertGrant g)).Inserts "grants" row ∧
      (statement default (.deleteGrant { g with holder := .user 2 "renamed" })).Selects Text.lower
        "grants" row ∧
      ∃ f, Schema.checked? (Schema.Constraint.check "ck_grants_holder_kind"
        Schema.holderCases).words = some f ∧ f.Picks Text.lower row) ∧
    (statement default (.deleteTemplateGrant "tpl-1" (.user 2 "renamed") "scan")).Selects Text.lower
      "permission_template_grants" row ∧
    (default : Database).run (selectPermissions "org" (.text "alice") g.scope).run =
      (.error (.unsupportedHolder (.text "alice")), default) := by
  intro g row
  have hnone (h : Holder) : toRecord h ≠ .text "alice" := by
    cases h <;> simp [toRecord]
  obtain ⟨⟨row', hinserts, -, hdelete, hcheck⟩, htemplate, -, hvalue⟩ := stored_row_selected_iff
    Text.lower default default g "org" (.user 2 "renamed") g.scope "scan" "tpl-1"
  refine ⟨⟨row', hinserts, hdelete.mpr ⟨rfl, rfl, rfl, rfl⟩, hcheck _ _ ?_⟩,
    (htemplate row (.user 2 "alice") ⟨rfl, rfl, rfl⟩).mpr ⟨rfl, rfl, rfl⟩,
    (hvalue _ hnone default).2.1⟩
  simp [Schema.grants]

end Sql

end Entitlements
