import Entitlements.Grant
import Entitlements.Program
import Entitlements.Sql.Statement

/-!
# Conditions on stored grants

A stored grant names the kind of its holder and the identifier of the user or the group; a grant
of everyone has neither. Reading and deleting grants asks for rows by conditions on single
columns that have to hold together.

What is called about the grants of a holder is given a value that stands for the holder. A value
that stands for none has neither a row nor conditions, and the call fails.
-/

namespace Entitlements.Sql

/-- A condition on a column. -/
inductive Condition where
  /-- The column holds a word that is part of the statement. -/
  | isWord (column word : String)
  /-- The column holds a value that goes beside the statement. -/
  | equals (column : String) (d : Datum)
  /-- The column holds nothing. -/
  | isNull (column : String)
  /-- The column holds something. -/
  | notNull (column : String)
  deriving DecidableEq, Repr

namespace Condition

/-- A condition as part of a statement. -/
def fragment : Condition → Fragment
  | .isWord column word => [.words (column ++ " = '" ++ word ++ "'")]
  | .equals column d => [.words (column ++ " = "), .place d]
  | .isNull column => [.words (column ++ " IS NULL")]
  | .notNull column => [.words (column ++ " IS NOT NULL")]

/-- A condition holds of a row. Nothing equals nothing. -/
def holds (row : String → Datum) : Condition → Bool
  | .isWord column word => row column == .text word
  | .equals column d => row column == d && d != .null
  | .isNull column => row column == .null
  | .notNull column => row column != .null

/-- Conditions that have to hold together, as part of a statement. -/
def all : List Condition → Fragment
  | [] => []
  | [c] => c.fragment
  | c :: rest => c.fragment ++ [.words " AND "] ++ all rest

end Condition

/-- The word for the kind of a holder. -/
def holderKind : Holder → String
  | .user _ _ => "user"
  | .group _ => "group"
  | .anyone => "anyone"

/-- The user in the row of a holder. -/
def holderUser : Holder → Option Int
  | .user id _ => some id
  | _ => none

/-- The group in the row of a holder. -/
def holderGroup : Holder → Option Int
  | .group id => some id
  | _ => none

/-- The rows of a holder. -/
def holderConditions : Holder → List Condition
  | .user id _ => [.isWord "holder_kind" "user", .equals "user_id" (.int id)]
  | .group id => [.isWord "holder_kind" "group", .equals "group_id" (.int id)]
  | .anyone => [.isWord "holder_kind" "anyone"]

/-- The rows of a scope. -/
def scopeConditions : Scope → List Condition
  | .project uuid _ => [.equals "project_uuid" (.text uuid)]
  | .organization _ => [.isNull "project_uuid"]

/-- The rows of the grants that a holder has in a scope. -/
def grantConditions (organization : String) (holder : Holder) (scope : Scope) : List Condition :=
  .equals "organization_uuid" (.text organization) ::
    (holderConditions holder ++ scopeConditions scope)

/-- The row of a grant that is stored at a moment. -/
def grantRow (g : Grant) (now : Instant) : List (String × Datum) :=
  [("organization_uuid", .text g.organization), ("holder_kind", .text (holderKind g.holder)),
    ("user_id", .ofInt? (holderUser g.holder)), ("group_id", .ofInt? (holderGroup g.holder)),
    ("project_uuid", .ofText? g.scope.project?), ("permission", .text g.permission),
    ("created_at", .time now)]

/-- The holder that a value stands for, if it stands for any. -/
def holder? : Json.Value → Option Holder
  | .object [("user", .list [.int id, .text login])] => some (.user id login)
  | .object [("group", .int id)] => some (.group id)
  | .text "anyone" => some .anyone
  | _ => none

/-- The holder that a value stands for, which has to stand for one. -/
def holderOf (v : Json.Value) : Except Fault Holder :=
  match holder? v with
  | some h => .ok h
  | none => .error (.unsupportedHolder v)

section

variable (organization template : String) (holder : Json.Value) (scope : Scope)
  (permission : Permission)

/-- The permissions that a holder has in a scope. -/
def selectPermissions : Work (List Permission) := do
  Query.ask (.selectPermissions organization (← liftExcept (holderOf holder)) scope)

/-- Store a grant of a holder. -/
def insertGrant : Work Unit := do
  Query.ask (.insertGrant ⟨organization, ← liftExcept (holderOf holder), permission, scope⟩)

/-- Drop a grant of a holder. -/
def deleteGrant : Work Unit := do
  Query.ask (.deleteGrant ⟨organization, ← liftExcept (holderOf holder), permission, scope⟩)

/-- Drop what a template gives to a holder. -/
def deleteTemplateGrant : Work Unit := do
  Query.ask (.deleteTemplateGrant template (← liftExcept (holderOf holder)) permission)

end

end Entitlements.Sql
