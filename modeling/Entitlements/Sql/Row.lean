import Entitlements.Fault
import Entitlements.Query

/-!
# Reading the rows that answer a question

A row that should describe a thing has a cell for every part of it. No row, or an empty one, is
no thing; a row that ends too early or holds something else than it should cannot be read.
-/

namespace Entitlements.Sql

/-- A row of values. -/
abbrev Row := List Json.Value

/-- The rows that answer a statement, and how many stored rows it was about. -/
structure Table where
  /-- The rows. -/
  rows : List Row
  /-- How many stored rows the statement was about. -/
  affected : Int
  deriving Inhabited

/-- A value that can be read from a cell. -/
class Cell (α : Type) where
  /-- Read a cell. -/
  read? : Json.Value → Option α

instance : Cell String where
  read?
    | .text s => some s
    | _ => none

instance : Cell Int where
  read?
    | .int n => some n
    | _ => none

instance : Cell Bool where
  read?
    | .bool b => some b
    | _ => none

instance {α : Type} [Cell α] : Cell (Option α) where
  read?
    | .null => some none
    | v => (Cell.read? v).map some

instance {α : Type} [Cell α] : Cell (List α) where
  read?
    | .list vs => vs.mapM Cell.read?
    | _ => none

/-- Read the cell at an index of a row. -/
def cell {α : Type} [Cell α] (r : Row) (i : Nat) : Except RowFault α :=
  match r[i]? with
  | none => .error .short
  | some v => match Cell.read? v with
    | some a => .ok a
    | none => .error .cell

/-- Read a row that has to have a number of cells at least. -/
def ofWidth {α : Type} (width : Nat) (read : Row → Except RowFault α) (r : Row) :
    Except RowFault α :=
  if r.length < width then .error .short else read r

/-- The user of a row. -/
def readUser : Row → Except RowFault User := ofWidth 6 fun r => do
  return ⟨← cell r 0, ← cell r 1, ← cell r 2, ← cell r 3, ← cell r 4, ← cell r 5⟩

/-- The organization of a row. -/
def readOrganization : Row → Except RowFault Organization := ofWidth 3 fun r => do
  return ⟨← cell r 0, ← cell r 1, ← cell r 2⟩

/-- The component of a row. -/
def readComponent : Row → Except RowFault Component := ofWidth 6 fun r => do
  return ⟨← cell r 0, ← cell r 1, ← cell r 2, ← cell r 3, ← cell r 4, ← cell r 5⟩

/-- The group of a row. -/
def readGroup : Row → Except RowFault Group := ofWidth 6 fun r => do
  return ⟨← cell r 0, ← cell r 1, ← cell r 2, ← cell r 3, ← cell r 4, ← cell r 5⟩

/-- The group of a row with the number of its members. -/
def readGroupSize : Row → Except RowFault GroupSize := ofWidth 7 fun r => do
  return ⟨← readGroup r, ← cell r 6⟩

/-- The template of a row. -/
def readTemplate : Row → Except RowFault Template := ofWidth 7 fun r => do
  return ⟨← cell r 0, ← cell r 1, ← cell r 2, ← cell r 3, ← cell r 4, ← cell r 5, ← cell r 6⟩

/-- The template group of a row. -/
def readTemplateGroup : Row → Except RowFault TemplateGroup := ofWidth 4 fun r => do
  let permissions : List String ← cell r 3
  return ⟨← cell r 0, ← cell r 1, ← cell r 2, permissions.mergeSort⟩

/-- Add the permission of a row to a snapshot. -/
def addHeld (s : Snapshot) (r : Row) : Except RowFault Snapshot :=
  if r.length != 3 then .error .width
  else do return s.add (← cell r 0) (← cell r 1) (← cell r 2)

/-- The first row that says something. -/
def firstRow? (t : Table) : Option Row := t.rows.head?.filter (!·.isEmpty)

/-- What the first row describes, if it says something. -/
def one? {α : Type} (read : Row → Except RowFault α) (t : Table) :
    Except RowFault (Option α) :=
  (firstRow? t).mapM read

/-- The number in the first row. -/
def number (t : Table) : Except RowFault Int :=
  match t.rows.head? with
  | none => .error .missing
  | some r => cell r 0

/-- Say a fault of a row as a fault of the operation. -/
def orFault {α : Type} : Except RowFault α → Except Fault α
  | .ok a => .ok a
  | .error f => .error (.row f)

/-- The answer to a question. -/
def readAnswer (t : Table) : (q : Query) → Except Fault q.Answer
  | .userByLogin _ => orFault (one? readUser t)
  | .setRoot .. => .ok (decide (0 < t.affected))
  | .organizationByKey _ | .organizationByUuid _ => orFault (one? readOrganization t)
  | .defaultOrganization =>
    match firstRow? t with
    | none => .error .noDefaultOrganization
    | some r => orFault (readOrganization r)
  | .componentByUuid _ | .componentByKey _ => orFault (one? readComponent t)
  | .searchProjects .. => orFault (t.rows.mapM readComponent)
  | .countProjects .. | .countGroups .. | .countAdministrators .. | .countTemplateGroups .. =>
    orFault (number t)
  | .groupById _ | .groupByName .. => orFault (one? readGroup t)
  | .isMember .. => .ok (!t.rows.isEmpty)
  | .searchGroups .. => orFault (t.rows.mapM readGroupSize)
  | .selectPermissions .. => orFault (t.rows.mapM fun r => cell r 0)
  | .loadSnapshot _ => orFault (t.rows.foldlM addHeld Snapshot.empty)
  | .templateByUuid _ | .templateByName .. => orFault (one? readTemplate t)
  | .searchTemplateGroups .. => orFault (t.rows.mapM readTemplateGroup)
  | .addMember .. | .lockOrganization _ | .insertGrant _ | .deleteGrant _ | .insertTemplate _
  | .deleteTemplateGrant .. => .ok ()

end Entitlements.Sql
