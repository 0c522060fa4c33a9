import Entitlements.Sql.Condition

/-!
# Tables

What the tables of the database are made of, and how each part is written in a statement that
makes or changes a table.
-/

namespace Entitlements.Schema

open Sql (Condition Fragment)

/-- The kind of value that a column holds. -/
inductive ColumnType where
  /-- A text up to a length. -/
  | text (length : Nat)
  /-- A large integer. -/
  | integer
  /-- A large integer that counts up by itself. -/
  | counter
  /-- A truth value. -/
  | truth
  /-- A moment. -/
  | moment
  deriving DecidableEq, Repr, Inhabited

/-- The words for a kind of value. -/
def ColumnType.words : ColumnType → String
  | .text length => "VARCHAR(" ++ toString length ++ ")"
  | .integer => "BIGINT"
  | .counter => "BIGSERIAL"
  | .truth => "BOOLEAN"
  | .moment => "TIMESTAMP WITH TIME ZONE"

/-- A column of a table. -/
structure Column where
  /-- The name of the column. -/
  name : String
  /-- What it holds. -/
  type : ColumnType
  /-- It always holds something. -/
  required : Bool := true
  /-- What it holds where nothing is given. -/
  usual? : Option String := none
  deriving DecidableEq, Repr

/-- The words for a column. -/
def Column.words (c : Column) : String :=
  c.name ++ " " ++ c.type.words ++ (match c.usual? with
    | some usual => " DEFAULT " ++ usual
    | none => "") ++ (if c.required then " NOT NULL" else "")

/-- A rule of a table. -/
inductive Constraint where
  /-- The columns tell rows apart. -/
  | primaryKey (name? : Option String) (columns : List String)
  /-- The column holds a value of a column of another table; with that row the row may go. -/
  | foreignKey (column table target : String) (cascades : Bool)
  /-- One of the cases holds, with all its conditions. -/
  | check (name : String) (cases : List (List Condition))
  deriving DecidableEq, Repr

/-- Words with commas between them. -/
def commas (ws : List String) : String := String.intercalate ", " ws

/-- The name of a rule, in front of the rule. -/
def named (name? : Option String) : String :=
  match name? with
  | some name => "CONSTRAINT " ++ name ++ " "
  | none => ""

/-- The words for a case of a check. -/
def caseWords (conditions : List Condition) : String :=
  "(" ++ Fragment.text (Condition.all conditions) ++ ")"

/-- The words for a rule. -/
def Constraint.words : Constraint → String
  | .primaryKey name? columns => named name? ++ "PRIMARY KEY (" ++ commas columns ++ ")"
  | .foreignKey column table target cascades =>
    "FOREIGN KEY(" ++ column ++ ") REFERENCES " ++ table ++ " (" ++ target ++ ")" ++
      (if cascades then " ON DELETE CASCADE" else "")
  | .check name cases =>
    named (some name) ++ "CHECK (" ++ String.intercalate " OR " (cases.map caseWords) ++ ")"

/-- A table. -/
structure Table where
  /-- The name of the table. -/
  name : String
  /-- The columns. -/
  columns : List Column
  /-- The rules, in order. -/
  constraints : List Constraint
  deriving DecidableEq, Repr

/-- The parts of a table, one a line. -/
def Table.parts (t : Table) : List String :=
  t.columns.map Column.words ++ t.constraints.map Constraint.words

/-- A change of the database's form. -/
inductive Definition where
  /-- Make a table. -/
  | createTable (t : Table)
  /-- Drop a table. -/
  | dropTable (name : String)
  /-- Make an index on columns, or on what is computed from them. -/
  | createIndex (unique : Bool) (name table : String) (parts : List String)
  /-- Drop an index. -/
  | dropIndex (name : String)
  /-- Add a column to a table. -/
  | addColumn (table : String) (c : Column)
  /-- Drop a column of a table. -/
  | dropColumn (table column : String)
  /-- Have a column always hold something, or no longer. -/
  | setRequired (table column : String) (required : Bool)
  deriving DecidableEq, Repr

/-- The lines of parts, with commas between them. -/
def partLines : List String → List String
  | [] => []
  | [part] => ["    " ++ part]
  | part :: rest => ("    " ++ part ++ ", ") :: partLines rest

/-- The lines of a definition. -/
def Definition.lines : Definition → List String
  | .createTable t => ("CREATE TABLE " ++ t.name ++ " (") :: (partLines t.parts ++ [");"])
  | .dropTable name => ["DROP TABLE " ++ name ++ ";"]
  | .createIndex unique name table parts =>
    ["CREATE " ++ (if unique then "UNIQUE " else "") ++ "INDEX " ++ name ++ " ON " ++ table ++
      " (" ++ commas parts ++ ");"]
  | .dropIndex name => ["DROP INDEX " ++ name ++ ";"]
  | .addColumn table c => ["ALTER TABLE " ++ table ++ " ADD COLUMN " ++ c.words ++ ";"]
  | .dropColumn table column => ["ALTER TABLE " ++ table ++ " DROP COLUMN " ++ column ++ ";"]
  | .setRequired table column required =>
    ["ALTER TABLE " ++ table ++ " ALTER COLUMN " ++ column ++
      (if required then " SET" else " DROP") ++ " NOT NULL;"]

end Entitlements.Schema
