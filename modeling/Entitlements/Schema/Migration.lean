import Entitlements.Json.Value
import Entitlements.Schema.Revision

/-!
# Making and taking back a revision

A revision is made step by step on a database. Old groups without an organization go to the
default organization; where there is none, no such group may be left.
-/

namespace Entitlements.Schema

open Json (Value)

/-- A statement with values under names. -/
structure Command where
  /-- The text of the statement. -/
  text : String
  /-- The values, each under its name. -/
  values : List (String × Value)
  deriving Inhabited

/-- Which way to go. -/
inductive Direction where
  | up
  | down
  deriving DecidableEq, Repr, Inhabited

/-- Why a revision cannot be made. -/
inductive Obstacle where
  /-- Groups have no organization, and there is none to give them to. -/
  | orphans (count : Value)
  /-- The state of the database is needed and not known. -/
  | needsDatabase
  deriving Inhabited

/-- The words of an obstacle, where it has any of its own. -/
def Obstacle.message? : Obstacle → Option String
  | .orphans count =>
    some (count.display ++
      " groups have no organization and no default organization is defined")
  | .needsDatabase => none

/-- How far a migration has come. -/
structure Progress where
  /-- What the database will answer, each answer a single value. -/
  answers : List Value := []
  /-- What was executed. -/
  executed : List Command := []
  /-- The changes of the database's form. -/
  definitions : List Definition := []
  deriving Inhabited

namespace Progress

/-- Execute a statement. -/
def execute (c : Command) (p : Progress) : Progress := { p with executed := p.executed ++ [c] }

/-- Take the next answer; nothing where all are used up. -/
def next (p : Progress) : Value × Progress :=
  match p.answers with
  | [] => (.null, p)
  | v :: rest => (v, { p with answers := rest })

end Progress

/-- The question for the default organization. -/
def defaultOrganizationQuestion : Command :=
  ⟨"SELECT text_value FROM internal_properties WHERE kee = :kee",
    [("kee", .text "organization.default")]⟩

/-- The question for the number of groups without an organization. -/
def orphanQuestion : Command :=
  ⟨"SELECT count(*) FROM groups WHERE organization_uuid IS NULL", []⟩

/-- Give the groups without an organization to one. -/
def adoption (organization : Value) : Command :=
  ⟨"UPDATE groups SET organization_uuid = :org, updated_at = now() " ++
    "WHERE organization_uuid IS NULL", [("org", organization)]⟩

/-- Look after the groups without an organization. -/
def adoptGroups (p : Progress) : Except Obstacle Unit × Progress :=
  match (p.execute defaultOrganizationQuestion).next with
  | (.null, p) =>
    let (count, p) := (p.execute orphanQuestion).next
    (if count.isTruthy then .error (.orphans count) else .ok (), p)
  | (organization, p) => (.ok (), p.execute (adoption organization))

/-- Take steps on a database until one of them meets an obstacle. -/
def takeSteps : List Step → Progress → Except Obstacle Unit × Progress
  | [], p => (.ok (), p)
  | .define d :: rest, p => takeSteps rest { p with definitions := p.definitions ++ [d] }
  | .adoptGroups :: rest, p =>
    match adoptGroups p with
    | (.ok _, p) => takeSteps rest p
    | (.error o, p) => (.error o, p)

/-- The steps of a revision in a direction. -/
def Revision.steps (r : Revision) : Direction → List Step
  | .up => r.up
  | .down => r.down

/-- The lines of definitions, each followed by an empty one. -/
def definitionLines (ds : List Definition) : List String :=
  ds.flatMap fun d => d.lines ++ [""]

end Entitlements.Schema
