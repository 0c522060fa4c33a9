import Entitlements.Schema.Migration

/-!
# Scripts

A range of revisions can be written down as a script, to be run on a database later. A script
notes the revision that the database has come to in a table of its own. A step that asks the
database something cannot be written down.
-/

namespace Entitlements.Schema

/-- The table in which a database notes its revision. -/
def versionTable : Table where
  name := "alembic_version"
  columns := [⟨"version_num", .text 32, true, none⟩]
  constraints := [.primaryKey (some "alembic_version_pkc") ["version_num"]]

/-- A text between the marks of a statement. -/
def quoted (s : String) : String := "'" ++ s ++ "'"

/-- Note the revision that a database comes to, given the one it comes from. -/
def noteRevision : (source target : Option String) → List String
  | none, some target =>
    ["INSERT INTO alembic_version (version_num) VALUES (" ++ quoted target ++
      ") RETURNING alembic_version.version_num;"]
  | some source, some target =>
    ["UPDATE alembic_version SET version_num=" ++ quoted target ++
      " WHERE alembic_version.version_num = " ++ quoted source ++ ";"]
  | some source, none =>
    ["DELETE FROM alembic_version WHERE alembic_version.version_num = " ++ quoted source ++ ";"]
  | none, none => []

/-- The word for a direction. -/
def Direction.word : Direction → String
  | .up => "upgrade"
  | .down => "downgrade"

/-- The definitions of steps that ask the database nothing. -/
def definitions? : List Step → Option (List Definition)
  | [] => some []
  | .define d :: rest => (definitions? rest).map (d :: ·)
  | .adoptGroups :: _ => none

/-- The direction that a word names. -/
def Direction.ofWord? (s : String) : Option Direction :=
  [up, down].find? (·.word == s)

/-- The revisions that a database comes from and to, by taking a revision in a direction. -/
def Revision.ends (r : Revision) : Direction → Option String × Option String
  | .up => (r.previous?, some r.id)
  | .down => (some r.id, r.previous?)

/-- The part of a script for one revision. -/
def Revision.script? (d : Direction) (r : Revision) : Option (List String) := do
  let (source, target) := r.ends d
  let definitions ← definitions? (r.steps d)
  let start := if source.isNone then definitionLines [.createTable versionTable] else []
  return start ++
    ["-- Running " ++ d.word ++ " " ++ source.getD "" ++ " -> " ++ target.getD "", ""] ++
    definitionLines definitions ++ noteRevision source target ++ [""]

/-- The number of revisions that a database has after one of them, or before all of them. -/
def position? (name : String) : Option Nat :=
  if name == "base" then some 0
  else if name == "head" || name == "heads" then some revisions.length
  else (revisions.findIdx? (·.id == name)).map (· + 1)

/-- Why a script cannot be written. -/
inductive ScriptFault where
  /-- The range names no revisions, or not in this direction. -/
  | badRange
  /-- A step asks the database something. -/
  | obstacle (o : Obstacle)
  deriving Inhabited

/-- What is complained about as a script cannot be written. -/
def ScriptFault.message : ScriptFault → String
  | .badRange => "the range names no revisions"
  | .obstacle o => o.message?.getD "a step has to ask the database"

/-- Where a range begins and ends. A range upwards can leave out where it begins. -/
def ends? (d : Direction) (range : String) : Option (Nat × Nat) := do
  let cs := range.toList
  let source := cs.takeWhile (· != ':')
  match cs.drop source.length, d with
  | _ :: target, _ =>
    return (← position? (String.ofList source), ← position? (String.ofList target))
  | [], .up => return (0, ← position? range)
  | [], .down => none

/-- The revisions of a range, in the order in which they are taken. Upwards there is nothing to
take where the database is beyond the end of the range already. -/
def revisionsOf? (d : Direction) (range : String) : Option (List Revision) := do
  let (source, target) ← ends? d range
  match d with
  | .up => some ((revisions.take target).drop source)
  | .down =>
    if target ≤ source then some (((revisions.take source).drop target).reverse) else none

/-- The lines of the script for a range of revisions. -/
def script (d : Direction) (range : String) : Except ScriptFault (List String) :=
  match revisionsOf? d range with
  | none => .error .badRange
  | some rs =>
    match rs.mapM (Revision.script? d) with
    | none => .error (.obstacle .needsDatabase)
    | some parts => .ok (["BEGIN;", ""] ++ parts.flatten ++ ["COMMIT;", "", ""])

end Entitlements.Schema
