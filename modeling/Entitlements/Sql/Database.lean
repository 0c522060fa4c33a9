import Entitlements.Sql.Question
import Entitlements.Sql.Row
import Entitlements.Surroundings

/-!
# Running programs on a database

A unit of work takes a connection, tells the database its statements, and gives the connection
back after it has made them permanent or dropped them. What the database answers is known
beforehand, and everything that it is told is written down.
-/

namespace Entitlements.Sql

/-- What a database is told. -/
inductive Act where
  /-- Open the connections. -/
  | openPool
  /-- Close the connections. -/
  | closePool
  /-- Ask for a sign of life. -/
  | check
  /-- Take a connection. -/
  | acquire
  /-- Execute a statement. -/
  | execute (f : Fragment)
  /-- Make permanent what was done. -/
  | commit
  /-- Drop what was done. -/
  | rollback
  /-- Give the connection back, after a failure if there was one. -/
  | release (after? : Option Fault)

/-- What a database answers to a statement. -/
inductive Response where
  /-- The statement is done. -/
  | table (t : Table)
  /-- The statement fails. -/
  | failure (text : String)
  deriving Inhabited

/-- A database whose answers are known beforehand. -/
structure Database where
  /-- The answers to come, one for every statement. -/
  responses : List Response := []
  /-- What the database says when nothing can be made permanent. -/
  commitFailure? : Option String := none
  /-- What the database was told. -/
  acts : List Act := []
  /-- What is around the database. -/
  around : Surroundings
  deriving Inhabited

namespace Database

/-- Tell the database something. -/
def tell (a : Act) (d : Database) : Database := { d with acts := d.acts ++ [a] }

/-- Take the next answer. There are no rows where all answers are used up. -/
def respond (d : Database) : Response × Database :=
  match d.responses with
  | [] => (.table ⟨[], 0⟩, d)
  | r :: rest => (r, { d with responses := rest })

/-- Ask the database a question. -/
def answer (q : Query) (d : Database) : Except Fault q.Answer × Database :=
  match (d.tell (.execute (statement d.around.clock.toUniversal q))).respond with
  | (.failure text, d) => (.error (.statementFailed text), d)
  | (.table t, d) => (readAnswer t q, d)

/-- Make permanent what was done on the connection taken last. -/
def commit (d : Database) : Except Fault Unit × Database :=
  match d.commitFailure? with
  | some text => (.error (.statementFailed text), d.tell .commit)
  | none => (.ok (), d.tell .commit)

/-- Drop what was done on the connection taken last, and give it back. -/
def abandon (f : Fault) (d : Database) : Database :=
  ((d.tell .rollback).tell .rollback).tell (.release (some f))

/-- End the unit of work begun last, and give its connection back. -/
def complete (d : Database) : Except Fault Unit × Database :=
  match d.commit with
  | (.ok _, d) => (.ok (), d.tell (.release none))
  | (.error f, d) => (.error f, d.abandon f)

/-- What a request means for the database. -/
def serve : (r : Request) → Database → r.Answer × Database
  | .begin, d => ((), d.tell .acquire)
  | .complete, d => d.complete
  | .abandon f, d => ((), d.abandon f)
  | .query q, d => d.answer q
  | .log e, d => ((), { d with around := d.around.record e })
  | .now, d => (d.around.clock, d)
  | .freshUuid, d => let (uuid, around) := d.around.issue; (uuid, { d with around := around })
  | .introspect token, d => (d.around.introspect token, d)
  | .probe, d => (d.around.probe, d.tell .check)

/-- Run a program on the database. -/
def run {α : Type} (d : Database) (p : Program α) : α × Database := p.run serve d

end Database

end Entitlements.Sql
