import Entitlements.Proofs.Sql.UnitOfWork

/-!
# Databases and their scripts

Everything that a database will answer is known beforehand, one response for every statement. So
what a database answers to a question depends only on how many statements came before, and what it
was told tells which responses are left.
-/

namespace Entitlements.Sql

/-- How many statements were executed. -/
def executed (acts : List Act) : Nat := (acts.filterMap Act.statement?).length

@[simp] theorem executed_append (acts acts' : List Act) :
    executed (acts ++ acts') = executed acts + executed acts' := by
  simp [executed]

/-- What a response to the statement of a question answers to the question. -/
def Response.read : Response → (q : Query) → Except Fault q.Answer
  | .failure text, _ => .error (.statementFailed text)
  | .table t, q => readAnswer t q

/-- The response to a statement by how many came before it. There are no rows where all answers are
used up. -/
def responseTo (script : List Response) (n : Nat) : Response :=
  script[n]?.getD (.table ⟨[], 0⟩)

namespace Database

variable {d d' : Database} {acts : List Act}

/-- What the database was told since. The script is used up statement by statement, and time stands
still. -/
structure Told (d : Database) (acts : List Act) (d' : Database) : Prop where
  told : d'.acts = d.acts ++ acts
  responses : d'.responses = d.responses.drop (executed acts)
  clock : d'.around.clock = d.around.clock

theorem Told.refl (d : Database) : Told d [] d := ⟨by simp, rfl, rfl⟩

theorem Told.tell (h : Told d acts d') {a : Act} (ha : a.statement? = none) :
    Told d (acts ++ [a]) (d'.tell a) where
  told := by simp [Database.tell, h.told]
  responses := by
    have hsame : executed (acts ++ [a]) = executed acts := by simp [executed, ha]
    rw [hsame]
    exact h.responses
  clock := h.clock

/-- The response to a statement comes from the script, and is used up. -/
theorem respond_eq {script : List Response} {n : Nat} (h : d.responses = script.drop n) :
    d.respond = (responseTo script n, { d with responses := script.drop (n + 1) }) := by
  have hnext : script[n]? = d.responses.head? := by rw [h, List.head?_drop]
  have htail : script.drop (n + 1) = d.responses.tail := by rw [h, List.tail_drop]
  rw [responseTo, hnext, htail]
  obtain ⟨responses, commitFailure?, told, around⟩ := d
  cases responses <;> rfl

/-- A question is answered by the response to its statement. -/
theorem Told.answer (h : Told d acts d') (q : Query) :
    (d'.answer q).1 = (responseTo d.responses (executed acts)).read q ∧
      Told d (acts ++ [.execute (statement d.around.clock.toUniversal q)]) (d'.answer q).2 := by
  have hresponses : (d'.tell (.execute (statement d.around.clock.toUniversal q))).responses =
      d.responses.drop (executed acts) := h.responses
  rw [Database.answer, h.clock, respond_eq hresponses]
  cases hresponse : responseTo d.responses (executed acts) with
  | failure text =>
    refine ⟨rfl, ?_, ?_, h.clock⟩
    · simp [Database.tell, h.told]
    · simp [executed, Act.statement?]
  | table t =>
    refine ⟨rfl, ?_, ?_, h.clock⟩
    · simp [Database.tell, h.told]
    · simp [executed, Act.statement?]

theorem Told.abandon (h : Told d acts d') (f : Fault) :
    Told d (acts ++ dropping f) (d'.abandon f) := by
  have hrolled : Told d (acts ++ [.rollback] ++ [.rollback] ++ [.release (some f)])
      (d'.abandon f) := ((h.tell rfl).tell rfl).tell rfl
  simpa [dropping] using hrolled

/-- Completing a unit of work makes permanent first, and drops what was done where that fails. -/
theorem Told.complete (h : Told d acts d') :
    ∃ later, Told d (acts ++ .commit :: later) d'.complete.2 ∧
      (later = [.release none] ∨ ∃ f, later = dropping f) := by
  have hcommit : Told d (acts ++ [.commit]) (d'.tell .commit) := h.tell rfl
  unfold Database.complete Database.commit
  cases d'.commitFailure? with
  | some text =>
    refine ⟨dropping (.statementFailed text), ?_, .inr ⟨_, rfl⟩⟩
    simpa using hcommit.abandon (.statementFailed text)
  | none =>
    refine ⟨[.release none], ?_, .inl rfl⟩
    simpa using hcommit.tell (a := .release none) rfl

end Database

end Entitlements.Sql
