import Entitlements.Proofs.Program.Asks
import Entitlements.Sql.Database

/-!
# Units of work on a database

A unit of work takes a connection first and gives it back last, whatever happens in between. What
was done is made permanent only where all of it went well. Where something fails, be it a statement,
the work itself or making things permanent, what was done is dropped, the connection is given back
with the fault, and the fault goes on.
-/

namespace Entitlements

/-- The request is made within a unit of work, and neither begins nor ends one. -/
def Request.IsWithin : Request → Prop
  | .begin | .complete | .abandon _ | .probe => False
  | _ => True

namespace Sql

/-- What the connections have been told and what is permanent of it. -/
structure Ledger where
  /-- The statements that wait on each open connection, the one taken last first. -/
  pending : List (List Fragment) := []
  /-- The statements that were made permanent. -/
  kept : List Fragment := []

namespace Ledger

/-- What is told next goes to the connection taken last. Where nothing can be made permanent,
statements go on to wait. -/
def after (commits : Bool) (l : Ledger) (a : Act) : Ledger :=
  match a, l.pending with
  | .acquire, _ => { l with pending := [] :: l.pending }
  | .execute f, waiting :: rest => { l with pending := (waiting ++ [f]) :: rest }
  | .commit, waiting :: rest => if commits then ⟨[] :: rest, l.kept ++ waiting⟩ else l
  | .rollback, _ :: rest => { l with pending := [] :: rest }
  | .release _, _ :: rest => { l with pending := rest }
  | _, _ => l

/-- What is permanent after some acts. -/
def afterAll (commits : Bool) (l : Ledger) (acts : List Act) : Ledger :=
  acts.foldl (after commits) l

variable {commits : Bool} {l : Ledger}

@[simp] theorem afterAll_nil : l.afterAll commits [] = l := rfl

@[simp] theorem afterAll_cons (a : Act) (acts : List Act) :
    l.afterAll commits (a :: acts) = (l.after commits a).afterAll commits acts := rfl

@[simp] theorem afterAll_append (acts acts' : List Act) :
    l.afterAll commits (acts ++ acts') = (l.afterAll commits acts).afterAll commits acts' :=
  List.foldl_append

/-- Statements wait on the connection taken last, in the order in which they were executed. -/
@[simp] theorem afterAll_execute (waiting : List Fragment) (rest : List (List Fragment))
    (kept fs : List Fragment) :
    afterAll commits ⟨waiting :: rest, kept⟩ (fs.map .execute) =
      ⟨(waiting ++ fs) :: rest, kept⟩ := by
  induction fs generalizing waiting with
  | nil => simp
  | cons f fs ih => simp [after, ih]

end Ledger

/-- The statement that is executed, if any. -/
def Act.statement? : Act → Option Fragment
  | .execute f => some f
  | _ => none

namespace Database

variable {α : Type} {d : Database}

/-- What has been made permanent so far, and what waits for it. -/
def ledger (d : Database) : Ledger := Ledger.afterAll d.commitFailure?.isNone {} d.acts

/-- How the database is told to execute a statement. -/
theorem answer_told (q : Query) (d : Database) :
    (d.answer q).2.commitFailure? = d.commitFailure? ∧
      ∃ f, (d.answer q).2.acts = d.acts ++ [.execute f] := by
  unfold answer respond
  cases hresponses : d.responses with
  | nil => simp [tell, hresponses]
  | cons r rest => cases r <;> simp [tell, hresponses]

/-- Within a unit of work statements are executed, and nothing else. -/
theorem run_within {w : Work α} (hw : Work.MakesOnly Request.IsWithin w) (d : Database) :
    (d.run w.run).2.commitFailure? = d.commitFailure? ∧
      ∃ fs : List Fragment, (d.run w.run).2.acts = d.acts ++ fs.map .execute := by
  refine hw.keeps (I := fun d' : Database => d'.commitFailure? = d.commitFailure? ∧
    ∃ fs : List Fragment, d'.acts = d.acts ++ fs.map .execute) ?_ ⟨rfl, [], by simp⟩
  rintro r d' hr ⟨hcommit, fs, hacts⟩
  cases r with
  | query q =>
    obtain ⟨hcommit', f, hacts'⟩ := d'.answer_told q
    refine ⟨hcommit'.trans hcommit, fs ++ [f], ?_⟩
    show (d'.answer q).2.acts = _
    rw [hacts', hacts]
    simp
  | begin => exact hr.elim
  | complete => exact hr.elim
  | abandon f => exact hr.elim
  | probe => exact hr.elim
  | log e => exact ⟨hcommit, fs, hacts⟩
  | now => exact ⟨hcommit, fs, hacts⟩
  | freshUuid => exact ⟨hcommit, fs, hacts⟩
  | introspect token => exact ⟨hcommit, fs, hacts⟩

/-- A unit of work ends as its work does, unless nothing can be made permanent. -/
theorem run_transaction (w : Work α) (d : Database) :
    d.run (transaction w).run =
      match (d.tell .acquire).run w.run with
      | (.error f, d') => (.error f, d'.abandon f)
      | (.ok a, d') =>
        match d'.complete with
        | (.error f, d'') => (.error f, d'')
        | (.ok _, d'') => (.ok a, d'') := by
  have hbegin : (serve .begin d).2 = d.tell .acquire := rfl
  show Program.run serve (.ask .begin fun _ => w.run >>= _) d = _
  rw [Program.run_ask, Program.run_bind, hbegin]
  unfold run
  rcases Program.run serve w.run (d.tell .acquire) with ⟨f | a, d'⟩
  · rfl
  · have hcomplete : serve .complete d' = d'.complete := rfl
    show Program.run serve (.ask .complete fun c => _) d' = _
    rw [Program.run_ask, hcomplete]
    dsimp only
    rcases d'.complete with ⟨f | u, d''⟩
    · rfl
    · rfl

/-- What is told after a fault: what was done is dropped, and the connection is given back. -/
def dropping (f : Fault) : List Act := [.rollback, .rollback, .release (some f)]

/-- How a unit of work goes: its work fails, or nothing can be made permanent, or all is well. -/
theorem transaction_cases {w : Work α} (hw : Work.MakesOnly Request.IsWithin w) (d : Database) :
    let body := ((d.tell .acquire).run w.run).1
    let left := d.run (transaction w).run
    left.2.commitFailure? = d.commitFailure? ∧ ∃ (fs : List Fragment) (ending : List Act),
      left.2.acts = d.acts ++ .acquire :: (fs.map .execute ++ ending) ∧
      ((∃ f, body = .error f ∧ left.1 = .error f ∧ ending = dropping f) ∨
        (∃ a text, body = .ok a ∧ d.commitFailure? = some text ∧
          left.1 = .error (.statementFailed text) ∧
          ending = .commit :: dropping (.statementFailed text)) ∨
        ∃ a, body = .ok a ∧ d.commitFailure? = none ∧ left.1 = .ok a ∧
          ending = [.commit, .release none]) := by
  intro body left
  obtain ⟨hcommit, fs, hacts⟩ := run_within hw (d.tell .acquire)
  have hleft : left = _ := run_transaction w d
  cases hbody : (d.tell .acquire).run w.run with
  | mk r d' =>
    rw [hbody] at hcommit hacts hleft
    have hcommit' : d'.commitFailure? = d.commitFailure? := hcommit
    have hacts' : d'.acts = d.acts ++ .acquire :: fs.map .execute := by
      rw [hacts]
      simp [tell]
    cases r with
    | error f =>
      refine ⟨by rw [hleft]; exact hcommit', fs, dropping f, ?_, .inl ⟨f, ?_, ?_, rfl⟩⟩
      · simp [hleft, abandon, tell, hacts', dropping]
      · simp [body, hbody]
      · simp [hleft]
    | ok a =>
      cases hfailure : d.commitFailure? with
      | some text =>
        have hcomplete : d'.complete = (.error (.statementFailed text),
            (d'.tell .commit).abandon (.statementFailed text)) := by
          simp [complete, commit, hcommit', hfailure]
        dsimp only at hleft
        rw [hcomplete] at hleft
        refine ⟨by rw [hleft]; exact hcommit'.trans hfailure, fs, _, ?_,
          .inr (.inl ⟨a, text, ?_, rfl, ?_, rfl⟩)⟩
        · simp [hleft, abandon, tell, hacts', dropping]
        · simp [body, hbody]
        · simp [hleft]
      | none =>
        have hcomplete : d'.complete = (.ok (), (d'.tell .commit).tell (.release none)) := by
          simp [complete, commit, hcommit', hfailure]
        dsimp only at hleft
        rw [hcomplete] at hleft
        refine ⟨by rw [hleft]; exact hcommit'.trans hfailure, fs, _, ?_,
          .inr (.inr ⟨a, ?_, rfl, ?_, rfl⟩)⟩
        · simp [hleft, tell, hacts']
        · simp [body, hbody]
        · simp [hleft]

/-- Statements may come before anything. -/
private theorem ordered_execute_append {ending : List Act} (fs : List Fragment)
    (h : ending.Pairwise fun a b => a = .commit ∨ a = .rollback → ∀ f, b ≠ .execute f) :
    (fs.map Act.execute ++ ending).Pairwise fun a b =>
      a = .commit ∨ a = .rollback → ∀ f, b ≠ .execute f := by
  induction fs with
  | nil => exact h
  | cons f fs ih =>
    rw [List.map_cons, List.cons_append, List.pairwise_cons]
    exact ⟨fun b _ => by simp, ih⟩

/-- What a database is told in a unit of work, between taking a connection and giving it back, by
how the work in it ended and how the unit ended: no statement comes after the end of a transaction,
one is only made permanent where the work ended well, and after any fault it is dropped. -/
structure Brackets (d : Database) (body result : Except Fault α) (d' : Database)
    (inner : List Act) (after? : Option Fault) : Prop where
  told : d'.acts = d.acts ++ .acquire :: (inner ++ [.release after?])
  acquired : .acquire ∉ inner
  released : ∀ f?, .release f? ∉ inner
  ordered : inner.Pairwise fun a b => a = .commit ∨ a = .rollback → ∀ f, b ≠ .execute f
  committed : .commit ∈ inner ↔ ∃ a, body = .ok a
  failed : ∀ f, body = .error f ∨
      (∃ a, body = .ok a) ∧ d.commitFailure?.map .statementFailed = some f →
    .rollback ∈ inner ∧ after? = some f ∧ result = .error f
  succeeded : ∀ a, body = .ok a → d.commitFailure? = none →
    .rollback ∉ inner ∧ after? = none ∧ result = .ok a
  kept : ∀ a, result = .ok a →
    d'.ledger = { d.ledger with kept := d.ledger.kept ++ inner.filterMap Act.statement? }
  dropped : ∀ f, result = .error f → d'.ledger = d.ledger

/-- Every unit of work is bracketed: whatever the work in it asks for within the unit, whichever
way it goes, and whatever the database answers. -/
theorem exists_brackets {w : Work α} (hw : Work.MakesOnly Request.IsWithin w) (d : Database) :
    ∃ inner after?, Brackets d ((d.tell .acquire).run w.run).1 (d.run (transaction w).run).1
      (d.run (transaction w).run).2 inner after? := by
  obtain ⟨hcommit, fs, ending, hacts, hcases⟩ := transaction_cases hw d
  have hledger : (d.run (transaction w).run).2.ledger = Ledger.afterAll d.commitFailure?.isNone
      ⟨fs :: d.ledger.pending, d.ledger.kept⟩ ending := by
    rw [ledger, hcommit, hacts]
    simp [Ledger.after, ledger]
  have hstatements : (fs.map Act.execute).filterMap Act.statement? = fs := by
    rw [List.filterMap_map]
    exact List.filterMap_some
  rcases hcases with ⟨f, hbody, hresult, rfl⟩ | ⟨a, text, hbody, hfailure, hresult, rfl⟩ |
    ⟨a, hbody, hfailure, hresult, rfl⟩
  · refine ⟨fs.map .execute ++ [.rollback, .rollback], some f, ?_⟩
    rw [hbody, hresult]
    constructor
    case told => simp [hacts, dropping]
    case acquired => simp
    case released => simp
    case ordered => exact ordered_execute_append fs (by simp)
    case committed => simp
    case failed => simp
    case succeeded => simp
    case kept => simp
    case dropped =>
      rintro f' -
      rw [hledger]
      simp [dropping, Ledger.after]
  · refine ⟨fs.map .execute ++ [.commit, .rollback, .rollback], some (.statementFailed text), ?_⟩
    rw [hbody, hresult]
    constructor
    case told => simp [hacts, dropping]
    case acquired => simp
    case released => simp
    case ordered => exact ordered_execute_append fs (by simp)
    case committed => simp
    case failed => simp [hfailure]
    case succeeded => simp [hfailure]
    case kept => simp
    case dropped =>
      rintro f' -
      rw [hledger]
      simp [dropping, Ledger.after, hfailure]
  · refine ⟨fs.map .execute ++ [.commit], none, ?_⟩
    rw [hbody, hresult]
    constructor
    case told => simp [hacts]
    case acquired => simp
    case released => simp
    case ordered => exact ordered_execute_append fs (by simp)
    case committed => simp
    case failed => simp [hfailure]
    case succeeded => simp
    case kept =>
      rintro a' -
      rw [hledger]
      simp [Ledger.after, hfailure, hstatements, Act.statement?]
    case dropped => simp

end Database

end Sql

end Entitlements
