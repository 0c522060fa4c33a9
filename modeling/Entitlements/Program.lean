import Entitlements.Auth.Introspection
import Entitlements.Event
import Entitlements.Fault
import Entitlements.Instant
import Entitlements.Query

/-!
# Programs

An operation is written as a program: a tree of requests to its surroundings, each followed by
what to do with every answer. What a request means is left to whoever runs the program, so one
program can be run on a store in memory and over statements to a database.

Work on the store is done in units. A unit that ends well is completed, one that fails is
abandoned, and the failure goes on.
-/

namespace Entitlements

/-- What a program asks of its surroundings. -/
inductive Request where
  /-- Begin a unit of work. -/
  | begin
  /-- Make the unit of work begun last permanent. -/
  | complete
  /-- Give up the unit of work begun last. -/
  | abandon (f : Fault)
  /-- Ask the store within the unit of work begun last. -/
  | query (q : Query)
  /-- Record an event. -/
  | log (e : Event)
  /-- The time of day. -/
  | now
  /-- An identifier that nothing else has. -/
  | freshUuid
  /-- Ask the service that knows tokens about one of them. -/
  | introspect (token : String)
  /-- Ask whether the store answers. -/
  | probe

/-- The kind of answer that a request has. -/
abbrev Request.Answer : Request → Type
  | .begin => Unit
  | .complete => Except Fault Unit
  | .abandon _ => Unit
  | .query q => Except Fault q.Answer
  | .log _ => Unit
  | .now => Instant
  | .freshUuid => String
  | .introspect _ => Auth.Introspection
  | .probe => Except String Unit

/-- A program that ends with a value. -/
inductive Program (α : Type) where
  /-- The program has ended. -/
  | done (a : α)
  /-- The program waits for the answer to a request. -/
  | ask (r : Request) (next : r.Answer → Program α)

namespace Program

variable {α β γ : Type}

/-- Go on with the value of a program. -/
def andThen (f : α → Program β) : Program α → Program β
  | .done a => f a
  | .ask r next => .ask r fun a => andThen f (next a)

instance : Monad Program where
  pure := .done
  bind p f := p.andThen f

/-- The program of a single request. -/
def request (r : Request) : Program r.Answer := .ask r .done

@[simp] theorem pure_eq (a : α) : (pure a : Program α) = .done a := rfl

@[simp] theorem done_bind (a : α) (f : α → Program β) : (Program.done a >>= f) = f a := rfl

@[simp] theorem ask_bind (r : Request) (next : r.Answer → Program α) (f : α → Program β) :
    (Program.ask r next >>= f) = .ask r fun a => next a >>= f := rfl

/-- What comes after what comes after a program. -/
theorem bind_assoc (p : Program α) (f : α → Program β) (g : β → Program γ) :
    p >>= f >>= g = p >>= fun a => f a >>= g := by
  induction p with
  | done a => rfl
  | ask r next ih => simp [ih]

theorem bind_done (p : Program α) : (p >>= Program.done) = p := by
  induction p with
  | done a => rfl
  | ask r next ih => simp [ih]

instance : LawfulMonad Program :=
  LawfulMonad.mk' Program bind_done (fun _ _ => rfl) bind_assoc

/-- Run a program on a state, given what every request means there. -/
def run {σ : Type} (serve : (r : Request) → σ → r.Answer × σ) : Program α → σ → α × σ
  | .done a, s => (a, s)
  | .ask r next, s => run serve (next (serve r s).1) (serve r s).2

section

variable {σ : Type} (serve : (r : Request) → σ → r.Answer × σ)

@[simp] theorem run_done (a : α) (s : σ) : run serve (.done a) s = (a, s) := rfl

@[simp] theorem run_ask (r : Request) (next : r.Answer → Program α) (s : σ) :
    run serve (.ask r next) s = run serve (next (serve r s).1) (serve r s).2 := rfl

/-- Running two programs one after the other. -/
@[simp] theorem run_bind (p : Program α) (f : α → Program β) (s : σ) :
    run serve (p >>= f) s = run serve (f (run serve p s).1) (run serve p s).2 := by
  induction p generalizing s with
  | done a => rfl
  | ask r next ih => simp [ih]

@[simp] theorem run_request (r : Request) (s : σ) : run serve (request r) s = serve r s := rfl

end

end Program

/-- A program that can fail. -/
abbrev Work := ExceptT Fault Program

section

variable {m : Type → Type} [Monad m] [MonadLiftT Program m] {α : Type}

/-- Ask for something that is always answered. -/
def Request.ask (r : Request) : ExceptT Fault m r.Answer :=
  ExceptT.lift (liftM (Program.request r))

/-- Ask the store. -/
def Query.ask (q : Query) : ExceptT Fault m q.Answer :=
  ExceptT.mk (liftM (Program.request (.query q)))

/-- Record an event. -/
def Event.record (e : Event) : ExceptT Fault m Unit := Request.ask (.log e)

/-- Fail with a refusal. -/
def Refusal.raise (r : Refusal) : ExceptT Fault m α := throw (.refused r)

/-- Do work in a unit of its own. -/
def transaction (body : ExceptT Fault m α) : ExceptT Fault m α := ExceptT.mk do
  let _ ← liftM (Program.request .begin)
  match ← body.run with
  | .error f =>
    let _ ← liftM (Program.request (.abandon f))
    return .error f
  | .ok a =>
    match ← liftM (Program.request .complete) with
    | .error f => return .error f
    | .ok _ => return .ok a

end

end Entitlements
