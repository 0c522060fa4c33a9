import Entitlements.Proofs.Program.Ensures
import Entitlements.Proofs.Session.Answers

/-!
# What is kept of a session

A condition on a session, and on whatever answers it, is kept by what meets it again in the end,
with an answer or with a fault. Whatever a session is asked comes down to loading the permissions
of its caller and to looking up components, whose projects it remembers. A condition that these
keep holds for as long as the session is used.
-/

namespace Entitlements

variable {α β γ : Type} {E : Setting γ} {J : Session → γ → Prop}

/-- Ask, or make the check, and tell how it went. A check that passes says yes. -/
def Probe.tell : Probe → Acting Bool
  | ask i => i.ask
  | check c => do
    c.run
    return true

/-- The condition on the session is met again, however it ends. -/
def Acting.Keeps (E : Setting γ) (J : Session → γ → Prop) (a : Acting α) : Prop :=
  ∀ σ g, J σ g → Ensures E a σ g (fun _ => J) fun _ => J

namespace Acting.Keeps

theorem pure (a : α) : Keeps E J (pure a) := fun _ _ h => h

theorem get : Keeps E J (get : Acting Session) := fun _ _ h => h

theorem raise (r : Refusal) : Keeps E J (r.raise : Acting α) := fun _ _ h => h

theorem require (b : Bool) (r : Refusal) : Keeps E J (Session.require b r) := by
  cases b with
  | false => exact raise r
  | true => exact pure ()

theorem bind {a : Acting α} {k : α → Acting β} (ha : Keeps E J a) (hk : ∀ b, Keeps E J (k b)) :
    Keeps E J (a >>= k) := by
  intro σ g h
  rw [ensures_bind]
  exact (ha σ g h).mono hk fun _ _ _ hτ => hτ

theorem demand {check : Acting Bool} (h : Keeps E J check) : Keeps E J (Session.demand check) :=
  bind h fun _ => require _ _

end Acting.Keeps

namespace Session

/-- The condition is kept by all that a session is made to do by what it is asked. -/
structure Upholds (E : Setting γ) (J : Session → γ → Prop) : Prop where
  load : Acting.Keeps E J load
  componentByKey : ∀ key, Acting.Keeps E J (transaction (Query.ask (.componentByKey key)))
  componentByUuid : ∀ uuid, Acting.Keeps E J (transaction (Query.ask (.componentByUuid uuid)))
  remember : ∀ σ g projects, J σ g → J { σ with projects } g

variable (h : Upholds E J)

include h

theorem resolveProject_keeps (project : String) : Acting.Keeps E J (resolveProject project) := by
  refine .bind .get fun σ => ?_
  cases σ.projects.lookup project with
  | some scope? => exact .pure scope?
  | none =>
    refine .bind (h.componentByUuid project) fun _ => .bind ?_ fun _ => .pure _
    exact fun σ g hσ => h.remember σ g _ hσ

theorem hasPermission_keeps (p : Permission) (organization? : Option String) :
    Acting.Keeps E J (hasPermission p organization?) :=
  .bind h.load fun _ => .bind .get fun _ => .pure _

theorem hasProjectPermission_keeps (p : Permission) (project : String) :
    Acting.Keeps E J (hasProjectPermission p project) :=
  .bind h.load fun _ => .bind (resolveProject_keeps h project) fun _ => .pure _

theorem hasPermissionOn_keeps (p : Permission) (c? : Option Component) :
    Acting.Keeps E J (hasPermissionOn p c?) := by
  cases c? with
  | none => exact .pure false
  | some c => exact hasProjectPermission_keeps h p c.project

end Session

theorem Inquiry.ask_keeps (h : Session.Upholds E J) (i : Inquiry) : Acting.Keeps E J i.ask := by
  cases i with
  | onOrganization p uuid? => exact Session.hasPermission_keeps h p uuid?
  | onProject p uuid => exact Session.hasProjectPermission_keeps h p uuid
  | onComponent p key => exact .bind (h.componentByKey key) (Session.hasPermissionOn_keeps h p)
  | onComponentUuid p uuid =>
    exact .bind (h.componentByUuid uuid) (Session.hasPermissionOn_keeps h p)

theorem Check.run_keeps (h : Session.Upholds E J) (c : Check) : Acting.Keeps E J c.run := by
  cases c with
  | permission i =>
    show Acting.Keeps E J i.demand
    rw [Inquiry.demand_eq]
    exact .demand (i.ask_keeps h)
  | administering scope? =>
    have hload (scope? : Option Scope) : Acting.Keeps E J
        (Session.demand do return (← Session.load).allows? Permission.administer scope?) :=
      .demand (.bind h.load fun _ => .pure _)
    rcases scope? with _ | uuid | ⟨uuid, organization⟩
    · exact hload none
    · exact .demand (Session.hasPermission_keeps h _ _)
    · exact hload (some (.project uuid organization))
  | signedIn =>
    refine .bind (.bind .get fun σ => ?_) fun _ => .pure _
    cases σ.principal.id? with
    | none => exact .raise .notSignedIn
    | some id => exact .pure id
  | root => exact .bind .get fun _ => .require _ _

/-- Whatever the session is asked to tell or to check, the condition is met again. -/
theorem Probe.tell_keeps (h : Session.Upholds E J) (probe : Probe) :
    Acting.Keeps E J probe.tell := by
  cases probe with
  | ask i => exact i.ask_keeps h
  | check c => exact .bind (c.run_keeps h) fun _ => .pure true

end Entitlements
