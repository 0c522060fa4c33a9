import Entitlements.Proofs.Service.Effects

/-!
# Sessions at work on a store

Callers sign in and then call commands, in any order, each through the session that signing in
gave. What a session has learned stays with it from one call to the next, and all sessions work on
one store in memory.
-/

namespace Entitlements

/-- A store and the sessions at work on it. -/
structure World where
  /-- The store. -/
  store : Store
  /-- The sessions, in the order in which they were made. -/
  sessions : List Session

/-- What happens next in a world. -/
inductive Move where
  /-- Somebody signs in, or comes as a visitor. -/
  | signIn (login? : Option String)
  /-- A command is called through one of the sessions. -/
  | call (session : Nat) (c : Service.Command)

namespace World

/-- A move and what comes of it. -/
def step (w : World) : Move → World
  | .signIn login? =>
    match w.store.run (Session.create login?).run with
    | (.ok σ, t) => ⟨t, w.sessions ++ [σ]⟩
    | (.error _, t) => ⟨t, w.sessions⟩
  | .call session c =>
    match w.sessions[session]? with
    | none => w
    | some σ =>
      ⟨(w.store.run (c.run.run.run σ)).2,
        w.sessions.set session (w.store.run (c.run.run.run σ)).1.2⟩

/-- One move after the other. -/
def run (w : World) (moves : List Move) : World := moves.foldl step w

/-- Signing in changes nothing that is stored, and the session that it gives is of the account
behind the login. -/
theorem step_signIn (w : World) (login? : Option String) :
    w.store.SameData (w.step (.signIn login?)).store ∧
      ∀ τ ∈ (w.step (.signIn login?)).sessions,
        τ ∈ w.sessions ∨ τ = Session.ofUser? (w.store.caller? login?) := by
  have hend := (Store.ensures_setting_iff _ _ _).mp (Session.create_ensures login? w.store)
  rw [step]
  split
  next σ t hrun =>
    rw [hrun] at hend
    refine ⟨hend.2.sameData, fun τ hτ => ?_⟩
    rcases List.mem_append.mp hτ with hτ | hτ
    · exact .inl hτ
    · exact .inr ((List.mem_singleton.mp hτ).trans hend.1)
  next f t hrun =>
    rw [hrun] at hend
    exact hend.elim

/-- A call does what its command does for one of the sessions, which goes on with what it has
learned. -/
theorem step_call (w : World) (hfresh : w.store.NextUuidFresh) (session : Nat)
    (c : Service.Command) :
    w.step (.call session c) = w ∨
      ∃ σ ∈ w.sessions, c.Leaves σ w.store (w.step (.call session c)).store ∧
        ∀ τ ∈ (w.step (.call session c)).sessions,
          τ ∈ w.sessions ∨ Session.Learned w.store σ τ := by
  rw [step]
  cases hσ : w.sessions[session]? with
  | none => exact .inl rfl
  | some σ =>
    have hend := c.ends_of_run σ hfresh
    refine .inr ⟨σ, List.mem_of_getElem? hσ, hend.2, fun τ hτ => ?_⟩
    rcases List.mem_or_eq_of_mem_set hτ with hτ | rfl
    · exact .inl hτ
    · exact .inr hend.1

end World

end Entitlements
