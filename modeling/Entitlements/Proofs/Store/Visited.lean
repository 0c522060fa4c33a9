import Entitlements.Proofs.Program.Ensures
import Entitlements.Store.Run

/-!
# The states that a run goes through

A run of a program on a store in memory visits the store before every request and the store that
is left. The store is a setting in which everything may be asked and every request has the one
answer that the store gives; what a program ensures there is what its run does. A condition that
has to hold whenever something is asked is ensured exactly when it holds in all that is visited.
-/

namespace Entitlements.Store

variable {α β : Type}

/-- The stores before each request of a program and the store that is left. -/
def visited : Program α → Store → List Store
  | .done _, s => [s]
  | .ask r next, s => s :: visited (next (serve r s).1) (serve r s).2

/-- The store as a setting in which a condition has to hold whenever something is asked. -/
def keeping (I : Store → Prop) : Setting Store where
  permits s _ := I s
  answers s r a t := serve r s = (a, t)

/-- The store as a setting in which everything may be asked. -/
def setting : Setting Store := keeping fun _ => True

/-- What is left in the end has been visited. -/
theorem run_mem_visited (p : Program α) (s : Store) : (s.run p).2 ∈ visited p s := by
  induction p generalizing s with
  | done a => exact List.mem_singleton_self s
  | ask r next ih => exact List.mem_cons_of_mem s (ih _ _)

/-- The first store visited is the one that the run starts from. -/
theorem mem_visited_self (p : Program α) (s : Store) : s ∈ visited p s := by
  cases p with
  | done a => exact List.mem_singleton_self s
  | ask r next => exact List.mem_cons_self

/-- A condition holds in all that is visited when it holds at every request and in the end. -/
theorem forall_mem_visited_iff (I : Store → Prop) (p : Program α) (s : Store) :
    (∀ t ∈ visited p s, I t) ↔ p.Ensures (keeping I) s fun _ t => I t := by
  induction p generalizing s with
  | done a => simp [visited]
  | ask r next ih =>
    rw [visited, List.forall_mem_cons, ih]
    refine and_congr_right fun _ => ⟨?_, fun h => h _ _ rfl⟩
    rintro h a t hat
    obtain ⟨rfl, rfl⟩ := Prod.mk.inj hat
    exact h

/-- What a program ensures on a store is a condition on how its run ends. -/
theorem ensures_setting_iff (p : Program α) (s : Store) (Q : α → Store → Prop) :
    p.Ensures setting s Q ↔ Q (s.run p).1 (s.run p).2 := by
  induction p generalizing s with
  | done a => rfl
  | ask r next ih =>
    rw [run, Program.run_ask, ← run, ← ih]
    refine ⟨fun h => h.2 _ _ rfl, fun h => ⟨trivial, ?_⟩⟩
    rintro a t hat
    obtain ⟨rfl, rfl⟩ := Prod.mk.inj hat
    exact h

end Entitlements.Store
