import Entitlements.Proofs.Program.Preserves
import Entitlements.Proofs.Session.Upkeep

/-!
# The turns of a session

A session is asked one thing after the other, while other sessions and whoever else works on the
store change it at any time: between two turns, and between two questions within one. All that a
session can see of this is what its own questions find. A turn is therefore something to ask of
the session together with the store as each question in it finds it, and nothing relates these
stores to each other.

However its turns go, a session only reads, so that it leaves nothing behind itself, and it reads
the permissions of its caller at most once.
-/

namespace Entitlements

variable {α β : Type}

namespace Store

/-- Answer requests so that every question finds a store of its own, by how many came before. -/
def serveEach (found : Nat → Store) : (r : Request) → Nat → r.Answer × Nat
  | .query q, n => (((found n).answer q).1, n + 1)
  | r, n => ((serve r (found n)).1, n)

end Store

namespace Acting

variable {found : Nat → Store} {σ : Session} {n : Nat} {ok : α → Session → Nat → Prop}
  {err : Fault → Session → Nat → Prop}

/-- A question is answered from the store that it finds. -/
theorem ensures_each_query {q : Query} {ok : q.Answer → Session → Nat → Prop} :
    Ensures (.serving (Store.serveEach found)) (Query.ask q) σ n ok err ↔
      match ((found n).answer q).1 with
      | .ok a => ok a σ (n + 1)
      | .error f => err f σ (n + 1) := by
  rw [ensures_query]
  refine ⟨fun h => h.2 _ _ rfl, fun h => ⟨trivial, ?_⟩⟩
  intro a m ha
  obtain ⟨rfl, rfl⟩ := Prod.mk.inj ha
  exact h

/-- Units of work end as they should, and only questions count. -/
theorem ensures_each_transaction (a : Acting α) :
    Ensures (.serving (Store.serveEach found)) (transaction a) σ n ok err ↔
      Ensures (.serving (Store.serveEach found)) a σ n ok err := by
  rw [ensures_transaction]
  constructor
  · intro h
    exact (h.2 () n rfl).mono (fun b τ m hb => hb.2 (.ok ()) _ rfl) fun f τ m hf => hf.2 () _ rfl
  · intro h
    refine ⟨trivial, ?_⟩
    rintro ⟨⟩ m ⟨⟩
    refine h.mono (fun b τ m hb => ⟨trivial, ?_⟩) fun f τ m hf => ⟨trivial, ?_⟩
    · rintro c m' ⟨⟩
      exact hb
    · rintro ⟨⟩ m' ⟨⟩
      exact hf

end Acting

/-- The requests of a run. -/
def Program.requests {κ : Type} (serve : (r : Request) → κ → r.Answer × κ) :
    Program α → κ → List Request
  | .done _, _ => []
  | .ask r next, s => r :: requests serve (next (serve r s).1) (serve r s).2

/-- The request reads the permissions of somebody. -/
def Request.readsSnapshot : Request → Bool
  | .query (.loadSnapshot _) => true
  | _ => false

/-- Something that a session is asked, and what it finds. -/
structure Turn where
  /-- What the session is asked to tell or to check. -/
  probe : Probe
  /-- The store as each question in the turn finds it, by how many came before. -/
  found : Nat → Store

namespace Session

/-- What the session answers to a turn. -/
def answerTo (σ : Session) (turn : Turn) : Except Fault Bool :=
  ((turn.probe.tell.run.run σ).run (Store.serveEach turn.found) 0).1.1

/-- The session after a turn. -/
def after (σ : Session) (turn : Turn) : Session :=
  ((turn.probe.tell.run.run σ).run (Store.serveEach turn.found) 0).1.2

/-- The session after one turn and the other. -/
def afterAll (σ : Session) (turns : List Turn) : Session := turns.foldl after σ

theorem afterAll_concat (σ : Session) (turns : List Turn) (turn : Turn) :
    σ.afterAll (turns ++ [turn]) = (σ.afterAll turns).after turn := List.foldl_concat ..

/-- What the session answers to one turn after the other. -/
def answers (σ : Session) : List Turn → List (Except Fault Bool)
  | [] => []
  | turn :: rest => σ.answerTo turn :: (σ.after turn).answers rest

/-- What the session requests in one turn after the other. -/
def requests (σ : Session) : List Turn → List Request
  | [] => []
  | turn :: rest =>
    (turn.probe.tell.run.run σ).requests (Store.serveEach turn.found) 0 ++
      (σ.after turn).requests rest

end Session

/-- Questions only read, and it is counted how often they read permissions, which never fails. -/
def Setting.readings : Setting Nat where
  permits
    | _, .query q => q.Reads
    | _, _ => True
  answers
    | n, .query (.loadSnapshot _), a, m => (∃ s, a = .ok s) ∧ m = n + 1
    | n, _, _, m => m = n

/-- What is counted while a program runs is found among its requests. -/
theorem Program.Ensures.counted {p : Program α} {n : Nat} {Q : α → Nat → Prop}
    (h : p.Ensures .readings n Q) (found : Nat → Store) (k : Nat) :
    (∀ q, .query q ∈ p.requests (Store.serveEach found) k → q.Reads) ∧
      Q (p.run (Store.serveEach found) k).1
        (n + (p.requests (Store.serveEach found) k).countP (·.readsSnapshot)) := by
  induction p generalizing n k with
  | done a => exact ⟨nofun, h⟩
  | ask r next ih =>
    have hanswer : Setting.readings.answers n r (Store.serveEach found r k).1
        (n + if r.readsSnapshot then 1 else 0) := by
      cases r with
      | query q =>
        cases q with
        | loadSnapshot user? => exact ⟨⟨_, rfl⟩, rfl⟩
        | _ => rfl
      | _ => rfl
    obtain ⟨hreads, hend⟩ := ih _ (h.2 _ _ hanswer) (Store.serveEach found r k).2
    rw [run_ask, requests, List.countP_cons, Nat.add_comm (List.countP _ _), ← Nat.add_assoc]
    refine ⟨fun q hq => ?_, hend⟩
    rcases List.mem_cons.mp hq with rfl | hq
    · exact h.1
    · exact hreads q hq

/-- The permissions have been read once at most, and the session has them if they have. -/
def Session.HasRead (σ : Session) (n : Nat) : Prop := n ≤ 1 ∧ (σ.snapshot? = none → n = 0)

namespace Session

/-- A session that has its caller's permissions reads nothing more, and one that does not has never
read them. -/
theorem load_keeps_hasRead : Acting.Keeps .readings HasRead load := by
  intro σ n h
  unfold load
  rw [Acting.ensures_bind, Acting.ensures_get]
  cases hs : σ.snapshot? with
  | some held => exact h
  | none =>
    obtain rfl : n = 0 := h.2 hs
    dsimp only
    rw [Acting.ensures_bind]
    -- the first question is about the default organization, and only the second one is counted
    refine (Acting.ensures_transaction _).mpr ⟨trivial, ?_⟩
    rintro ⟨⟩ _ rfl
    rw [Acting.ensures_bind, Acting.ensures_query]
    refine ⟨trivial, ?_⟩
    rintro (f | o) _ rfl
    · refine ⟨trivial, ?_⟩
      rintro ⟨⟩ _ rfl
      exact h
    · dsimp only
      rw [Acting.ensures_bind, Acting.ensures_query]
      refine ⟨trivial, ?_⟩
      rintro _ _ ⟨⟨s, rfl⟩, rfl⟩
      have hread (τ : Session) (hτ : τ.snapshot? = some s) : τ.HasRead 1 :=
        ⟨Nat.le_refl 1, fun hnone => absurd (hτ.symm.trans hnone) (Option.some_ne_none s)⟩
      refine ⟨trivial, ?_⟩
      rintro (f | ⟨⟩) _ rfl
      · exact hread _ rfl
      · exact hread _ rfl

/-- Looking up reads no permissions. -/
theorem lookup_keeps_hasRead {q : Query} (hreads : q.Reads)
    (hq : (Request.query q).readsSnapshot = false) :
    Acting.Keeps .readings HasRead (transaction (Query.ask q)) := by
  intro σ n h
  rw [Acting.ensures_transaction]
  refine ⟨trivial, ?_⟩
  rintro ⟨⟩ m rfl
  rw [Acting.ensures_query]
  refine ⟨hreads, fun a m' ha => ?_⟩
  obtain rfl : m' = m := by
    cases q with
    | loadSnapshot user? => exact Bool.noConfusion hq
    | _ => exact ha
  cases a with
  | error f =>
    refine ⟨trivial, ?_⟩
    rintro ⟨⟩ _ rfl
    exact h
  | ok a =>
    refine ⟨trivial, ?_⟩
    rintro c _ rfl
    cases c <;> exact h

/-- Questions only read, and a session reads permissions at most once, whatever it is asked. -/
theorem upholds_hasRead : Upholds .readings HasRead where
  load := load_keeps_hasRead
  componentByKey _ := lookup_keeps_hasRead trivial rfl
  componentByUuid _ := lookup_keeps_hasRead trivial rfl
  remember _ _ _ h := h

variable {σ : Session} {n : Nat}

/-- A turn only reads, and what it reads is counted. -/
theorem HasRead.after (h : σ.HasRead n) (turn : Turn) :
    let requests := (turn.probe.tell.run.run σ).requests (Store.serveEach turn.found) 0
    (∀ q, .query q ∈ requests → q.Reads) ∧
      (σ.after turn).HasRead (n + requests.countP (·.readsSnapshot)) := by
  have hend := Program.Ensures.counted (turn.probe.tell_keeps upholds_hasRead σ n h) turn.found 0
  refine ⟨hend.1, ?_⟩
  have hleft := hend.2
  rw [Session.after]
  revert hleft
  generalize ((turn.probe.tell.run.run σ).run (Store.serveEach turn.found) 0).1 = left
  obtain ⟨f | b, τ⟩ := left
  · exact id
  · exact id

theorem HasRead.afterAll (h : σ.HasRead n) (turns : List Turn) :
    (∀ q, .query q ∈ σ.requests turns → q.Reads) ∧
      (σ.afterAll turns).HasRead (n + (σ.requests turns).countP (·.readsSnapshot)) := by
  induction turns generalizing σ n with
  | nil => exact ⟨nofun, h⟩
  | cons turn rest ih =>
    have hturn := h.after turn
    obtain ⟨hreads, hend⟩ := ih hturn.2
    rw [requests, List.countP_append, ← Nat.add_assoc]
    refine ⟨fun q hq => ?_, hend⟩
    rcases List.mem_append.mp hq with hq | hq
    · exact hturn.1 q hq
    · exact hreads q hq

theorem hasRead_ofUser? (u? : Option User) : (ofUser? u?).HasRead 0 :=
  ⟨Nat.zero_le 1, fun _ => rfl⟩

/-- However the turns of a session go, it only reads. -/
theorem reads_of_mem_requests (u? : Option User) (turns : List Turn) (q : Query)
    (hq : .query q ∈ (ofUser? u?).requests turns) : q.Reads :=
  ((hasRead_ofUser? u?).afterAll turns).1 q hq

/-- However the turns of a session go, it reads the permissions of its caller at most once. -/
theorem countP_readsSnapshot_le_one (u? : Option User) (turns : List Turn) :
    ((ofUser? u?).requests turns).countP (·.readsSnapshot) ≤ 1 := by
  have hend := ((hasRead_ofUser? u?).afterAll turns).2.1
  rwa [Nat.zero_add] at hend

end Session

end Entitlements
