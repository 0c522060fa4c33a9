import Entitlements.Proofs.Administration.Administrators
import Entitlements.Proofs.Store.Visited
import Entitlements.Store.Sample

/-!
# The last administrator stays

An organization that somebody administers is administered by somebody in every store that a run
visits. What carries the argument is that a store in memory is true to the discipline: whatever a
count assured of is so, up to the next request. Units of work that fail undo nothing there, so
the store has to be as good in the middle of a batch as at its end.
-/

namespace Entitlements

namespace Store

/-- Somebody administers the organization, and what the last request found is so. -/
structure Backs (s : Store) (organization : String) (st : Standing) : Prop where
  administered : s.Administered organization
  assured : ∀ a, st.assurance? = some a → s.Assures a

variable {s t : Store} {organization : String} {st : Standing}

theorem Backs.of_keeps (h : s.Backs organization st) (hk : Keeps organization s t) {st' : Standing}
    (hst : st'.assurance? = none) : t.Backs organization st' := by
  refine ⟨h.administered.mono hk, fun a ha => ?_⟩
  rw [hst] at ha
  cases ha

/-- A count assures of what it found. -/
theorem Backs.count (h : s.Backs organization st) (o : String) (p : Permission)
    (user group : Option Int) :
    s.Backs organization (st.after (.query (.countAdministrators o p user group))
      (.ok (s.administrators o p user group).length)) := by
  refine ⟨h.administered, fun a ha => ?_⟩
  simp only [Standing.after, Option.ite_none_right_eq_some, Option.some.injEq] at ha
  obtain ⟨⟨-, rfl, hn⟩, rfl⟩ := ha
  refine assures_of_administrators_ne_nil fun hnil => hn ?_
  rw [show s.administrators o Permission.administer user group = [] from hnil]
  rfl

/-- Every permitted request leaves somebody who administers the organization. -/
theorem Backs.step (h : s.Backs organization st) {r : Request} (hr : st.Permits r) :
    (serve r s).2.Backs organization (st.after r (serve r s).1) := by
  cases r with
  | query q =>
    cases q with
    | setRoot login root => exact h.of_keeps (keeps_setRoot s login root) rfl
    | addMember group user => exact h.of_keeps (keeps_addMember s group user) rfl
    | insertGrant g =>
      refine h.of_keeps ?_ rfl
      exact (keeps_addGrant s g).trans (.of_eq rfl rfl rfl)
    | countAdministrators o p user group => exact h.count o p user group
    | deleteGrant g =>
      refine ⟨(h.administered.removeGrant fun hg => ?_).mono (.of_eq rfl rfl rfl), nofun⟩
      obtain ⟨a, ha, hc⟩ := hr.2 hg
      exact ⟨a, h.assured a ha, hc⟩
    | _ =>
      refine h.of_keeps ?_ rfl
      exact .of_eq rfl rfl rfl
  | _ =>
    refine h.of_keeps ?_ rfl
    exact .of_eq rfl rfl rfl

end Store

/-- A program that keeps the discipline visits only stores in which somebody administers the
organization. -/
theorem Program.administered_of_disciplined {α : Type} {p : Program α} {st : Standing} {s : Store}
    {organization : String} (hp : p.Ensures discipline st fun _ _ => True)
    (h : s.Backs organization st) : ∀ t ∈ Store.visited p s, t.Administered organization := by
  rw [Store.forall_mem_visited_iff]
  have hsim := hp.simulate (F := Store.keeping (·.Administered organization))
    (R := fun st s => s.Backs organization st) (fun _ _ _ hb _ => hb.administered) ?_ h
  · refine hsim.mono ?_
    rintro a t ⟨st', hb, -⟩
    exact hb.administered
  · rintro st s r a t hb hr hat
    obtain ⟨rfl, rfl⟩ := Prod.mk.inj hat
    exact ⟨_, rfl, hb.step hr⟩

/-- What can be called on a store, by whichever session. -/
inductive Call where
  /-- A command of the service. -/
  | command (σ : Session) (c : Service.Command)
  /-- A batch of changes. -/
  | batch (σ : Session) (changes : List Change)
  /-- A single change, within whatever unit of work there is. -/
  | change (c : Change)

namespace Call

/-- What a call does, whether or not it fails. -/
def program : Call → Program Unit
  | .command σ c => do
    let _ ← c.run.run.run σ
  | .batch σ changes => do
    let _ ← (Change.applyBatch changes).run.run σ
  | .change c => do
    let _ ← c.apply.run

/-- The changes that a call brings along are well formed. -/
def WellFormed : Call → Prop
  | .command .. => True
  | .batch _ changes => ∀ c ∈ changes, c.WellFormed
  | .change c => c.WellFormed

/-- Calls one after the other. -/
def sequence : List Call → Program Unit
  | [] => .done ()
  | call :: rest => do
    call.program
    sequence rest

theorem program_disciplined {call : Call} (h : call.WellFormed) (st : Standing) :
    call.program.Ensures discipline st fun _ _ => True := by
  cases call with
  | command σ c =>
    rw [program, Program.ensures_bind]
    exact Program.Ensures.mono (c.run_disciplined σ st) fun _ _ _ => trivial
  | batch σ changes =>
    rw [program, Program.ensures_bind]
    exact Program.Ensures.mono (Change.applyBatch_disciplined h σ st) fun _ _ _ => trivial
  | change c =>
    rw [program, Program.ensures_bind]
    exact Program.Ensures.mono (Change.apply_obeysFrom h st) fun _ _ _ => trivial

/-- A sequence of calls keeps the discipline from one call to the next. -/
theorem sequence_disciplined {calls : List Call} (h : ∀ call ∈ calls, call.WellFormed)
    (st : Standing) : (sequence calls).Ensures discipline st fun _ _ => True := by
  induction calls generalizing st with
  | nil => exact trivial
  | cons call rest ih =>
    rw [sequence, Program.ensures_bind]
    refine (program_disciplined (h call List.mem_cons_self) st).mono fun _ st' _ => ?_
    exact ih (fun c hc => h c (List.mem_cons_of_mem call hc)) st'

/-- The last administrator stays: whatever is called in whatever order, somebody administers the
organization in every store on the way, also within batches and after those that failed. -/
theorem administered_of_mem_visited {calls : List Call} (hc : ∀ call ∈ calls, call.WellFormed)
    {s : Store} {organization : String} (h : s.Administered organization) :
    ∀ t ∈ Store.visited (sequence calls) s, t.Administered organization :=
  Program.administered_of_disciplined (sequence_disciplined hc .outset) ⟨h, nofun⟩

end Call

/-- The user `root` administers the default organization of the sample. -/
theorem Store.administered_sample (around : Surroundings) :
    (Store.sample around).Administered Store.sampleDefault :=
  ⟨1, rfl, _, List.mem_singleton_self _, ⟨rfl, rfl, rfl, nofun⟩, rfl⟩

/-- Taking the grant of that user away is rejected. -/
theorem administered_of_mem_visited_sample :
    (Store.sample default).Administered Store.sampleDefault ∧
      ∀ t ∈ Store.visited (Call.sequence [.change ⟨.remove, Store.sampleDefault,
        Permission.administer, none, .user 1 "root"⟩]) (Store.sample default),
        t.Administered Store.sampleDefault := by
  have hs := Store.administered_sample default
  refine ⟨hs, Call.administered_of_mem_visited ?_ hs⟩
  intro call hcall
  rw [List.mem_singleton.mp hcall]
  exact fun _ _ => nofun

end Entitlements
