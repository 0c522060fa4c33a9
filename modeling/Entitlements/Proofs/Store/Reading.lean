import Entitlements.Proofs.Service.Reads
import Entitlements.Proofs.Store.Visited

/-!
# Reading changes nothing

A question that only reads is answered from what is stored, so that it does not matter when it is
asked as long as nothing is written. Beginning and ending units of work only counts them. Programs
that read first and write last are followed from the store that they found, whatever has been
counted in the meantime.
-/

namespace Entitlements

variable {α : Type}

namespace Store

/-- A unit of work was completed. -/
def completed (s : Store) : Store := s.note fun j => { j with commits := j.commits + 1 }

/-- A unit of work was given up. -/
def abandoned (s : Store) : Store := s.note fun j => { j with rollbacks := j.rollbacks + 1 }

/-- At most units of work have been counted since. -/
def Untouched (s t : Store) : Prop :=
  ∃ commits rollbacks, t = { s with journal := { s.journal with commits, rollbacks } }

/-- All that is stored is the same: accounts, organizations, groups and their members, components,
grants, templates and what they give. Only the journal and the log have gone on. -/
def SameData (s t : Store) : Prop :=
  ∃ journal events, t = { s with journal, around := { s.around with events } }

/-- Nothing has been written since: all that is stored is the same, and so are the lists of grants
that were to be added or dropped. Organizations may have been locked and units of work counted,
and what is around the store has gone on. -/
def Unwritten (s t : Store) : Prop :=
  ∃ locked commits rollbacks around,
    t = { s with journal := { s.journal with locked, commits, rollbacks }, around }

variable {s t u : Store}

theorem Untouched.refl (s : Store) : s.Untouched s := ⟨_, _, rfl⟩

theorem Untouched.trans (h : s.Untouched t) (h' : t.Untouched u) : s.Untouched u := by
  obtain ⟨_, _, rfl⟩ := h
  obtain ⟨_, _, rfl⟩ := h'
  exact ⟨_, _, rfl⟩

theorem Untouched.completed (h : s.Untouched t) : s.Untouched t.completed := by
  obtain ⟨commits, rollbacks, rfl⟩ := h
  exact ⟨_, _, rfl⟩

theorem Untouched.abandoned (h : s.Untouched t) : s.Untouched t.abandoned := by
  obtain ⟨commits, rollbacks, rfl⟩ := h
  exact ⟨_, _, rfl⟩

theorem Untouched.sameData (h : s.Untouched t) : s.SameData t := by
  obtain ⟨commits, rollbacks, rfl⟩ := h
  exact ⟨_, _, rfl⟩

theorem SameData.refl (s : Store) : s.SameData s := ⟨_, _, rfl⟩

theorem SameData.trans (h : s.SameData t) (h' : t.SameData u) : s.SameData u := by
  obtain ⟨j, a, rfl⟩ := h
  obtain ⟨j', a', rfl⟩ := h'
  exact ⟨j', a', rfl⟩

theorem SameData.note (h : s.SameData t) (f : Journal → Journal) : s.SameData (t.note f) := by
  obtain ⟨j, a, rfl⟩ := h
  exact ⟨_, _, rfl⟩

theorem SameData.completed (h : s.SameData t) : s.SameData t.completed := h.note _

theorem SameData.abandoned (h : s.SameData t) : s.SameData t.abandoned := h.note _

theorem SameData.record (h : s.SameData t) (e : Event) :
    s.SameData { t with around := t.around.record e } := by
  obtain ⟨j, a, rfl⟩ := h
  exact ⟨_, _, rfl⟩

theorem Unwritten.refl (s : Store) : s.Unwritten s := ⟨_, _, _, _, rfl⟩

theorem Unwritten.symm (h : s.Unwritten t) : t.Unwritten s := by
  obtain ⟨_, _, _, _, rfl⟩ := h
  exact ⟨_, _, _, _, rfl⟩

theorem Unwritten.trans (h : s.Unwritten t) (h' : t.Unwritten u) : s.Unwritten u := by
  obtain ⟨_, _, _, _, rfl⟩ := h
  obtain ⟨_, _, _, _, rfl⟩ := h'
  exact ⟨_, _, _, _, rfl⟩

theorem Unwritten.completed (h : s.Unwritten t) : s.Unwritten t.completed :=
  h.trans ⟨_, _, _, _, rfl⟩

theorem Unwritten.abandoned (h : s.Unwritten t) : s.Unwritten t.abandoned :=
  h.trans ⟨_, _, _, _, rfl⟩

theorem Unwritten.record (h : s.Unwritten t) (e : Event) :
    s.Unwritten { t with around := t.around.record e } := h.trans ⟨_, _, _, _, rfl⟩

theorem Untouched.unwritten (h : s.Untouched t) : s.Unwritten t := by
  obtain ⟨_, _, rfl⟩ := h
  exact ⟨_, _, _, _, rfl⟩

/-- A question that only reads leaves the store as it is. -/
theorem answer_of_reads {q : Query} (h : q.Reads) (s : Store) : (s.answer q).2 = s := by
  cases q with
  | setRoot | addMember | lockOrganization | insertGrant | deleteGrant | insertTemplate
  | deleteTemplateGrant => exact h.elim
  | _ => rfl

/-- What is read does not depend on how many units of work there were. -/
theorem Untouched.answer {q : Query} (h : s.Untouched t) (hq : q.Reads) :
    t.answer q = ((s.answer q).1, t) := by
  obtain ⟨commits, rollbacks, rfl⟩ := h
  cases q with
  | setRoot | addMember | lockOrganization | insertGrant | deleteGrant | insertTemplate
  | deleteTemplateGrant => exact hq.elim
  | _ => rfl

/-- A unit of work that ends well is completed. -/
theorem run_transaction_of_ok {w : Work α} {a : α} (h : s.run w.run = (.ok a, t)) :
    s.run (transaction w).run = (.ok a, t.completed) := by
  rw [run] at h
  show Program.run serve (w.run >>= _) s = _
  rw [Program.run_bind, h]
  rfl

/-- A unit of work that fails is given up. -/
theorem run_transaction_of_error {w : Work α} {f : Fault} (h : s.run w.run = (.error f, t)) :
    s.run (transaction w).run = (.error f, t.abandoned) := by
  rw [run] at h
  show Program.run serve (w.run >>= _) s = _
  rw [Program.run_bind, h]
  rfl

end Store

namespace Work

variable {s t : Store} {ok : α → Store → Prop} {err : Fault → Store → Prop}

/-- A question is answered as the store answers it. -/
theorem ensures_setting_query {q : Query} {ok : q.Answer → Store → Prop} :
    Ensures Store.setting (Query.ask q) t ok err ↔
      match (t.answer q).1 with
      | .ok a => ok a (t.answer q).2
      | .error f => err f (t.answer q).2 := by
  rw [ensures_query]
  refine ⟨fun h => h.2 _ _ rfl, fun h => ⟨trivial, ?_⟩⟩
  intro a t' ha
  obtain ⟨rfl, rfl⟩ := Prod.mk.inj ha
  exact h

/-- A question that only reads is answered from what was found in the first place. -/
theorem ensures_read_iff {q : Query} {ok : q.Answer → Store → Prop} (ht : s.Untouched t)
    (hq : q.Reads) :
    Ensures Store.setting (Query.ask q) t ok err ↔
      match (s.answer q).1 with
      | .ok a => ok a t
      | .error f => err f t := by
  rw [ensures_setting_query, ht.answer hq]

theorem ensures_read {q : Query} {ok : q.Answer → Store → Prop} (ht : s.Untouched t)
    (hq : q.Reads) (hok : ∀ a, (s.answer q).1 = .ok a → ok a t) (herr : ∀ f, err f t) :
    Ensures Store.setting (Query.ask q) t ok err := by
  rw [ensures_read_iff ht hq]
  cases ha : (s.answer q).1 with
  | ok a => exact hok a ha
  | error f => exact herr f

/-- A request is answered as the store serves it. -/
theorem ensures_setting_ask (r : Request) {ok : r.Answer → Store → Prop} :
    Ensures Store.setting r.ask t ok err ↔ ok (Store.serve r t).1 (Store.serve r t).2 := by
  rw [ensures_ask]
  refine ⟨fun h => h.2 _ _ rfl, fun h => ⟨trivial, ?_⟩⟩
  rintro a t' ha
  obtain ⟨rfl, rfl⟩ := Prod.mk.inj ha
  exact h

theorem ensures_setting_record {e : Event} {ok : Unit → Store → Prop} :
    Ensures Store.setting e.record t ok err ↔ ok () { t with around := t.around.record e } :=
  ensures_setting_ask (.log e)

/-- On a store in memory a unit of work is only counted. -/
theorem ensures_setting_transaction (w : Work α) :
    Ensures Store.setting (transaction w) t ok err ↔
      Ensures Store.setting w t (fun a h => ok a h.completed) fun f h => err f h.abandoned := by
  rw [ensures_transaction]
  constructor
  · intro h
    exact (h.2 () t rfl).mono (fun a h' ha => ha.2 (.ok ()) _ rfl) fun f h' hf => hf.2 () _ rfl
  · intro h
    refine ⟨trivial, ?_⟩
    rintro ⟨⟩ t' ⟨⟩
    refine h.mono (fun a h' ha => ⟨trivial, ?_⟩) fun f h' hf => ⟨trivial, ?_⟩
    · rintro c h'' ⟨⟩
      exact ha
    · rintro ⟨⟩ h'' ⟨⟩
      exact hf

/-- Work that never fails ends with a value that meets the condition. -/
theorem run_of_ensures {w : Work α} (h : Ensures Store.setting w s ok fun _ _ => False) :
    ∃ a t, s.run w.run = (.ok a, t) ∧ ok a t := by
  have hend := (Store.ensures_setting_iff _ _ _).mp h
  revert hend
  generalize s.run w.run = left
  obtain ⟨f | a, t⟩ := left
  · exact False.elim
  · exact fun ha => ⟨a, t, rfl, ha⟩

end Work

namespace Acting

variable {s t : Store} {σ : Session} {ok : α → Session → Store → Prop}
  {err : Fault → Session → Store → Prop}

/-- A question is answered as the store answers it. -/
theorem ensures_setting_query {q : Query} {ok : q.Answer → Session → Store → Prop} :
    Ensures Store.setting (Query.ask q) σ t ok err ↔
      match (t.answer q).1 with
      | .ok a => ok a σ (t.answer q).2
      | .error f => err f σ (t.answer q).2 := by
  rw [ensures_query]
  refine ⟨fun h => h.2 _ _ rfl, fun h => ⟨trivial, ?_⟩⟩
  intro a t' ha
  obtain ⟨rfl, rfl⟩ := Prod.mk.inj ha
  exact h

/-- A question that only reads is answered from what was found in the first place. -/
theorem ensures_read_iff {q : Query} {ok : q.Answer → Session → Store → Prop}
    (ht : s.Untouched t) (hq : q.Reads) :
    Ensures Store.setting (Query.ask q) σ t ok err ↔
      match (s.answer q).1 with
      | .ok a => ok a σ t
      | .error f => err f σ t := by
  rw [ensures_setting_query, ht.answer hq]

theorem ensures_read {q : Query} {ok : q.Answer → Session → Store → Prop} (ht : s.Untouched t)
    (hq : q.Reads) (hok : ∀ a, (s.answer q).1 = .ok a → ok a σ t) (herr : ∀ f, err f σ t) :
    Ensures Store.setting (Query.ask q) σ t ok err := by
  rw [ensures_read_iff ht hq]
  cases ha : (s.answer q).1 with
  | ok a => exact hok a ha
  | error f => exact herr f

/-- A request is answered as the store serves it. -/
theorem ensures_setting_ask (r : Request) {ok : r.Answer → Session → Store → Prop} :
    Ensures Store.setting r.ask σ t ok err ↔
      ok (Store.serve r t).1 σ (Store.serve r t).2 := by
  rw [ensures_ask]
  refine ⟨fun h => h.2 _ _ rfl, fun h => ⟨trivial, ?_⟩⟩
  rintro a t' ha
  obtain ⟨rfl, rfl⟩ := Prod.mk.inj ha
  exact h

theorem ensures_setting_record {e : Event} {ok : Unit → Session → Store → Prop} :
    Ensures Store.setting e.record σ t ok err ↔
      ok () σ { t with around := t.around.record e } :=
  ensures_setting_ask (.log e)

/-- On a store in memory a unit of work is only counted. -/
theorem ensures_setting_transaction (a : Acting α) :
    Ensures Store.setting (transaction a) σ t ok err ↔
      Ensures Store.setting a σ t (fun b τ h => ok b τ h.completed)
        fun f τ h => err f τ h.abandoned := by
  rw [ensures_transaction]
  constructor
  · intro h
    exact (h.2 () t rfl).mono (fun b τ h' ha => ha.2 (.ok ()) _ rfl)
      fun f τ h' hf => hf.2 () _ rfl
  · intro h
    refine ⟨trivial, ?_⟩
    rintro ⟨⟩ t' ⟨⟩
    refine h.mono (fun b τ h' ha => ⟨trivial, ?_⟩) fun f τ h' hf => ⟨trivial, ?_⟩
    · rintro c h'' ⟨⟩
      exact ha
    · rintro ⟨⟩ h'' ⟨⟩
      exact hf

/-- What holds however it ends holds of the session and the store that are left. -/
theorem end_of_ensures {a : Acting α} {Q : Session → Store → Prop}
    (h : Ensures Store.setting a σ s (fun _ => Q) fun _ => Q) :
    Q (s.run (a.run.run σ)).1.2 (s.run (a.run.run σ)).2 := by
  have hend := (Store.ensures_setting_iff _ _ _).mp h
  revert hend
  generalize s.run (a.run.run σ) = left
  obtain ⟨⟨f | b, τ⟩, t⟩ := left
  · exact id
  · exact id

/-- Acting that never fails ends with a value that meets the condition. -/
theorem run_of_ensures {a : Acting α} (h : Ensures Store.setting a σ s ok fun _ _ _ => False) :
    ∃ b τ t, s.run (a.run.run σ) = ((.ok b, τ), t) ∧ ok b τ t := by
  have hend := (Store.ensures_setting_iff _ _ _).mp h
  revert hend
  generalize s.run (a.run.run σ) = left
  obtain ⟨⟨f | b, τ⟩, t⟩ := left
  · exact False.elim
  · exact fun hb => ⟨b, τ, t, rfl, hb⟩

end Acting

end Entitlements
