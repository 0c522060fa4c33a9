import Entitlements.Proofs.Administration.Warrants
import Entitlements.Proofs.Service.Hosting

/-!
# What the log reports and what becomes of it

Some events report that something was done. Books are kept along a run: units of work are numbered
as they begin, it is known which unit carried the last write, and every report is entered with that
write and its unit. Of every unit it is entered whether it was completed or its completion failed.
What only reads, in units of work of its own, leaves all reports and the last write as they are.
-/

namespace Entitlements

/-- The event reports that something that is stored was changed. -/
def Event.isReport : Event → Bool
  | .userPermissionChanged .. | .groupPermissionChanged .. | .templateCreated ..
  | .userRemovedFromTemplate .. | .userAddedToGroup .. | .rootUnset .. => true
  | _ => false

/-- The event reports a change of permissions. -/
def Event.IsPermissionChange : Event → Prop
  | .userPermissionChanged .. | .groupPermissionChanged .. => True
  | _ => False

/-- The query writes to the store. -/
def Query.isWrite : Query → Bool
  | .setRoot .. | .addMember .. | .insertGrant _ | .deleteGrant _ | .insertTemplate _
  | .deleteTemplateGrant .. => true
  | _ => false

/-- The grant was added or dropped, as the operation says. -/
def Asked.Toggles (asked : Asked) (operation : String) (g : Grant) : Prop :=
  operation = Operation.add.name ∧ asked = ⟨.insertGrant g, .ok ()⟩ ∨
    operation = Operation.remove.name ∧ asked = ⟨.deleteGrant g, .ok ()⟩

/-- The event reports what was written by a query that was answered well. -/
def Event.Reports : Event → Asked → Prop
  | .userPermissionChanged operation login permission project?, asked =>
    ∃ g id, asked.Toggles operation g ∧ g.holder = .user id login ∧ g.permission = permission ∧
      g.scope.project? = project?
  | .groupPermissionChanged operation group permission project?, asked =>
    ∃ g, asked.Toggles operation g ∧ Change.groupName g.holder = group ∧
      g.permission = permission ∧ g.scope.project? = project?
  | .templateCreated uuid name, asked =>
    ∃ tpl, asked = ⟨.insertTemplate tpl, .ok ()⟩ ∧ tpl.uuid = uuid ∧ tpl.name = name
  | .userRemovedFromTemplate template login permission, asked =>
    ∃ id, asked = ⟨.deleteTemplateGrant template (.user id login) permission, .ok ()⟩
  | .userAddedToGroup _ group, asked => ∃ user, asked = ⟨.addMember group user, .ok ()⟩
  | .rootUnset login _, asked => asked = ⟨.setRoot login false, .ok true⟩
  | _, _ => False

/-- A report, and the last write before it with the number of the unit of work that carried it. -/
structure Report where
  /-- What is reported. -/
  event : Event
  /-- The last write before the report and its unit. -/
  source? : Option (Nat × Asked)

/-- What is entered along a run. -/
structure Books where
  /-- How many units of work were begun. They are numbered from zero. -/
  begun : Nat := 0
  /-- The units that are open, the one begun last first. -/
  pending : List Nat := []
  /-- The units that were completed. -/
  completed : List Nat := []
  /-- The units whose completion failed. -/
  broken : List Nat := []
  /-- The last write and the unit that carried it. -/
  last? : Option (Nat × Asked) := none
  /-- The reports so far. -/
  reports : List Report := []

namespace Books

/-- What is entered of a request and its answer. -/
def after (b : Books) : (r : Request) → r.Answer → Books
  | .begin, _ => { b with begun := b.begun + 1, pending := b.begun :: b.pending }
  | .complete, .ok _ =>
    { b with pending := b.pending.tail, completed := b.pending.head?.toList ++ b.completed }
  | .complete, .error _ =>
    { b with pending := b.pending.tail, broken := b.pending.head?.toList ++ b.broken }
  | .abandon _, _ => { b with pending := b.pending.tail }
  | .query q, a => if q.isWrite then { b with last? := b.pending.head?.map (·, ⟨q, a⟩) } else b
  | .log e, _ => if e.isReport then { b with reports := b.reports ++ [⟨e, b.last?⟩] } else b
  | _, _ => b

section

variable (b : Books) (f : Fault) (a : Except Fault Unit)

theorem after_query (q : Query) (a : Except Fault q.Answer) : b.after (.query q) a =
    if q.isWrite then { b with last? := b.pending.head?.map (·, ⟨q, a⟩) } else b := rfl

theorem after_log (e : Event) : b.after (.log e) () =
    if e.isReport then { b with reports := b.reports ++ [⟨e, b.last?⟩] } else b := rfl

@[simp] theorem head?_pending_after_begin :
    (b.after .begin ()).pending.head? = some b.begun := rfl

@[simp] theorem reports_after_complete : (b.after .complete a).reports = b.reports := by
  cases a <;> rfl

@[simp] theorem reports_after_abandon : (b.after (.abandon f) ()).reports = b.reports := rfl

@[simp] theorem completed_after_complete :
    (b.after .complete (.ok ())).completed = b.pending.head?.toList ++ b.completed := rfl

@[simp] theorem completed_after_failure :
    (b.after .complete (.error f)).completed = b.completed := rfl

@[simp] theorem broken_after_failure :
    (b.after .complete (.error f)).broken = b.pending.head?.toList ++ b.broken := rfl

@[simp] theorem completed_after_abandon :
    (b.after (.abandon f) ()).completed = b.completed := rfl

end

section

variable {r : Request}

/-- Units are completed by completing them. -/
theorem completed_after (hr : r ≠ .complete) (b : Books) (a : r.Answer) :
    (b.after r a).completed = b.completed := by
  cases r with
  | complete => exact absurd rfl hr
  | query q =>
    rw [after]
    split <;> rfl
  | log e =>
    rw [after]
    split <;> rfl
  | _ => rfl

theorem broken_after (hr : r ≠ .complete) (b : Books) (a : r.Answer) :
    (b.after r a).broken = b.broken := by
  cases r with
  | complete => exact absurd rfl hr
  | query q =>
    rw [after]
    split <;> rfl
  | log e =>
    rw [after]
    split <;> rfl
  | _ => rfl

end

end Books

/-- Every request may be made, and it is entered with its answer. -/
def Setting.books : Setting Books where
  permits _ _ := True
  answers b r a b' := b' = b.after r a

/-- What a request adds to the log. -/
def Request.logged : Request → List Event
  | .log e => [e]
  | _ => []

/-- The log holds what was asked to be recorded, in this order, and nothing else. -/
def Logs {κ : Type} (serve : (r : Request) → κ → r.Answer × κ) (events : κ → List Event) : Prop :=
  ∀ r s, events (serve r s).2 = events s ++ r.logged

/-- The reports in a log. -/
def reportsIn (events : List Event) : List Event := events.filter Event.isReport

namespace Program

variable {α κ : Type} {serve : (r : Request) → κ → r.Answer × κ}

/-- The books after a run, given those before it. -/
def books (serve : (r : Request) → κ → r.Answer × κ) : Program α → κ → Books → Books
  | .done _, _, b => b
  | .ask r next, s, b =>
    books serve (next (serve r s).1) (serve r s).2 (b.after r (serve r s).1)

/-- What is ensured of the books holds after every run. -/
theorem Ensures.books {p : Program α} {b : Books} {Q : α → Books → Prop}
    (h : p.Ensures .books b Q) (s : κ) : Q (p.run serve s).1 (p.books serve s b) := by
  induction p generalizing b s with
  | done a => exact h
  | ask r next ih => exact ih _ (h.2 _ _ rfl) _

/-- What every request keeps between the state of affairs and the books is kept by a run. -/
theorem books_related {T : κ → Books → Prop}
    (hT : ∀ r s b, T s b → T (serve r s).2 (b.after r (serve r s).1)) (p : Program α) {s : κ}
    {b : Books} (h : T s b) : T (p.run serve s).2 (p.books serve s b) := by
  induction p generalizing b s with
  | done a => exact h
  | ask r next ih => exact ih _ (hT r s b h)

/-- The reports that are entered are the reports in the log. -/
theorem reportsIn_run {events : κ → List Event} (h : Logs serve events) (p : Program α) (s : κ) :
    reportsIn (events (p.run serve s).2) =
      reportsIn (events s) ++ (p.books serve s {}).reports.map (·.event) := by
  refine p.books_related
    (T := fun t b => reportsIn (events t) = reportsIn (events s) ++ b.reports.map (·.event))
    (fun r t b ht => ?_) (List.append_nil _).symm
  rw [h, reportsIn, List.filter_append]
  show reportsIn (events t) ++ _ = _
  rw [ht, List.append_assoc]
  congr 1
  cases r with
  | log e =>
    rw [Books.after_log]
    split
    next he => simp [Request.logged, he]
    next he => simp [Request.logged, he]
  | query q =>
    rw [Books.after_query]
    split <;> exact List.append_nil _
  | complete => generalize (serve .complete t).1 = a; cases a <;> exact List.append_nil _
  | begin | abandon | now | freshUuid | introspect | probe => exact List.append_nil _

end Program

namespace Books

variable {b b' b'' : Books}

/-- Units that are open or completed have been begun. -/
structure Numbered (b : Books) : Prop where
  pending : ∀ u ∈ b.pending, u < b.begun
  completed : ∀ u ∈ b.completed, u < b.begun

theorem numbered_empty : Numbered {} :=
  ⟨fun _ hu => absurd hu List.not_mem_nil, fun _ hu => absurd hu List.not_mem_nil⟩

theorem Numbered.after (h : b.Numbered) (r : Request) (a : r.Answer) : (b.after r a).Numbered := by
  have htail : ∀ u ∈ b.pending.tail, u < b.begun := fun u hu =>
    h.pending u (List.mem_of_mem_tail hu)
  cases r with
  | begin =>
    refine ⟨fun u hu => ?_, fun u hu => Nat.lt_succ_of_lt (h.completed u hu)⟩
    rcases List.mem_cons.mp hu with rfl | hu
    · exact Nat.lt_succ_self _
    · exact Nat.lt_succ_of_lt (h.pending u hu)
  | complete =>
    cases a with
    | error f => exact ⟨htail, h.completed⟩
    | ok =>
      refine ⟨htail, fun u hu => ?_⟩
      rcases List.mem_append.mp hu with hu | hu
      · exact h.pending u (List.mem_of_mem_head? (Option.mem_toList.mp hu))
      · exact h.completed u hu
  | abandon f => exact ⟨htail, h.completed⟩
  | query q =>
    rw [Books.after]
    split
    · exact ⟨h.pending, h.completed⟩
    · exact h
  | log e =>
    rw [Books.after]
    split
    · exact ⟨h.pending, h.completed⟩
    · exact h
  | now | freshUuid | introspect | probe => exact h

/-- The same units are open and nothing was reported since. -/
structure Follows (b b' : Books) : Prop where
  numbered : b.Numbered → b'.Numbered
  pending : b'.pending = b.pending
  reports : b'.reports = b.reports
  completed : b.completed ⊆ b'.completed

/-- Nothing was written or reported since, outside of units that are closed again. -/
structure Calm (b b' : Books) : Prop extends Follows b b' where
  last? : b'.last? = b.last?

theorem Follows.refl (b : Books) : b.Follows b := ⟨id, rfl, rfl, fun _ => id⟩

theorem Follows.trans (h : b.Follows b') (h' : b'.Follows b'') : b.Follows b'' where
  numbered := h'.numbered ∘ h.numbered
  pending := h'.pending.trans h.pending
  reports := h'.reports.trans h.reports
  completed := List.Subset.trans h.completed h'.completed

theorem Calm.refl (b : Books) : b.Calm b := ⟨.refl b, rfl⟩

theorem Calm.trans (h : b.Calm b') (h' : b'.Calm b'') : b.Calm b'' :=
  ⟨h.toFollows.trans h'.toFollows, h'.last?.trans h.last?⟩

theorem after_query_of_not_isWrite {q : Query} (hq : q.isWrite = false) (a : Except Fault q.Answer) :
    b.after (.query q) a = b := by
  rw [after, hq, if_neg Bool.false_ne_true]

theorem after_log_of_not_isReport {e : Event} (he : e.isReport = false) :
    b.after (.log e) () = b := by
  rw [after, he, if_neg Bool.false_ne_true]

theorem follows_after_query (q : Query) (a : Except Fault q.Answer) :
    b.Follows (b.after (.query q) a) := by
  refine ⟨fun h => h.after (.query q) a, ?_, ?_, ?_⟩
  · rw [after]
    split <;> rfl
  · rw [after]
    split <;> rfl
  · rw [after]
    split <;> exact fun _ => id

/-- Where nothing was reported in a unit up to its end, nothing was reported in the whole of it. -/
theorem Follows.ended (h : (b.after .begin ()).Follows b') {r : Request} {a : r.Answer}
    (hr : r = .complete ∨ ∃ f, r = .abandon f) :
    b.Follows (b'.after r a) ∧ (b'.after r a).last? = b'.last? := by
  have htail : b'.pending.tail = b.pending := by
    rw [h.pending]
    rfl
  have hnumbered : b.Numbered → (b'.after r a).Numbered := fun hb =>
    (h.numbered (hb.after .begin ())).after r a
  rcases hr with rfl | ⟨f, rfl⟩
  · cases a with
    | error f => exact ⟨⟨hnumbered, htail, h.reports, h.completed⟩, rfl⟩
    | ok =>
      exact ⟨⟨hnumbered, htail, h.reports, List.Subset.trans h.completed
        (List.subset_append_right _ _)⟩, rfl⟩
  · exact ⟨⟨hnumbered, htail, h.reports, h.completed⟩, rfl⟩

/-- A unit that has been calm up to its end is calm as a whole. -/
theorem Calm.ended (h : (b.after .begin ()).Calm b') {r : Request} {a : r.Answer}
    (hr : r = .complete ∨ ∃ f, r = .abandon f) : b.Calm (b'.after r a) :=
  ⟨(h.toFollows.ended hr).1, (h.toFollows.ended hr).2.trans h.last?⟩

end Books

namespace Setting

theorem books_allows_inquires {b : Books} {r : Request} (hr : r.Inquires) :
    books.Allows b.Calm r := by
  intro b' hb'
  refine ⟨trivial, ?_⟩
  rintro a _ rfl
  have hsame : b'.after r a = b' := by
    cases r with
    | query q =>
      refine Books.after_query_of_not_isWrite ?_ a
      cases q with
      | setRoot | addMember | insertGrant | deleteGrant | insertTemplate | deleteTemplateGrant =>
        exact hr.elim
      | _ => rfl
    | log e =>
      refine Books.after_log_of_not_isReport ?_
      cases e with
      | introspectionFailed => rfl
      | _ => exact hr.elim
    | introspect => rfl
    | _ => exact hr.elim
  rw [hsame]
  exact hb'

/-- What reads leaves the books calm, in however many units of work. -/
theorem books_hosts (n : Nat) (b : Books) : books.Hosts n b.Calm := by
  induction n generalizing b with
  | zero => exact fun _ => books_allows_inquires
  | succ n ih =>
    refine ⟨fun _ => books_allows_inquires, fun g hg => ⟨trivial, ?_⟩⟩
    rintro _ _ rfl
    refine ⟨(g.after .begin ()).Calm, .refl _, ih _, fun k hk => ⟨trivial, ?_⟩,
      fun f k hk => ⟨trivial, ?_⟩⟩
    · rintro a _ rfl
      exact hg.trans (hk.ended (.inl rfl))
    · rintro a _ rfl
      exact hg.trans (hk.ended (.inr ⟨f, rfl⟩))

end Setting

end Entitlements
