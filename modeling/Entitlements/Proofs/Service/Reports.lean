import Entitlements.Proofs.Service.Books
import Entitlements.Proofs.Service.Units

/-!
# Reports of changes

A report in the log is borne out where it tells of the write made right before it and the unit of
work that carried this write was completed. A change of permissions is reported within its unit of
work, so whether such a report is borne out is only known when the unit ends: in a batch, exactly if
the batch ends well.
-/

namespace Entitlements

variable {α β : Type} {u : Nat} {b b' g : Books} {e : Event} {q : Query}

/-- The report tells of the write made right before it, which one of the units carried. -/
def Report.Of (r : Report) (units : List Nat) : Prop :=
  ∃ unit asked, r.source? = some (unit, asked) ∧ r.event.Reports asked ∧ unit ∈ units

theorem Report.Of.mono {r : Report} {units units' : List Nat} (h : r.Of units)
    (hunits : units ⊆ units') : r.Of units' := by
  obtain ⟨unit, asked, hsource, hreports, hunit⟩ := h
  exact ⟨unit, asked, hsource, hreports, hunits hunit⟩

namespace Books

/-- All reports are borne out. -/
def Sound (b : Books) : Prop := ∀ r ∈ b.reports, r.Of b.completed

/-- All reports are borne out, except for changes of permissions whose unit of work could not be
completed, although others could before. -/
def Excusable (b : Books) : Prop :=
  ∀ r ∈ b.reports, r.Of b.completed ∨
    r.event.IsPermissionChange ∧ r.Of b.broken ∧ b.completed ≠ []

theorem sound_empty : Sound {} := fun _ hr => absurd hr List.not_mem_nil

theorem Sound.excusable (h : b.Sound) : b.Excusable := fun r hr => .inl (h r hr)

theorem Follows.sound (h : b.Follows b') (hb : b.Sound) : b'.Sound := by
  intro r hr
  rw [h.reports] at hr
  exact (hb r hr).mono h.completed

/-- A report of the last write is borne out where its unit was completed. -/
theorem Sound.report (hb : b.Sound) {asked : Asked} (hlast : b.last? = some (u, asked))
    (he : e.Reports asked) (hu : u ∈ b.completed) : (b.after (.log e) ()).Sound := by
  rw [after]
  split
  next =>
    intro r hr
    rcases List.mem_append.mp hr with hr | hr
    · exact hb r hr
    · obtain rfl := List.mem_singleton.mp hr
      exact ⟨u, asked, hlast, he, hu⟩
  next => exact hb

/-- Every report since is of a change of permissions that the unit carries. -/
def Tells (u : Nat) (b b' : Books) : Prop :=
  ∀ r ∈ b'.reports, r ∈ b.reports ∨ r.event.IsPermissionChange ∧ r.Of [u]

theorem Tells.of_eq (h : b'.reports = b.reports) : Tells u b b' := by
  intro r hr
  rw [h] at hr
  exact .inl hr

theorem Tells.trans (h : Tells u b b') (h' : Tells u b' g) : Tells u b g := by
  intro r hr
  rcases h' r hr with hr | hr
  · exact h r hr
  · exact .inr hr

/-- Where there was no report before, all of them are of what the unit carries. -/
theorem Tells.source (h : Tells u b b') (hb : b.reports = []) {r : Report} (hr : r ∈ b'.reports) :
    ∃ asked, r.source? = some (u, asked) ∧ r.event.Reports asked := by
  rcases h r hr with hr | ⟨-, unit, asked, hsource, hreports, hunit⟩
  · rw [hb] at hr
    exact absurd hr List.not_mem_nil
  · obtain rfl := List.mem_singleton.mp hunit
    exact ⟨asked, hsource, hreports⟩

/-- No unit of work has begun or ended since. -/
structure Stays (b b' : Books) : Prop where
  begun : b'.begun = b.begun
  pending : b'.pending = b.pending
  completed : b'.completed = b.completed

theorem Stays.refl (b : Books) : b.Stays b := ⟨rfl, rfl, rfl⟩

/-- A unit of work in which no other one begins or ends is completed next. -/
theorem Stays.completed_eq (h : (g.after .begin ()).Stays b) :
    (b.after .complete (.ok ())).completed = g.begun :: g.completed := by
  rw [completed_after_complete, h.pending, h.completed]
  rfl

theorem Stays.broken_eq (h : (g.after .begin ()).Stays b) (f : Fault) :
    (b.after .complete (.error f)).broken = g.begun :: b.broken := by
  rw [broken_after_failure, h.pending]
  rfl

theorem allows_stays {r : Request} (hr : r.IsWithin) : Setting.books.Allows b.Stays r := by
  intro b' hb'
  refine ⟨trivial, ?_⟩
  rintro a _ rfl
  cases r with
  | begin | complete | abandon | probe => exact hr.elim
  | query q =>
    rw [after]
    split
    · exact ⟨hb'.begun, hb'.pending, hb'.completed⟩
    · exact hb'
  | log e =>
    rw [after]
    split
    · exact ⟨hb'.begun, hb'.pending, hb'.completed⟩
    · exact hb'
  | now | freshUuid | introspect => exact hb'

end Books

open Books

namespace Work

variable {ok : α → Books → Prop} {err : Fault → Books → Prop}

/-- A query that does not write is not entered. -/
theorem ensures_books_ask {k : q.Answer → Work α} (hq : q.isWrite = false)
    (hk : ∀ a, Ensures .books (k a) b ok err) (herr : ∀ f, err f b) :
    Ensures .books (Query.ask q >>= k) b ok err := by
  rw [ensures_bind, ensures_query]
  refine ⟨trivial, ?_⟩
  rintro a _ rfl
  rw [after_query_of_not_isWrite hq]
  cases a with
  | ok a => exact hk a
  | error f => exact herr f

/-- An event that is no report is not entered. -/
theorem ensures_books_record {a : α} (he : e.isReport = false) (h : ok a b) :
    Ensures .books (do e.record; return a) b ok err := by
  rw [ensures_bind, ensures_record]
  refine ⟨trivial, ?_⟩
  rintro _ _ rfl
  rw [after_log_of_not_isReport he]
  exact h

/-- How a unit of work ends is entered. -/
theorem ensures_books_transaction {w : Work α}
    (h : Ensures .books w (b.after .begin ())
      (fun a g => ok a (g.after .complete (.ok ())) ∧
        ∀ f, err f (g.after .complete (.error f)))
      fun f g => err f (g.after (.abandon f) ())) : Ensures .books (transaction w) b ok err := by
  rw [ensures_transaction]
  refine ⟨trivial, ?_⟩
  rintro _ _ rfl
  refine h.mono (fun a g hg => ⟨trivial, ?_⟩) fun f g hg => ⟨trivial, ?_⟩
  · rintro (f | _) _ rfl
    · exact hg.2 f
    · exact hg.1
  · rintro _ _ rfl
    exact hg

/-- Reading in a unit of work completes one. -/
theorem reading_ensures_books {w : Work α} (hw : MakesOnly Request.Reads w) :
    Ensures .books (transaction w) b (fun _ g => b.Calm g ∧ g.completed ≠ [])
      fun _ g => b.Calm g := by
  refine ensures_books_transaction ?_
  refine (hw.hosted (Setting.books_hosts 0 _) _ (.refl _)).mono (fun a g hg => ⟨⟨?_, ?_⟩, ?_⟩) ?_
  · exact hg.ended (.inl rfl)
  · have hhead : g.pending.head? = some b.begun := by
      rw [hg.pending]
      rfl
    simp [after, hhead]
  · exact fun f => hg.ended (.inl rfl)
  · exact fun f g hg => hg.ended (.inr ⟨f, rfl⟩)

end Work

namespace Change

variable {c : Change}

/-- What was reported by the time a change was done. -/
private def Reported (u : Nat) (b : Books) (outcome : Outcome) (b' : Books) : Prop :=
  b'.reports = b.reports ∨ outcome = .applied ∧ Tells u b b'

/-- A write that is reported at once is carried by the unit that is open. -/
private theorem write_ensures_books (hu : b.pending.head? = some u) (hq : q.isWrite = true)
    (hchange : e.IsPermissionChange) (hreport : ∀ a, e.Reports ⟨q, .ok a⟩) :
    Work.Ensures .books (do
      let _ ← Query.ask q
      e.record
      return Outcome.applied) b (Reported u b) fun _ b' => b'.reports = b.reports := by
  rw [Work.ensures_bind, Work.ensures_query]
  refine ⟨trivial, ?_⟩
  rintro a _ rfl
  rw [after, hq, if_pos rfl, hu]
  cases a with
  | error f => rfl
  | ok a =>
    dsimp only
    rw [Work.ensures_bind, Work.ensures_record]
    refine ⟨trivial, ?_⟩
    rintro _ _ rfl
    refine .inr ⟨rfl, ?_⟩
    rw [after]
    split
    next =>
      intro r hr
      rcases List.mem_append.mp hr with hr | hr
      · exact .inl hr
      · obtain rfl := List.mem_singleton.mp hr
        exact .inr ⟨hchange, u, _, rfl, hreport a, List.mem_singleton_self u⟩
    next => exact fun r hr => .inl hr

private theorem leavesNobody_ensures_books {user group : Option Int} {k : Bool → Work Outcome}
    {ok : Outcome → Books → Prop} {err : Fault → Books → Prop}
    (hk : ∀ x, Work.Ensures .books (k x) b ok err) (herr : ∀ f, err f b) :
    Work.Ensures .books (c.leavesNobody user group >>= k) b ok err := by
  unfold leavesNobody
  split
  · rw [bind_assoc]
    exact Work.ensures_books_ask rfl (fun _ => hk _) herr
  · exact hk false

private theorem applyToUser_ensures_books (id : Int) (login : String)
    (hu : b.pending.head? = some u) :
    Work.Ensures .books (c.applyToUser id login) b (Reported u b)
      fun _ b' => b'.reports = b.reports := by
  unfold applyToUser
  refine Work.ensures_books_ask rfl (fun _ => Work.ensures_books_ask rfl (fun existing => ?_)
    fun _ => rfl) fun _ => rfl
  cases hop : c.operation with
  | other name => exact rfl
  | add =>
    dsimp only
    split
    · exact Work.ensures_books_record rfl (.inl rfl)
    · refine write_ensures_books hu rfl trivial fun _ => ?_
      exact ⟨c.grantOf (.user id login), id, .inl ⟨rfl, rfl⟩, rfl, rfl, project?_scope c⟩
  | remove =>
    dsimp only
    split
    · exact Work.ensures_books_record rfl (.inl rfl)
    · refine leavesNobody_ensures_books (fun x => ?_) fun _ => rfl
      cases x with
      | true => exact Work.ensures_books_record rfl (.inl rfl)
      | false =>
        refine write_ensures_books hu rfl trivial fun _ => ?_
        exact ⟨c.grantOf (.user id login), id, .inr ⟨rfl, rfl⟩, rfl, rfl, project?_scope c⟩

private theorem applyToGroup_ensures_books (holder : Holder) (hu : b.pending.head? = some u) :
    Work.Ensures .books (c.applyToGroup holder) b (Reported u b)
      fun _ b' => b'.reports = b.reports := by
  unfold applyToGroup
  refine Work.ensures_books_ask rfl (fun _ => Work.ensures_books_ask rfl (fun existing => ?_)
    fun _ => rfl) fun _ => rfl
  have hdelete (hop : c.operation = .remove) : Work.Ensures .books (do
      Query.ask (.deleteGrant (c.grantOf holder))
      Event.record (.groupPermissionChanged Operation.remove.name (groupName holder) c.permission
        c.project)
      return Outcome.applied) b (Reported u b) fun _ b' => b'.reports = b.reports := by
    refine write_ensures_books hu rfl trivial fun _ => ?_
    exact ⟨c.grantOf holder, .inr ⟨rfl, rfl⟩, rfl, rfl, project?_scope c⟩
  cases hop : c.operation with
  | other name => exact rfl
  | add =>
    dsimp only
    split
    · exact .inl rfl
    · split
      · exact .inl rfl
      · refine write_ensures_books hu rfl trivial fun _ => ?_
        exact ⟨c.grantOf holder, .inl ⟨rfl, rfl⟩, rfl, rfl, project?_scope c⟩
  | remove =>
    dsimp only
    split
    · exact .inl rfl
    · cases groupId? holder with
      | none => exact hdelete hop
      | some id =>
        refine leavesNobody_ensures_books (fun x => ?_) fun _ => rfl
        cases x with
        | true => exact Work.ensures_books_record rfl (.inl rfl)
        | false => exact hdelete hop

/-- A change is reported after it was written, and by a change that is applied only. -/
private theorem apply_ensures_books (c : Change) (hu : b.pending.head? = some u) :
    Work.Ensures .books c.apply b (Reported u b) fun _ b' => b'.reports = b.reports := by
  unfold apply
  cases c.target with
  | user id login => exact applyToUser_ensures_books id login hu
  | group holder => exact applyToGroup_ensures_books holder hu
  | nobody => exact Work.ensures_books_ask rfl (fun _ => rfl) fun _ => rfl

private theorem applyOrFail_ensures_books (c : Change) (hu : b.pending.head? = some u) :
    Work.Ensures .books c.applyOrFail b (fun _ b' => Tells u b b')
      fun _ b' => b'.reports = b.reports := by
  unfold applyOrFail
  split
  · exact rfl
  · rw [Work.ensures_bind]
    refine (apply_ensures_books c hu).mono (fun outcome b' hb' => ?_) fun _ _ h => h
    cases outcome with
    | applied => exact hb'.elim .of_eq And.right
    | unchanged => exact hb'.elim .of_eq And.right
    | rejected r => exact hb'.elim id fun h => nomatch h.1

/-- All that a batch reports is reported within its unit. -/
private theorem applyAll_tells (changes : List Change) (hu : b.pending.head? = some u) :
    Work.Ensures .books (applyAll changes) b (fun _ b' => Tells u b b') fun _ b' => Tells u b b' := by
  induction changes generalizing b with
  | nil => exact fun r hr => .inl hr
  | cons c rest ih =>
    have hstays : Work.Preserves .books b.Stays c.applyOrFail :=
      (applyOrFail_isWithin c).preserves fun _ => allows_stays
    have hone := (applyOrFail_ensures_books c hu).and (hstays b (.refl b))
    rw [applyAll, Work.ensures_bind]
    refine hone.mono (fun outcome g hg => ?_) fun _ g hg => .of_eq hg.1
    rw [Work.ensures_bind]
    have hu' : g.pending.head? = some u := by rw [hg.2.pending, hu]
    exact (ih hu').mono (fun _ b' hb' => hg.1.trans hb') fun _ b' hb' => hg.1.trans hb'

/-- A batch of one change reports nothing where it fails. -/
private theorem applyAll_singleton_tells (c : Change) (hu : b.pending.head? = some u) :
    Work.Ensures .books (applyAll [c]) b (fun _ b' => Tells u b b')
      fun _ b' => b'.reports = b.reports := by
  rw [applyAll, Work.ensures_bind]
  exact (applyOrFail_ensures_books c hu).mono (fun _ _ h => h) fun _ _ h => h

/-- What is entered of a batch in its unit of work: only this, and with the number of the unit. -/
private theorem applyAll_stays (changes : List Change) :
    Work.Preserves .books b.Stays (applyAll changes) :=
  (applyAll_isWithin changes).preserves fun _ => allows_stays

/-- Every report of a batch is of a write in its unit of work, and this unit is completed if and
only if the batch ends well. -/
theorem applyBatch_ensures_books (changes : List Change) (σ : Session) (hb : b.Numbered)
    (hnothing : b.reports = []) :
    Acting.Ensures .books (applyBatch changes) σ b
      (fun _ _ g => ∀ r ∈ g.reports, ∃ unit asked, r.source? = some (unit, asked) ∧
        r.event.Reports asked ∧ unit ∈ g.completed)
      fun _ _ g => ∀ r ∈ g.reports, ∃ unit asked, r.source? = some (unit, asked) ∧
        r.event.Reports asked ∧ unit ∉ g.completed := by
  unfold applyBatch
  refine (checkAll_hosted (Setting.books_hosts 1 b) changes).bind_ensures (.refl b)
    (fun _ _ g hg r hr => ?_) fun _ τ g hg => ?_
  · rw [hg.reports, hnothing] at hr
    exact absurd hr List.not_mem_nil
  · have hempty : (g.after .begin ()).reports = [] := hg.reports.trans hnothing
    have hfresh : g.begun ∉ g.completed := fun h =>
      Nat.lt_irrefl _ ((hg.numbered hb).completed _ h)
    have hbody := (applyAll_tells changes g.head?_pending_after_begin).and
      (applyAll_stays changes _ (.refl _))
    rw [Acting.ensures_lift]
    refine Work.ensures_books_transaction ?_
    refine hbody.mono (fun _ k hk => ⟨fun r hr => ?_, fun f r hr => ?_⟩) fun f k hk r hr => ?_
    · rw [reports_after_complete] at hr
      obtain ⟨asked, hsource, hreports⟩ := hk.1.source hempty hr
      refine ⟨g.begun, asked, hsource, hreports, ?_⟩
      rw [hk.2.completed_eq]
      exact List.mem_cons_self
    · rw [reports_after_complete] at hr
      obtain ⟨asked, hsource, hreports⟩ := hk.1.source hempty hr
      refine ⟨g.begun, asked, hsource, hreports, ?_⟩
      rw [completed_after_failure, hk.2.completed]
      exact hfresh
    · rw [reports_after_abandon] at hr
      obtain ⟨asked, hsource, hreports⟩ := hk.1.source hempty hr
      refine ⟨g.begun, asked, hsource, hreports, ?_⟩
      rw [completed_after_abandon, hk.2.completed]
      exact hfresh

/-- A single change is borne out unless its unit of work cannot be completed. -/
theorem applyBatch_singleton_ensures_books (c : Change) (σ : Session) (hb : b.Sound)
    (hcompleted : b.completed ≠ []) :
    Acting.Ensures .books (applyBatch [c]) σ b (fun _ _ => Sound) fun _ _ => Excusable := by
  unfold applyBatch
  refine (checkAll_hosted (Setting.books_hosts 1 b) [c]).bind_ensures (.refl b)
    (fun _ _ _ hg => (hg.sound hb).excusable) fun _ τ g hg => ?_
  have hsome : g.completed ≠ [] := fun h => hcompleted (List.subset_nil.mp (h ▸ hg.completed))
  have hbody := (applyAll_singleton_tells c g.head?_pending_after_begin).and
    (applyAll_stays [c] _ (.refl _))
  rw [Acting.ensures_lift]
  refine Work.ensures_books_transaction ?_
  refine hbody.mono (fun _ k hk => ⟨fun r hr => ?_, fun f r hr => ?_⟩) fun f k hk => ?_
  · rw [reports_after_complete] at hr
    rw [hk.2.completed_eq]
    rcases hk.1 r hr with hr | ⟨-, hr⟩
    · exact (hg.sound hb r hr).mono (List.subset_cons_self _ _)
    · exact hr.mono (List.cons_subset_cons _ (List.nil_subset _))
  · rw [reports_after_complete] at hr
    rw [completed_after_failure, hk.2.broken_eq, hk.2.completed]
    rcases hk.1 r hr with hr | ⟨hchange, hr⟩
    · exact .inl (hg.sound hb r hr)
    · exact .inr ⟨hchange, hr.mono (List.cons_subset_cons _ (List.nil_subset _)), hsome⟩
  · refine Sound.excusable fun r hr => ?_
    rw [reports_after_abandon, hk.1] at hr
    rw [completed_after_abandon, hk.2.completed]
    exact hg.sound hb r hr

end Change

end Entitlements
