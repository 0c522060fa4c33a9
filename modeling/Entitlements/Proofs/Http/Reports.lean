import Entitlements.Proofs.Http.Respond
import Entitlements.Proofs.Service.Reporting
import Entitlements.Proofs.Sql.UnitOfWork
import Entitlements.Setup.Deployment
import Entitlements.Store.Run
import Entitlements.Store.Sample

/-!
# Reports that are borne out

What the log reports after a batch of changes or after a request to the site is what was entered in
the books along the run, so it can be told from these which reports are borne out. In a batch all of
them are, or none, depending on how it ends. A request makes no report that is not borne out as long
as the database is one that either can make things permanent or cannot.
-/

namespace Entitlements

namespace Store

theorem around_answer (q : Query) (s : Store) : (s.answer q).2.around = s.around := by
  cases q with
  | setRoot login root =>
    show (s.setRoot login root).2.around = s.around
    unfold setRoot
    cases s.userByLogin? login with
    | none => rfl
    | some u =>
      dsimp only
      split <;> rfl
  | _ => rfl

theorem logs : Logs serve (·.around.events) := by
  intro r s
  cases r with
  | query q =>
    show (s.answer q).2.around.events = _
    rw [around_answer]
    exact (List.append_nil _).symm
  | log e => rfl
  | begin | complete | abandon | now | freshUuid | introspect | probe =>
    exact (List.append_nil _).symm

end Store

namespace Sql.Database

theorem around_answer (q : Query) (d : Database) : (d.answer q).2.around = d.around := by
  unfold answer respond
  dsimp only [tell]
  rcases d.responses with - | ⟨t | text, rest⟩ <;> rfl

/-- Whether a unit of work is completed, and what becomes of the database. -/
theorem complete_cases (d : Database) :
    d.complete.2.around = d.around ∧ d.complete.2.commitFailure? = d.commitFailure? ∧
      (d.commitFailure? = none ∧ d.complete.1 = .ok () ∨
        ∃ text, d.commitFailure? = some text ∧ d.complete.1 = .error (.statementFailed text)) := by
  unfold complete commit
  cases h : d.commitFailure? with
  | none => exact ⟨rfl, h, .inl ⟨rfl, rfl⟩⟩
  | some text => exact ⟨rfl, h, .inr ⟨text, rfl, rfl⟩⟩

theorem logs : Logs serve (·.around.events) := by
  intro r d
  cases r with
  | query q =>
    show (d.answer q).2.around.events = _
    rw [around_answer]
    exact (List.append_nil _).symm
  | complete =>
    show d.complete.2.around.events = _
    rw [d.complete_cases.1]
    exact (List.append_nil _).symm
  | log e => rfl
  | begin | abandon | now | freshUuid | introspect | probe => exact (List.append_nil _).symm

theorem commitFailure?_serve (r : Request) (d : Database) :
    (serve r d).2.commitFailure? = d.commitFailure? := by
  cases r with
  | query q => exact (d.answer_told q).1
  | complete => exact d.complete_cases.2.1
  | _ => rfl

/-- Where things can be made permanent no unit of work fails at its end, and elsewhere none is
completed. -/
def Commits (d : Database) (b : Books) : Prop :=
  d.commitFailure? ≠ none ∧ b.completed = [] ∨ d.commitFailure? = none ∧ b.broken = []

theorem Commits.serve {b : Books} (h : d.Commits b) (r : Request) :
    (serve r d).2.Commits (b.after r (Database.serve r d).1) := by
  unfold Commits
  rw [commitFailure?_serve]
  by_cases hr : r = .complete
  · subst hr
    show _ ∧ (b.after .complete d.complete.1).completed = [] ∨
      _ ∧ (b.after .complete d.complete.1).broken = []
    obtain ⟨-, -, ⟨hnone, hok⟩ | ⟨text, hsome, hfailed⟩⟩ := d.complete_cases
    · rw [hok]
      exact .inr ⟨hnone, (h.resolve_left fun h => h.1 hnone).2⟩
    · rw [hfailed]
      have hne : d.commitFailure? ≠ none := fun h => nomatch hsome.symm.trans h
      exact .inl ⟨hne, (h.resolve_right fun h => hne h.1).2⟩
  · rw [Books.completed_after hr, Books.broken_after hr]
    exact h

theorem commits_empty (d : Database) : d.Commits {} := by
  cases h : d.commitFailure? with
  | none => exact .inr ⟨h, rfl⟩
  | some text =>
    have hne : d.commitFailure? ≠ none := fun hnone => nomatch h.symm.trans hnone
    exact .inl ⟨hne, rfl⟩

/-- One database never both completes a unit of work and fails to complete another one. -/
theorem books_completed {α : Type} (p : Program α) (d : Database) :
    (p.books serve d {}).completed = [] ∨ (p.books serve d {}).broken = [] := by
  have hrun := p.books_related (T := Commits) (fun r _ _ h => h.serve r) d.commits_empty
  exact hrun.imp And.right And.right

end Sql.Database

/-- Whatever a request asks for, what it reports is borne out, unless it changes a permission and its
unit of work cannot be completed. -/
theorem Http.handles_books (site : Site) (i : Incoming) :
    Handles .books site i Books.Sound Books.Excusable Books.Sound where
  authenticate b hb :=
    (Auth.authenticate_hosted (Setting.books_hosts 1 b) _ _ b (.refl b)).mono
      (fun _ _ h => h.toFollows.sound hb) fun _ _ h => (h.toFollows.sound hb).excusable
  run c σ _ _ hb := c.run_ensures_books σ hb
  failed_of_start _ hb := hb.excusable
  log e b he hb := by
    refine ⟨trivial, ?_⟩
    rintro _ _ rfl
    rw [Books.after_log_of_not_isReport]
    · exact hb
    · cases e with
      | unhandledFailure | readinessCheckFailed => rfl
      | _ => exact he.elim
  probe b hb := by
    refine ⟨trivial, ?_⟩
    rintro _ _ rfl
    exact hb.excusable

namespace Setup.Deployment

/-- The database with its connections open. -/
def opened (d : Deployment) (db : Sql.Database) : Sql.Database :=
  { db.tell .openPool with
    around := db.around.record (.poolOpened d.pool.minSize d.pool.maxSize) }

theorem reportsIn_opened (d : Deployment) (db : Sql.Database) :
    reportsIn (d.opened db).around.events = reportsIn db.around.events := by
  show reportsIn (db.around.events ++ [.poolOpened d.pool.minSize d.pool.maxSize]) = _
  rw [reportsIn, List.filter_append]
  exact List.append_nil _

/-- Opening and closing the connections reports nothing. -/
theorem reportsIn_answerOne (d : Deployment) (i : Http.Incoming) (db : Sql.Database) :
    reportsIn (d.answerOne i db).2.around.events =
      reportsIn ((d.opened db).run (d.site.respond i)).2.around.events := by
  show reportsIn (((d.opened db).run (d.site.respond i)).2.around.events ++ [.poolClosed]) = _
  rw [reportsIn, List.filter_append]
  exact List.append_nil _

end Setup.Deployment

open Books

/-- Whoever answers, the unit of work that carried what a batch reports is completed if and only if
the batch ends well. -/
theorem Change.reports_applyBatch (changes : List Change) (σ : Session)
    (serve : (r : Request) → κ → r.Answer × κ) (s : κ) :
    let p := (applyBatch changes).run.run σ
    ∀ r ∈ (p.books serve s {}).reports, ∃ unit asked, r.source? = some (unit, asked) ∧
      r.event.Reports asked ∧
        (unit ∈ (p.books serve s {}).completed ↔ (p.run serve s).1.1.isOk = true) := by
  intro p r hr
  have hend := @Program.Ensures.books _ _ serve _ _ _
    (applyBatch_ensures_books changes σ numbered_empty rfl) s
  revert hend
  generalize Program.run serve p s = left
  obtain ⟨⟨f | outcomes, τ⟩, t⟩ := left
  · intro hend
    obtain ⟨unit, asked, hsource, hreports, hunit⟩ := hend r hr
    exact ⟨unit, asked, hsource, hreports, fun h => absurd h hunit, nofun⟩
  · intro hend
    obtain ⟨unit, asked, hsource, hreports, hunit⟩ := hend r hr
    exact ⟨unit, asked, hsource, hreports, fun _ => rfl, fun _ => hunit⟩

/-- Every report of a batch is of a write, and the unit of work that carried this write is completed
if and only if the batch ends well. A request to the service reports nothing whose unit of work is
not completed, whatever it is and whatever the database answers. Where completing a unit may fail
after another one was completed, only the report of a change of permissions can be of one that
fails. -/
theorem reports_borne_out (changes : List Change) (σ : Session) (s : Store)
    (d : Setup.Deployment) (i : Http.Incoming) (db : Sql.Database)
    (serve : (r : Request) → κ → r.Answer × κ) (t : κ) :
    (let p := (Change.applyBatch changes).run.run σ
     let b := p.books Store.serve s {}
     reportsIn (s.run p).2.around.events =
        reportsIn s.around.events ++ b.reports.map (·.event) ∧
      ∀ r ∈ b.reports, ∃ unit asked, r.source? = some (unit, asked) ∧
        r.event.Reports asked ∧ (unit ∈ b.completed ↔ (s.run p).1.1.isOk = true)) ∧
    (let b := (d.site.respond i).books Sql.Database.serve (d.opened db) {}
     reportsIn (d.answerOne i db).2.around.events =
        reportsIn db.around.events ++ b.reports.map (·.event) ∧
      ∀ r ∈ b.reports, r.Of b.completed) ∧
    let b := (d.site.respond i).books serve t {}
    ∀ r ∈ b.reports, r.Of b.completed ∨ r.event.IsPermissionChange ∧ r.Of b.broken := by
  have hensures := (Http.handles_books d.site i).respond_ensures sound_empty
  have hexcusable {κ : Type} (serve : (r : Request) → κ → r.Answer × κ) (t : κ) :
      ((d.site.respond i).books serve t {}).Excusable :=
    (hensures.books t).elim id fun h => h.1.excusable
  refine ⟨⟨?_, Change.reports_applyBatch changes σ Store.serve s⟩, ⟨?_, fun r hr => ?_⟩,
    fun r hr => ?_⟩
  · exact Program.reportsIn_run Store.logs _ s
  · rw [d.reportsIn_answerOne, ← d.reportsIn_opened db]
    exact Program.reportsIn_run Sql.Database.logs (d.site.respond i) (d.opened db)
  · rcases hexcusable Sql.Database.serve (d.opened db) r hr with h | ⟨-, hof, hne⟩
    · exact h
    · -- a unit that fails and one that is completed are never found on one database
      obtain ⟨unit, -, -, -, hunit⟩ := hof
      rcases Sql.Database.books_completed (d.site.respond i) (d.opened db) with h | h
      · exact absurd h hne
      · rw [h] at hunit
        exact absurd hunit List.not_mem_nil
  · exact (hexcusable serve t r hr).imp_right fun h => ⟨h.1, h.2.1⟩

/-- The user `root` of the sample applies changes. -/
def sampleBatch (changes : List Change) : Program (Except Fault (List Outcome) × Session) :=
  (Change.applyBatch changes).run.run
    (Session.ofUser? ((Store.sample default).userByLogin? "root"))

/-- The user `alice` of the sample is to have the permission to scan. -/
def sampleAddition : Change :=
  ⟨.add, Store.sampleDefault, "scan", none, .user 2 "alice"⟩

/-- The user `root` is to lose the permission to administer, which nobody else has. -/
def sampleLoss : Change :=
  ⟨.remove, Store.sampleDefault, Permission.administer, none, .user 1 "root"⟩

/-- What is reported of the addition alone comes true. -/
theorem reports_borne_out_addition :
    let p := sampleBatch [sampleAddition]
    let b := p.books Store.serve (Store.sample default) {}
    reportsIn ((Store.sample default).run p).2.around.events =
        [.userPermissionChanged "add" "alice" "scan" none] ∧
      ∀ r ∈ b.reports, r.Of b.completed := by
  intro p b
  obtain ⟨⟨-, hborne⟩, -⟩ := reports_borne_out [sampleAddition]
    (Session.ofUser? ((Store.sample default).userByLogin? "root")) (Store.sample default) default
    default default Store.serve (Store.sample default)
  refine ⟨rfl, fun r hr => ?_⟩
  obtain ⟨unit, asked, hsource, hreports, hunit⟩ := hborne r hr
  exact ⟨unit, asked, hsource, hreports, hunit.mpr rfl⟩

/-- After the addition the loss is refused, and the batch fails as a whole. The addition is reported
all the same, although its unit of work was abandoned. -/
theorem exists_report_of_refused_batch :
    let p := sampleBatch [sampleAddition, sampleLoss]
    let left := (Store.sample default).run p
    let b := p.books Store.serve (Store.sample default) {}
    left.1.1 = .error (.refused (.rejected .lastUser)) ∧ left.2.journal.rollbacks = 1 ∧
      reportsIn left.2.around.events = [.userPermissionChanged "add" "alice" "scan" none] ∧
      ∃ r ∈ b.reports, ¬ r.Of b.completed := by
  intro p left b
  refine ⟨rfl, rfl, rfl, _, List.mem_singleton_self _, ?_⟩
  rintro ⟨unit, asked, hsource, -, hunit⟩
  obtain ⟨rfl, -⟩ := Prod.mk.inj (Option.some.inj hsource)
  exact absurd hunit (by decide)

end Entitlements
