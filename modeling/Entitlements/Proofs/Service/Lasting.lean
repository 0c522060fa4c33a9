import Entitlements.Proofs.Session.Authority

/-!
# Lookups and checks that last

What a command finds out before it writes is found out again when the command is repeated, as long
as the questions behind it are still answered alike. A lookup leads to the same. A check passes for
good for the session that it was made for, which goes by the permissions that it has read; another
session may fail it.
-/

namespace Entitlements

variable {α β : Type} {P : Query → Prop}

namespace Store

variable {s t u : Store}

/-- The second store answers questions of the kind as the first one does, as far as they only
read. -/
def AnswersAlike (P : Query → Prop) (s t : Store) : Prop :=
  ∀ q, P q → q.Reads → t.answer q = ((s.answer q).1, t)

theorem AnswersAlike.trans (h : s.AnswersAlike P t) (h' : t.AnswersAlike P u) :
    s.AnswersAlike P u := by
  intro q hq hreads
  rw [h' q hq hreads, h q hq hreads]

theorem AnswersAlike.symm (h : s.AnswersAlike P t) : t.AnswersAlike P s := by
  intro q hq hreads
  rw [h q hq hreads]
  exact Prod.ext rfl (answer_of_reads hreads s)

/-- Where nothing was written, nothing is read that was not there before. -/
theorem Unwritten.answersAlike (h : s.Unwritten t) : s.AnswersAlike P t := by
  obtain ⟨_, _, _, _, rfl⟩ := h
  intro q _ hreads
  cases q with
  | setRoot | addMember | lockOrganization | insertGrant | deleteGrant | insertTemplate
  | deleteTemplateGrant => exact hreads.elim
  | _ => rfl

end Store

namespace Session

variable {s : Store} {σ τ υ : Session} {scope : Scope}

/-- The second session is one of the same caller, and what the first one has read of the caller's
permissions it has read, too. -/
structure Within (σ τ : Session) : Prop where
  principal : τ.principal = σ.principal
  read : ∀ held, σ.snapshot? = some held →
    τ.snapshot? = some held ∧ τ.defaultOrganization? = σ.defaultOrganization?

theorem Within.refl (σ : Session) : σ.Within σ := ⟨rfl, fun _ hread => ⟨hread, rfl⟩⟩

theorem Within.trans (h : σ.Within τ) (h' : τ.Within υ) : σ.Within υ := by
  refine ⟨h'.principal.trans h.principal, fun held hread => ?_⟩
  obtain ⟨hsnapshot, hdefault⟩ := h.read held hread
  obtain ⟨hsnapshot', hdefault'⟩ := h'.read held hsnapshot
  exact ⟨hsnapshot', hdefault'.trans hdefault⟩

theorem Loaded.within (h : Loaded s σ τ) : σ.Within τ := by
  refine ⟨h.principal, fun held hread => ⟨?_, ?_⟩⟩
  · rw [h.snapshot?, Session.view, hread, Option.getD_some]
  · rw [h.defaultOrganization?, Session.byDefault?, hread]

theorem Learned.within (h : Learned s σ τ) : σ.Within τ := by
  rcases h with rfl | h
  · exact .refl τ
  · exact h.within

/-- Whoever has read what the session has read goes by the same. -/
theorem Loaded.of_within (h : Loaded s σ τ) (hτ : τ.Within υ) : Loaded s σ υ := by
  obtain ⟨hsnapshot, hdefault⟩ := hτ.read _ h.snapshot?
  exact ⟨hτ.principal.trans h.principal, hsnapshot, hdefault.trans h.defaultOrganization?⟩

end Session

/-- What the work comes to, if it does not fail, it comes to on every store that answers its
questions alike. -/
def Work.Lasts (P : Query → Prop) (w : Work α) : Prop :=
  ∀ s, Ensures Store.setting w s
    (fun a t => s.Untouched t ∧ ∀ u, s.AnswersAlike P u →
      Ensures Store.setting w u (fun b v => b = a ∧ u.Untouched v) fun _ _ => False)
    fun _ _ => True

/-- What is come to, if the acting does not fail, is come to on every store that answers the
questions of it alike. It may fail for another session, but not for the one that is left. -/
def Acting.Lasts (P : Query → Prop) (a : Acting α) : Prop :=
  ∀ σ s, Ensures Store.setting a σ s
    (fun b τ t => σ.Within τ ∧ s.Untouched t ∧ ∀ υ u, s.AnswersAlike P u →
      Ensures Store.setting a υ u (fun c υ' v => c = b ∧ υ.Within υ' ∧ u.Untouched v)
        fun _ _ v => u.Untouched v ∧ ¬ τ.Within υ)
    fun _ _ _ => True

/-- A program that only asks for what is answered alike is run alike, and leaves each store as it
is. -/
theorem Program.Ensures.run_of_answersAlike {s t : Store} {p : Program α} {Q : α → Unit → Prop}
    (hp : p.Ensures (.making (Request.Asks P)) () Q) (hP : ∀ q, P q → q.Reads)
    (h : s.AnswersAlike P t) : s.run p = ((s.run p).1, s) ∧ t.run p = ((s.run p).1, t) := by
  induction p with
  | done a => exact ⟨rfl, rfl⟩
  | ask r next ih =>
    cases r with
    | query q =>
      have hq : P q := hp.1
      have hs : s.answer q = ((s.answer q).1, s) :=
        Prod.ext rfl (Store.answer_of_reads (hP q hq) s)
      have ht : t.answer q = ((s.answer q).1, t) := h q hq (hP q hq)
      obtain ⟨hs', ht'⟩ := ih (s.answer q).1 (hp.2 _ () trivial)
      have hrun : s.run (.ask (.query q) next) = s.run (next (s.answer q).1) := by
        show s.answer q |>.2.run (next (s.answer q).1) = _
        rw [hs]
      have hrun' : t.run (.ask (.query q) next) = t.run (next (s.answer q).1) := by
        show (t.answer q).2.run (next (t.answer q).1) = _
        rw [ht]
      rw [hrun, hrun']
      exact ⟨hs', ht'⟩
    | _ => exact hp.1.elim

namespace Work

variable {w : Work α}

/-- Lookups last. -/
theorem MakesOnly.lasts (hw : MakesOnly (Request.Asks P) w) (hP : ∀ q, P q → q.Reads) :
    Lasts P w := by
  intro s
  have hself : s.AnswersAlike P s := (Store.Unwritten.refl s).answersAlike
  have hrun : s.run w.run = ((s.run w.run).1, s) := (hw.run_of_answersAlike hP hself).1
  refine (Store.ensures_setting_iff _ _ _).mpr ?_
  rw [hrun]
  cases hx : (s.run w.run).1 with
  | error f => trivial
  | ok a =>
    refine ⟨.refl s, fun u hu => ?_⟩
    refine (Store.ensures_setting_iff _ _ _).mpr ?_
    rw [(hw.run_of_answersAlike hP hu).2, hx]
    exact ⟨rfl, .refl u⟩

/-- It does not matter whether something is a unit of work of its own. -/
theorem Lasts.transaction (hw : Lasts P w) : Lasts P (transaction w) := by
  intro s
  rw [ensures_setting_transaction]
  refine (hw s).mono (fun a t ⟨ht, hlast⟩ => ⟨ht.completed, fun u hu => ?_⟩) fun _ _ _ => trivial
  rw [ensures_setting_transaction]
  exact (hlast u hu).mono (fun b v ⟨hb, hv⟩ => ⟨hb, hv.completed⟩) fun _ _ hfalse => hfalse

end Work

namespace Acting

variable {w : Work α}

theorem Lasts.lift (hw : Work.Lasts P w) : Lasts P (Session.lift w) := by
  intro σ s
  rw [ensures_lift]
  refine (hw s).mono (fun a t ⟨ht, hlast⟩ => ⟨.refl σ, ht, fun υ u hu => ?_⟩) fun _ _ _ => trivial
  rw [ensures_lift]
  exact (hlast u hu).mono (fun b v ⟨hb, hv⟩ => ⟨hb, .refl υ, hv⟩) fun _ _ => False.elim

/-- What a request refers to lasts. -/
theorem Lasts.lookup (hw : Work.MakesOnly (Request.Asks Query.Looks) w) :
    Lasts Query.Looks (Session.lift w) :=
  .lift (hw.lasts fun _ => Query.Looks.reads)

/-- So does what is looked up in a unit of work of its own. -/
theorem Lasts.lookup_unit (hw : Work.MakesOnly (Request.Asks Query.Looks) w) :
    Lasts Query.Looks (Session.lift (Entitlements.transaction w)) :=
  .lift (hw.lasts fun _ => Query.Looks.reads).transaction

theorem Lasts.pure (a : α) : Lasts P (pure a) :=
  fun σ s => ⟨.refl σ, .refl s, fun υ u _ => ⟨rfl, .refl υ, .refl u⟩⟩

/-- What is found out step by step lasts if every step does. -/
theorem Lasts.bind {a : Acting β} {k : β → Acting α} (ha : Lasts P a)
    (hk : ∀ b, Lasts P (k b)) : Lasts P (a >>= k) := by
  intro σ s
  rw [ensures_bind]
  refine (ha σ s).mono (fun b τ t ⟨hτ, ht, hlast⟩ => ?_) fun _ _ _ _ => trivial
  refine (hk b τ t).mono (fun c τ' t' ⟨hτ', ht', hlast'⟩ => ?_) fun _ _ _ _ => trivial
  refine ⟨hτ.trans hτ', ht.trans ht', fun υ u hu => ?_⟩
  rw [ensures_bind]
  refine (hlast υ u hu).mono (fun b' υ' v hend => ?_) fun _ _ v hend => ⟨hend.1, ?_⟩
  · obtain ⟨rfl, hυ', hv⟩ := hend
    have halike : t.AnswersAlike P v :=
      ht.unwritten.answersAlike.symm.trans (hu.trans hv.unwritten.answersAlike)
    refine (hlast' υ' v halike).mono (fun c' υ'' v' hend' => ?_) fun _ _ v' hend' => ?_
    · obtain ⟨rfl, hυ'', hv'⟩ := hend'
      exact ⟨rfl, hυ'.trans hυ'', hv.trans hv'⟩
    · exact ⟨hv.trans hend'.1, fun hwithin => hend'.2 (hwithin.trans hυ')⟩
  · exact fun hwithin => hend.2 (hτ'.trans hwithin)

theorem Lasts.orRaise (e : Except Refusal α) : Lasts P (orRaise e) := by
  cases e with
  | error r => exact fun _ _ => trivial
  | ok a => exact .pure a

theorem Lasts.liftExcept (e : Except Fault α) : Lasts P (liftExcept e) := by
  cases e with
  | error f => exact fun _ _ => trivial
  | ok a => exact .pure a

end Acting

namespace Session

/-- What is required of the caller alone is met again by whoever is the same caller. -/
theorem lasts_of_principal {a : Acting Unit} {p : Principal → Bool}
    (ha : ∀ (σ : Session) (t : Store) (ok : Unit → Session → Store → Prop)
      (err : Fault → Session → Store → Prop), (p σ.principal = true → ok () σ t) →
        (¬ p σ.principal = true → ∀ f, err f σ t) → Acting.Ensures Store.setting a σ t ok err) :
    Acting.Lasts P a := by
  intro σ s
  refine ha σ s _ _ (fun hσ => ⟨.refl σ, .refl s, fun υ u _ => ?_⟩) fun _ _ => trivial
  refine ha υ u _ _ (fun _ => ⟨rfl, .refl υ, .refl u⟩) fun hnot _ => ⟨.refl u, ?_⟩
  intro hwithin
  rw [hwithin.principal] at hnot
  exact hnot hσ

theorem checkSignedIn_lasts : Acting.Lasts P checkSignedIn :=
  lasts_of_principal (p := Principal.isSignedIn) fun _ _ _ _ => checkSignedIn_ensures

theorem checkRoot_lasts : Acting.Lasts P checkRoot :=
  lasts_of_principal (p := Principal.isRoot) fun _ _ _ _ => checkRoot_ensures

/-- Whoever has passed a check has read what it goes by, and passes the check whatever becomes of
the store. -/
theorem checkAdministers_lasts (scope : Scope) :
    Acting.Lasts P (checkAdministers (some scope)) := by
  intro σ s
  refine checkAdministers_decides (.refl s) (fun hclears τ t hτ ht => ⟨hτ.within, ht, ?_⟩)
    fun _ _ _ _ _ _ => trivial
  intro υ u _
  refine checkAdministers_decides (.refl u) (fun _ υ' v hυ' hv => ⟨rfl, hυ'.within, hv⟩)
    fun hnot _ _ v _ hv => ⟨hv, fun hwithin => hnot ?_⟩
  have hcleared : υ.Cleared scope := ((hτ.of_within hwithin).cleared_iff scope).mpr hclears.2
  exact hcleared u

end Session

/-- The checks of a batch last, too. -/
theorem Change.checkAll_lasts (changes : List Change) :
    Acting.Lasts P (checkAll changes) := by
  induction changes with
  | nil => exact .pure ()
  | cons c rest ih => exact .bind (Session.checkAdministers_lasts _) fun _ => ih

end Entitlements
