import Entitlements.Proofs.Program.Asks

/-!
# What programs preserve

A condition on the states of a setting is preserved by whatever meets it again in the end, with a
value or with a fault. A request that is permitted under the condition and whose answers all meet
it again preserves it, and so does everything that is made of such requests. What a program
ensures in a setting comes true in every run that the setting describes.
-/

namespace Entitlements

variable {α β γ κ : Type} {E : Setting γ} {I : γ → Prop} {P : Query → Prop} {R : Request → Prop}

/-- The request may be made under the condition, and the condition is met again after it. -/
def Setting.Allows (E : Setting γ) (I : γ → Prop) (r : Request) : Prop :=
  ∀ g, I g → E.permits g r ∧ ∀ a h, E.answers g r a h → I h

/-- Whoever answers requests as a setting: everything may be asked, and every request has the one
answer that is given to it. -/
def Setting.serving (serve : (r : Request) → κ → r.Answer × κ) : Setting κ where
  permits _ _ := True
  answers s r a t := serve r s = (a, t)

namespace Program

/-- What a program ensures where it is answered so is a condition on how its run ends. -/
theorem ensures_serving_iff (serve : (r : Request) → κ → r.Answer × κ) (p : Program α) (s : κ)
    (Q : α → κ → Prop) :
    p.Ensures (.serving serve) s Q ↔ Q (p.run serve s).1 (p.run serve s).2 := by
  induction p generalizing s with
  | done a => rfl
  | ask r next ih =>
    rw [run_ask, ← ih]
    refine ⟨fun h => h.2 _ _ rfl, fun h => ⟨trivial, ?_⟩⟩
    rintro a t hat
    obtain ⟨rfl, rfl⟩ := Prod.mk.inj hat
    exact h

/-- What a program ensures holds after a run, as long as the answers of the run are answers in the
setting. -/
theorem Ensures.of_run {serve : (r : Request) → κ → r.Answer × κ} {T : γ → κ → Prop}
    (hT : ∀ g s r, T g s → E.permits g r →
      ∃ h, E.answers g r (serve r s).1 h ∧ T h (serve r s).2)
    {p : Program α} {g : γ} {Q : α → γ → Prop} (hp : p.Ensures E g Q) {s : κ} (hs : T g s) :
    ∃ h, Q (p.run serve s).1 h ∧ T h (p.run serve s).2 := by
  induction p generalizing g s with
  | done a => exact ⟨g, hp, hs⟩
  | ask r next ih =>
    obtain ⟨h, hanswer, hh⟩ := hT g s r hs hp.1
    rw [run_ask]
    exact ih _ (hp.2 _ h hanswer) hh

/-- A program that makes allowed requests only meets the condition again. -/
theorem Ensures.preserves {F : Setting Unit} (hF : ∀ r, F.permits () r → E.Allows I r)
    (hanswers : ∀ r a, F.answers () r a ()) {p : Program α} {Q : α → Unit → Prop}
    (hp : p.Ensures F () Q) {g : γ} (hg : I g) : p.Ensures E g fun _ => I := by
  have hsim := Ensures.simulate (F := E) (R := fun _ => I)
    (fun _ d r hd hr => (hF r hr d hd).1)
    (fun _ d r a d' hd hr ha => ⟨(), hanswers r a, (hF r hr d hd).2 a d' ha⟩) hp hg
  exact hsim.mono fun _ _ ⟨_, hd, _⟩ => hd

end Program

namespace Work

/-- The condition is met again after the work, however it ends. -/
def Preserves (E : Setting γ) (I : γ → Prop) (w : Work α) : Prop :=
  ∀ g, I g → Ensures E w g (fun _ => I) fun _ => I

theorem Preserves.pure (a : α) : Preserves E I (pure a) := fun _ hg => hg

theorem Preserves.bind {w : Work α} {k : α → Work β} (hw : Preserves E I w)
    (hk : ∀ a, Preserves E I (k a)) : Preserves E I (w >>= k) := by
  intro g hg
  rw [ensures_bind]
  exact (hw g hg).mono hk fun _ _ hf => hf

theorem Preserves.throw (f : Fault) : Preserves E I (throw f : Work α) := fun _ hg => hg

theorem Preserves.ask {r : Request} (h : E.Allows I r) : Preserves E I (r.ask : Work r.Answer) := h

/-- A bound on the queries is enough where everything within the bound is allowed. -/
theorem AsksOnly.preserves {w : Work α} (h : AsksOnly P w)
    (hP : ∀ r, (Setting.asking P).permits () r → E.Allows I r) : Preserves E I w := by
  intro g hg
  refine (Program.Ensures.preserves hP (fun _ _ => trivial) h hg).mono ?_
  rintro (f | a) h hh <;> exact hh

/-- So is a bound on all requests. -/
theorem MakesOnly.preserves {w : Work α} (h : MakesOnly R w) (hR : ∀ r, R r → E.Allows I r) :
    Preserves E I w := by
  intro g hg
  refine (Program.Ensures.preserves hR (fun _ _ => trivial) h hg).mono ?_
  rintro (f | a) h hh <;> exact hh

end Work

namespace Acting

/-- The condition is met again, whoever acts and however it ends. -/
def Preserves (E : Setting γ) (I : γ → Prop) (a : Acting α) : Prop :=
  ∀ σ g, I g → Ensures E a σ g (fun _ _ => I) fun _ _ => I

theorem Preserves.pure (a : α) : Preserves E I (pure a) := fun _ _ hg => hg

theorem Preserves.raise (r : Refusal) : Preserves E I (r.raise : Acting α) := fun _ _ hg => hg

/-- Nothing comes after a refusal. -/
theorem Preserves.raise_bind (r : Refusal) (k : α → Acting β) :
    Preserves E I (r.raise >>= k) := fun _ _ hg => hg

theorem Preserves.bind {a : Acting α} {k : α → Acting β} (ha : Preserves E I a)
    (hk : ∀ b, Preserves E I (k b)) : Preserves E I (a >>= k) := by
  intro σ g hg
  rw [ensures_bind]
  exact (ha σ g hg).mono hk fun _ _ _ hf => hf

/-- What goes on under the condition may be preceded by what preserves it. -/
theorem Preserves.bind_ensures {a : Acting α} {k : α → Acting β} {σ : Session} {g : γ}
    {ok : β → Session → γ → Prop} {err : Fault → Session → γ → Prop} (ha : Preserves E I a)
    (hg : I g) (herr : ∀ f τ g, I g → err f τ g)
    (hk : ∀ b τ g, I g → Ensures E (k b) τ g ok err) : Ensures E (a >>= k) σ g ok err := by
  rw [ensures_bind]
  exact (ha σ g hg).mono hk herr

theorem Preserves.map {a : Acting α} (f : α → β) (ha : Preserves E I a) :
    Preserves E I (f <$> a) := by
  intro σ g hg
  rw [ensures_map]
  exact ha σ g hg

theorem Preserves.get : Preserves E I (get : Acting Session) := fun _ _ hg => hg

theorem Preserves.modify (f : Session → Session) : Preserves E I (modify f : Acting Unit) :=
  fun _ _ hg => hg

theorem Preserves.orRaise (e : Except Refusal α) : Preserves E I (orRaise e) := by
  cases e with
  | error r => exact .raise r
  | ok a => exact .pure a

theorem Preserves.liftExcept (e : Except Fault α) : Preserves E I (liftExcept e) := by
  cases e with
  | error f => exact fun _ _ hg => hg
  | ok a => exact .pure a

theorem Preserves.require (b : Bool) (r : Refusal) : Preserves E I (Session.require b r) := by
  cases b with
  | false => exact .raise r
  | true => exact .pure ()

theorem Preserves.query {q : Query} (h : E.Allows I (.query q)) :
    Preserves E I (Query.ask q : Acting q.Answer) := by
  intro σ g hg
  obtain ⟨hpermits, hanswers⟩ := h g hg
  rw [ensures_query]
  refine ⟨hpermits, fun a g' ha => ?_⟩
  cases a <;> exact hanswers _ g' ha

theorem Preserves.ask {r : Request} (h : E.Allows I r) : Preserves E I r.ask :=
  fun _ g hg => h g hg

theorem Preserves.record {e : Event} (h : E.Allows I (.log e)) : Preserves E I e.record := .ask h

theorem Preserves.lift {w : Work α} (h : Work.Preserves E I w) :
    Preserves E I (Session.lift w) := by
  intro σ g hg
  rw [ensures_lift]
  exact h g hg

/-- A bound on the queries is enough where everything within the bound is allowed. -/
theorem AsksOnly.preserves {a : Acting α} (h : AsksOnly P a)
    (hP : ∀ r, (Setting.asking P).permits () r → E.Allows I r) : Preserves E I a := by
  intro σ g hg
  refine (Program.Ensures.preserves hP (fun _ _ => trivial) (h σ) hg).mono ?_
  rintro ⟨f | a, τ⟩ h hh <;> exact hh

end Acting

end Entitlements
