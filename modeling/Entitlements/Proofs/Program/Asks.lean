import Entitlements.Proofs.Program.Ensures

/-!
# What programs ask the store

A bound on the queries that a program can make, whatever it is answered. Such a bound is all that
has to be known of most programs: one that only reads changes nothing in any store, and one that
spares the grants cannot break a rule about them. Where requests other than queries matter as well,
the bound is on all of them.
-/

namespace Entitlements

variable {α β γ : Type} {P P' : Query → Prop} {R R' : Request → Prop}

/-- Queries are bounded and all other requests are free. -/
def Setting.asking (P : Query → Prop) : Setting Unit where
  permits
    | _, .query q => P q
    | _, _ => True
  answers _ _ _ _ := True

/-- All requests are bounded. -/
def Setting.making (R : Request → Prop) : Setting Unit where
  permits _ r := R r
  answers _ _ _ _ := True

/-- Every query of the program is of the kind. -/
def Program.AsksOnly (P : Query → Prop) (p : Program α) : Prop :=
  p.Ensures (.asking P) () fun _ _ => True

/-- Every query of the work is of the kind. -/
def Work.AsksOnly (P : Query → Prop) (w : Work α) : Prop :=
  Work.Ensures (.asking P) w () (fun _ _ => True) fun _ _ => True

/-- Every query is of the kind, whoever acts. -/
def Acting.AsksOnly (P : Query → Prop) (a : Acting α) : Prop :=
  ∀ σ, Acting.Ensures (.asking P) a σ () (fun _ _ _ => True) fun _ _ _ => True

/-- Every request of the work is of the kind. -/
def Work.MakesOnly (R : Request → Prop) (w : Work α) : Prop :=
  Work.Ensures (.making R) w () (fun _ _ => True) fun _ _ => True

namespace Program

/-- What no permitted request can break is kept by a run, and the run ends in the condition that
is met whatever is answered. -/
theorem Ensures.keeps {E : Setting Unit} {p : Program α} {Q : α → Unit → Prop}
    (h : p.Ensures E () Q) (hE : ∀ r a, E.answers () r a ()) {κ : Type} {I : κ → Prop}
    {serve : (r : Request) → κ → r.Answer × κ}
    (hI : ∀ r s, E.permits () r → I s → I (serve r s).2) {s : κ} (hs : I s) :
    Q (p.run serve s).1 () ∧ I (p.run serve s).2 := by
  induction p generalizing s with
  | done a => exact ⟨h, hs⟩
  | ask r next ih =>
    rw [run_ask]
    exact ih _ (h.2 _ () (hE r _)) (hI r s h.1 hs)

/-- A bound on the queries is enough for every setting that permits so much. -/
theorem AsksOnly.ensures {E : Setting γ} {p : Program α} (h : p.AsksOnly P)
    (hE : ∀ g r, (Setting.asking P).permits () r → E.permits g r) (g : γ) :
    p.Ensures E g fun _ _ => True := by
  have hsim := Ensures.simulate (F := E) (R := fun _ _ => True)
    (fun _ d r _ hr => hE d r hr) (fun _ _ _ _ _ _ _ _ => ⟨(), trivial, trivial⟩) h
    (d := g) trivial
  exact hsim.mono fun _ _ _ => trivial

theorem AsksOnly.mono {p : Program α} (h : p.AsksOnly P) (hP : ∀ q, P q → P' q) :
    p.AsksOnly P' := by
  refine h.ensures ?_ ()
  rintro ⟨⟩ r hr
  cases r with
  | query q => exact hP q hr
  | _ => trivial

end Program

namespace Work

theorem MakesOnly.mono {w : Work α} (h : MakesOnly R w) (hR : ∀ r, R r → R' r) :
    MakesOnly R' w := by
  have hsim := Program.Ensures.simulate (F := .making R') (R := fun _ _ => True)
    (fun _ _ r _ hr => hR r hr) (fun _ _ _ _ _ _ _ _ => ⟨(), trivial, trivial⟩) h (d := ()) trivial
  refine hsim.mono ?_
  rintro (f | a) _ _ <;> trivial

theorem MakesOnly.pure (a : α) : MakesOnly R (pure a) := trivial

theorem MakesOnly.throw (f : Fault) : MakesOnly R (throw f : Work α) := trivial

theorem MakesOnly.raise (r : Refusal) : MakesOnly R (r.raise : Work α) := trivial

theorem MakesOnly.bind {w : Work α} {k : α → Work β} (hw : MakesOnly R w)
    (hk : ∀ a, MakesOnly R (k a)) : MakesOnly R (w >>= k) := by
  unfold MakesOnly
  rw [ensures_bind]
  exact Ensures.mono hw (fun a _ _ => hk a) fun _ _ _ => trivial

theorem MakesOnly.query {q : Query} (h : R (.query q)) : MakesOnly R (Query.ask q) := by
  unfold MakesOnly
  rw [ensures_query]
  refine ⟨h, fun a _ _ => ?_⟩
  cases a <;> trivial

theorem MakesOnly.record {e : Event} (h : R (.log e)) : MakesOnly R e.record :=
  ⟨h, fun _ _ _ => trivial⟩

/-- What no request of the kind can break is kept by a run. -/
theorem MakesOnly.keeps {w : Work α} (h : MakesOnly R w) {κ : Type} {I : κ → Prop}
    {serve : (r : Request) → κ → r.Answer × κ} (hI : ∀ r s, R r → I s → I (serve r s).2) {s : κ}
    (hs : I s) : I (w.run.run serve s).2 :=
  (Program.Ensures.keeps h (fun _ _ => trivial) hI hs).2

/-- A bound on all requests bounds the queries. -/
theorem MakesOnly.asksOnly {w : Work α} (h : MakesOnly R w) (hR : ∀ q, R (.query q) → P q) :
    AsksOnly P w := by
  have hsim := Program.Ensures.simulate (F := .asking P) (R := fun _ _ => True)
    (fun _ _ r _ hr => by
      cases r with
      | query q => exact hR q hr
      | _ => trivial)
    (fun _ _ _ _ _ _ _ _ => ⟨(), trivial, trivial⟩) h (d := ()) trivial
  refine hsim.mono ?_
  rintro (f | a) _ _ <;> trivial

theorem AsksOnly.mono {w : Work α} (h : AsksOnly P w) (hP : ∀ q, P q → P' q) :
    AsksOnly P' w := by
  have hw : w.run.AsksOnly P := Program.Ensures.mono h fun _ _ _ => trivial
  refine Program.Ensures.mono (hw.mono hP) ?_
  rintro (f | a) _ _ <;> trivial

theorem AsksOnly.pure (a : α) : AsksOnly P (pure a) := trivial

theorem AsksOnly.bind {w : Work α} {k : α → Work β} (hw : AsksOnly P w)
    (hk : ∀ a, AsksOnly P (k a)) : AsksOnly P (w >>= k) := by
  unfold AsksOnly
  rw [ensures_bind]
  exact Ensures.mono hw (fun a _ _ => hk a) fun _ _ _ => trivial

theorem AsksOnly.query {q : Query} (h : P q) : AsksOnly P (Query.ask q) := by
  unfold AsksOnly
  rw [ensures_query]
  refine ⟨h, fun a _ _ => ?_⟩
  cases a <;> trivial

theorem AsksOnly.throw (f : Fault) : AsksOnly P (throw f : Work α) := trivial

theorem AsksOnly.record (e : Event) : AsksOnly P e.record := ⟨trivial, fun _ _ _ => trivial⟩

theorem AsksOnly.introspect (token : String) : AsksOnly P (Request.ask (.introspect token)) :=
  ⟨trivial, fun _ _ _ => trivial⟩

theorem AsksOnly.transaction {w : Work α} (h : AsksOnly P w) : AsksOnly P (transaction w) := by
  unfold AsksOnly
  rw [ensures_transaction]
  refine ⟨trivial, fun _ _ _ => Ensures.mono h (fun a _ _ => ⟨trivial, fun c _ _ => ?_⟩)
    fun f _ _ => ⟨trivial, fun _ _ _ => trivial⟩⟩
  cases c <;> trivial

end Work

namespace Acting

theorem AsksOnly.mono {a : Acting α} (h : AsksOnly P a) (hP : ∀ q, P q → P' q) :
    AsksOnly P' a := by
  intro σ
  have ha : (a.run.run σ).AsksOnly P := Program.Ensures.mono (h σ) fun _ _ _ => trivial
  refine Program.Ensures.mono (ha.mono hP) ?_
  rintro ⟨f | a, τ⟩ _ _ <;> trivial

/-- What no query of the kind and no other request can break is kept by a run. -/
theorem AsksOnly.keeps {a : Acting α} (h : AsksOnly P a) {κ : Type} {I : κ → Prop}
    {serve : (r : Request) → κ → r.Answer × κ}
    (hI : ∀ r s, (Setting.asking P).permits () r → I s → I (serve r s).2) (σ : Session) {s : κ}
    (hs : I s) : I ((a.run.run σ).run serve s).2 :=
  (Program.Ensures.keeps (h σ) (fun _ _ => trivial) hI hs).2

theorem AsksOnly.pure (a : α) : AsksOnly P (pure a) := fun _ => trivial

theorem AsksOnly.raise (r : Refusal) : AsksOnly P (r.raise : Acting α) := fun _ => trivial

/-- Nothing comes after a refusal. -/
theorem AsksOnly.raise_bind (r : Refusal) (k : α → Acting β) : AsksOnly P (r.raise >>= k) :=
  fun _ => trivial

theorem AsksOnly.bind {a : Acting α} {k : α → Acting β} (ha : AsksOnly P a)
    (hk : ∀ b, AsksOnly P (k b)) : AsksOnly P (a >>= k) := by
  intro σ
  rw [ensures_bind]
  exact (ha σ).mono (fun b τ _ _ => hk b τ) fun _ _ _ _ => trivial

theorem AsksOnly.map {a : Acting α} (f : α → β) (ha : AsksOnly P a) : AsksOnly P (f <$> a) := by
  rw [map_eq_pure_bind]
  exact ha.bind fun b => .pure (f b)

theorem AsksOnly.get : AsksOnly P (get : Acting Session) := fun _ => trivial

theorem AsksOnly.modify (f : Session → Session) : AsksOnly P (modify f : Acting Unit) :=
  fun _ => trivial

theorem AsksOnly.query {q : Query} (h : P q) : AsksOnly P (Query.ask q : Acting q.Answer) := by
  intro σ
  rw [ensures_query]
  refine ⟨h, fun a _ _ => ?_⟩
  cases a <;> trivial

theorem AsksOnly.record (e : Event) : AsksOnly P e.record :=
  fun _ => ⟨trivial, fun _ _ _ => trivial⟩

theorem AsksOnly.now : AsksOnly P (Request.ask .now) := fun _ => ⟨trivial, fun _ _ _ => trivial⟩

theorem AsksOnly.freshUuid : AsksOnly P (Request.ask .freshUuid) :=
  fun _ => ⟨trivial, fun _ _ _ => trivial⟩

theorem AsksOnly.orRaise (e : Except Refusal α) : AsksOnly P (orRaise e) := by
  cases e with
  | error r => exact .raise r
  | ok a => exact .pure a

/-- What comes after a check only counts where the check passes. -/
theorem AsksOnly.orRaise_bind {e : Except Refusal α} {k : α → Acting β}
    (h : ∀ a, e = .ok a → AsksOnly P (k a)) : AsksOnly P (Entitlements.orRaise e >>= k) := by
  cases e with
  | error r => exact .raise_bind r k
  | ok a => exact h a rfl

theorem AsksOnly.liftExcept (e : Except Fault α) : AsksOnly P (liftExcept e) := by
  cases e with
  | error f => exact fun _ => trivial
  | ok a => exact .pure a

theorem AsksOnly.require (b : Bool) (r : Refusal) : AsksOnly P (Session.require b r) := by
  cases b with
  | false => exact .raise r
  | true => exact .pure ()

theorem AsksOnly.lift {w : Work α} (h : Work.AsksOnly P w) : AsksOnly P (Session.lift w) := by
  intro σ
  rw [ensures_lift]
  exact h

theorem AsksOnly.transaction {a : Acting α} (h : AsksOnly P a) : AsksOnly P (transaction a) := by
  intro σ
  rw [ensures_transaction]
  refine ⟨trivial, fun _ _ _ => (h σ).mono (fun a τ _ _ => ⟨trivial, fun c _ _ => ?_⟩)
    fun f τ _ _ => ⟨trivial, fun _ _ _ => trivial⟩⟩
  cases c <;> trivial

end Acting

end Entitlements
