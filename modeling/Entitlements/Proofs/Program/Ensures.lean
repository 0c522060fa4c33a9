import Entitlements.Lookup
import Entitlements.Session

/-!
# What programs ensure

A setting says which requests may be made in each state of affairs, and which answers can lead to
which states. A program ensures a condition when every request that it makes is permitted and it
ends in the condition, whatever it is answered on the way. A store that answers is a setting, and
so is a discipline that requests have to keep; what is ensured in one setting carries over to
every setting that it simulates.
-/

namespace Entitlements

variable {α β γ δ : Type}

/-- What may be asked, and what can come of it. -/
structure Setting (γ : Type) where
  /-- The request may be made in the state. -/
  permits : γ → Request → Prop
  /-- The request can be answered so, and the answer can lead to that state. -/
  answers : γ → (r : Request) → r.Answer → γ → Prop

namespace Program

/-- Every request is permitted, and every end meets the condition. -/
def Ensures (E : Setting γ) : Program α → γ → (α → γ → Prop) → Prop
  | .done a, g, Q => Q a g
  | .ask r next, g, Q => E.permits g r ∧ ∀ a h, E.answers g r a h → (next a).Ensures E h Q

variable {E : Setting γ} {F : Setting δ}

@[simp] theorem ensures_done (a : α) (g : γ) (Q : α → γ → Prop) :
    (Program.done a).Ensures E g Q ↔ Q a g := Iff.rfl

@[simp] theorem ensures_request (r : Request) (g : γ) (Q : r.Answer → γ → Prop) :
    (request r).Ensures E g Q ↔ E.permits g r ∧ ∀ a h, E.answers g r a h → Q a h := Iff.rfl

/-- The second program starts wherever the first one can end. -/
@[simp] theorem ensures_bind (p : Program α) (f : α → Program β) (g : γ) (Q : β → γ → Prop) :
    (p >>= f).Ensures E g Q ↔ p.Ensures E g fun a h => (f a).Ensures E h Q := by
  induction p generalizing g with
  | done a => rfl
  | ask r next ih => simp only [ask_bind, Ensures, ih]

/-- What follows from an ensured condition is ensured. -/
theorem Ensures.mono {p : Program α} {g : γ} {Q Q' : α → γ → Prop} (h : p.Ensures E g Q)
    (hQ : ∀ a g, Q a g → Q' a g) : p.Ensures E g Q' := by
  induction p generalizing g with
  | done a => exact hQ a g h
  | ask r next ih => exact ⟨h.1, fun a g' ha => ih a (h.2 a g' ha)⟩

/-- What is ensured twice over is ensured together. -/
theorem Ensures.and {p : Program α} {g : γ} {Q Q' : α → γ → Prop} (h : p.Ensures E g Q)
    (h' : p.Ensures E g Q') : p.Ensures E g fun a g => Q a g ∧ Q' a g := by
  induction p generalizing g with
  | done a => exact ⟨h, h'⟩
  | ask r next ih => exact ⟨h.1, fun a g' ha => ih a (h.2 a g' ha) (h'.2 a g' ha)⟩

/-- What is ensured in one setting holds in another that it simulates: related states permit the
same requests, and every answer there is one that can be given here and keeps states related. -/
theorem Ensures.simulate {R : γ → δ → Prop} {p : Program α} {g : γ} {d : δ} {Q : α → γ → Prop}
    (permits : ∀ g d r, R g d → E.permits g r → F.permits d r)
    (answers : ∀ g d r a d', R g d → E.permits g r → F.answers d r a d' →
      ∃ g', E.answers g r a g' ∧ R g' d')
    (h : p.Ensures E g Q) (hR : R g d) : p.Ensures F d fun a d' => ∃ g', R g' d' ∧ Q a g' := by
  induction p generalizing g d with
  | done a => exact ⟨g, hR, h⟩
  | ask r next ih =>
    refine ⟨permits g d r hR h.1, ?_⟩
    intro a d' hd
    obtain ⟨g', hg, hR'⟩ := answers g d r a d' hR h.1 hd
    exact ih a (h.2 a g' hg) hR'

end Program

namespace Work

/-- Every request is permitted; values end in one condition and faults in another. -/
def Ensures (E : Setting γ) (w : Work α) (g : γ) (ok : α → γ → Prop) (err : Fault → γ → Prop) :
    Prop :=
  w.run.Ensures E g fun
    | .ok a, h => ok a h
    | .error f, h => err f h

variable {E : Setting γ} {g : γ} {ok : α → γ → Prop} {err : Fault → γ → Prop}

@[simp] theorem ensures_pure (a : α) : Ensures E (pure a) g ok err ↔ ok a g := Iff.rfl

@[simp] theorem ensures_throw (f : Fault) :
    Ensures E (throw f : Work α) g ok err ↔ err f g := Iff.rfl

@[simp] theorem ensures_raise (r : Refusal) :
    Ensures E (r.raise : Work α) g ok err ↔ err (.refused r) g := Iff.rfl

/-- Work goes on after a value and is over after a fault. -/
@[simp] theorem ensures_bind (w : Work β) (k : β → Work α) :
    Ensures E (w >>= k) g ok err ↔ Ensures E w g (fun b h => Ensures E (k b) h ok err) err := by
  unfold Ensures
  rw [ExceptT.run_bind, Program.ensures_bind]
  apply iff_of_eq
  congr 1
  funext r h
  cases r <;> rfl

@[simp] theorem ensures_query (q : Query) {ok : q.Answer → γ → Prop} :
    Ensures E (Query.ask q) g ok err ↔
      E.permits g (.query q) ∧ ∀ a h, E.answers g (.query q) a h →
        match a with
        | .ok a => ok a h
        | .error f => err f h := by
  refine and_congr_right fun _ => forall_congr' fun a => forall_congr' fun h => ?_
  cases a <;> rfl

@[simp] theorem ensures_ask (r : Request) {ok : r.Answer → γ → Prop} :
    Ensures E r.ask g ok err ↔
      E.permits g r ∧ ∀ a h, E.answers g r a h → ok a h := Iff.rfl

@[simp] theorem ensures_record (e : Event) {ok : Unit → γ → Prop} :
    Ensures E e.record g ok err ↔
      E.permits g (.log e) ∧ ∀ a h, E.answers g (.log e) a h → ok a h := Iff.rfl

@[simp] theorem ensures_orRaise (e : Except Refusal α) :
    Ensures E (orRaise e) g ok err ↔
      match e with
      | .ok a => ok a g
      | .error r => err (.refused r) g := by
  cases e <;> rfl

/-- A unit of work is completed after a value and abandoned after a fault. -/
@[simp] theorem ensures_transaction (w : Work α) :
    Ensures E (transaction w) g ok err ↔
      E.permits g .begin ∧ ∀ u h, E.answers g .begin u h →
        Ensures E w h
          (fun a h => E.permits h .complete ∧ ∀ c h', E.answers h .complete c h' →
            match c with
            | .ok _ => ok a h'
            | .error f => err f h')
          (fun f h => E.permits h (.abandon f) ∧ ∀ u h', E.answers h (.abandon f) u h' →
            err f h') := by
  unfold Ensures
  refine and_congr_right fun _ => forall_congr' fun u => forall_congr' fun h =>
    imp_congr_right fun _ => ?_
  refine (Program.ensures_bind w.run _ h _).trans (iff_of_eq ?_)
  congr 1
  funext r h
  cases r with
  | error f => rfl
  | ok a =>
    refine propext (and_congr_right fun _ => forall_congr' fun c => forall_congr' fun h' => ?_)
    cases c <;> rfl

theorem Ensures.mono {w : Work α} {ok' : α → γ → Prop} {err' : Fault → γ → Prop}
    (h : Ensures E w g ok err) (hok : ∀ a g, ok a g → ok' a g)
    (herr : ∀ f g, err f g → err' f g) : Ensures E w g ok' err' := by
  refine Program.Ensures.mono h ?_
  rintro (f | a) g hg
  · exact herr f g hg
  · exact hok a g hg

/-- What is ensured twice over is ensured together. -/
theorem Ensures.and {w : Work α} {ok' : α → γ → Prop} {err' : Fault → γ → Prop}
    (h : Ensures E w g ok err) (h' : Ensures E w g ok' err') :
    Ensures E w g (fun a g => ok a g ∧ ok' a g) fun f g => err f g ∧ err' f g := by
  refine Program.Ensures.mono (Program.Ensures.and h h') ?_
  rintro (f | a) g hg <;> exact hg

end Work

namespace Acting

/-- Every request is permitted; values end in one condition and faults in another, and both tell
of the session that is left. -/
def Ensures (E : Setting γ) (a : Acting α) (σ : Session) (g : γ)
    (ok : α → Session → γ → Prop) (err : Fault → Session → γ → Prop) : Prop :=
  (a.run.run σ).Ensures E g fun
    | (.ok a, σ), h => ok a σ h
    | (.error f, σ), h => err f σ h

variable {E : Setting γ} {σ : Session} {g : γ} {ok : α → Session → γ → Prop}
  {err : Fault → Session → γ → Prop}

@[simp] theorem ensures_pure (a : α) : Ensures E (pure a) σ g ok err ↔ ok a σ g := Iff.rfl

@[simp] theorem ensures_throw (f : Fault) :
    Ensures E (throw f : Acting α) σ g ok err ↔ err f σ g := Iff.rfl

@[simp] theorem ensures_raise (r : Refusal) :
    Ensures E (r.raise : Acting α) σ g ok err ↔ err (.refused r) σ g := Iff.rfl

/-- Acting goes on after a value and is over after a fault. -/
@[simp] theorem ensures_bind (a : Acting β) (k : β → Acting α) :
    Ensures E (a >>= k) σ g ok err ↔
      Ensures E a σ g (fun b τ h => Ensures E (k b) τ h ok err) err := by
  unfold Ensures
  rw [ExceptT.run_bind, StateT.run_bind, Program.ensures_bind]
  apply iff_of_eq
  congr 1
  funext ⟨r, τ⟩ h
  cases r <;> rfl

@[simp] theorem ensures_map (f : β → α) (a : Acting β) :
    Ensures E (f <$> a) σ g ok err ↔ Ensures E a σ g (fun b => ok (f b)) err := by
  rw [map_eq_pure_bind, ensures_bind]
  rfl

@[simp] theorem ensures_get {ok : Session → Session → γ → Prop} :
    Ensures E get σ g ok err ↔ ok σ σ g := Iff.rfl

@[simp] theorem ensures_modify (f : Session → Session) {ok : Unit → Session → γ → Prop} :
    Ensures E (modify f) σ g ok err ↔ ok () (f σ) g := Iff.rfl

/-- Work that the session takes no part in leaves it as it is. -/
@[simp] theorem ensures_lift (w : Work α) :
    Ensures E (Session.lift w) σ g ok err ↔
      Work.Ensures E w g (fun a => ok a σ) (fun f => err f σ) := by
  refine (Program.ensures_bind w.run _ g _).trans (iff_of_eq ?_)
  unfold Work.Ensures
  congr 1
  funext r h
  cases r <;> rfl

@[simp] theorem ensures_query (q : Query) {ok : q.Answer → Session → γ → Prop} :
    Ensures E (Query.ask q) σ g ok err ↔
      E.permits g (.query q) ∧ ∀ a h, E.answers g (.query q) a h →
        match a with
        | .ok a => ok a σ h
        | .error f => err f σ h := by
  refine and_congr_right fun _ => forall_congr' fun a => forall_congr' fun h => ?_
  cases a <;> rfl

@[simp] theorem ensures_ask (r : Request) {ok : r.Answer → Session → γ → Prop} :
    Ensures E r.ask σ g ok err ↔
      E.permits g r ∧ ∀ a h, E.answers g r a h → ok a σ h := Iff.rfl

@[simp] theorem ensures_record (e : Event) {ok : Unit → Session → γ → Prop} :
    Ensures E e.record σ g ok err ↔
      E.permits g (.log e) ∧ ∀ a h, E.answers g (.log e) a h → ok a σ h := Iff.rfl

@[simp] theorem ensures_orRaise (e : Except Refusal α) :
    Ensures E (orRaise e) σ g ok err ↔
      match e with
      | .ok a => ok a σ g
      | .error r => err (.refused r) σ g := by
  cases e <;> rfl

@[simp] theorem ensures_liftExcept (e : Except Fault α) :
    Ensures E (liftExcept e) σ g ok err ↔
      match e with
      | .ok a => ok a σ g
      | .error f => err f σ g := by
  cases e <;> rfl

@[simp] theorem ensures_require (b : Bool) (r : Refusal) {ok : Unit → Session → γ → Prop} :
    Ensures E (Session.require b r) σ g ok err ↔
      if b then ok () σ g else err (.refused r) σ g := by
  cases b <;> rfl

/-- A unit of work is completed after a value and abandoned after a fault. -/
@[simp] theorem ensures_transaction (a : Acting α) :
    Ensures E (transaction a) σ g ok err ↔
      E.permits g .begin ∧ ∀ u h, E.answers g .begin u h →
        Ensures E a σ h
          (fun a τ h => E.permits h .complete ∧ ∀ c h', E.answers h .complete c h' →
            match c with
            | .ok _ => ok a τ h'
            | .error f => err f τ h')
          (fun f τ h => E.permits h (.abandon f) ∧ ∀ u h', E.answers h (.abandon f) u h' →
            err f τ h') := by
  unfold Ensures
  refine and_congr_right fun _ => forall_congr' fun u => forall_congr' fun h =>
    imp_congr_right fun _ => ?_
  refine (Program.ensures_bind (a.run.run σ) _ h _).trans (iff_of_eq ?_)
  congr 1
  funext ⟨r, τ⟩ h
  cases r with
  | error f => rfl
  | ok a =>
    refine propext (and_congr_right fun _ => forall_congr' fun c => forall_congr' fun h' => ?_)
    cases c <;> rfl

theorem Ensures.mono {a : Acting α} {ok' : α → Session → γ → Prop}
    {err' : Fault → Session → γ → Prop} (h : Ensures E a σ g ok err)
    (hok : ∀ a τ g, ok a τ g → ok' a τ g) (herr : ∀ f τ g, err f τ g → err' f τ g) :
    Ensures E a σ g ok' err' := by
  refine Program.Ensures.mono h ?_
  rintro ⟨f | a, τ⟩ g hg
  · exact herr f τ g hg
  · exact hok a τ g hg

end Acting

end Entitlements
