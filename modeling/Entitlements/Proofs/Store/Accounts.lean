import Entitlements.Proofs.Store.Reading

/-!
# Stores with other users

Two stores that are the same except for their users answer alike whatever is asked of anything
else. Programs are run side by side on two such stores: they agree where they come to related ends
and leave stores that are the same again except for their users. A program that looks at no account
agrees with itself, and agreement is carried along the steps of two programs.
-/

namespace Entitlements

variable {α β γ δ : Type}

/-- The store with other users. -/
def Store.withUsers (us : List User) (s : Store) : Store := { s with users := us }

namespace Program

/-- What looks at no account is answered alike, and the users stay what they are. -/
theorem AsksOnly.run_withUsers {p : Program α} (hp : p.AsksOnly Query.SkipsUsers) (us : List User)
    (s : Store) : (s.withUsers us).run p = ((s.run p).1, (s.run p).2.withUsers us) := by
  have hserve (r : Request) (hr : (Setting.asking Query.SkipsUsers).permits () r) (t : Store) :
      Store.serve r (t.withUsers us) = ((Store.serve r t).1, (Store.serve r t).2.withUsers us) := by
    cases r with
    | query q =>
      cases q with
      | userByLogin | countAdministrators | setRoot | addMember | lockOrganization | insertGrant
      | deleteGrant | insertTemplate | deleteTemplateGrant => exact hr.elim
      | _ => rfl
    | _ => rfl
  induction p generalizing s with
  | done a => rfl
  | ask r next ih =>
    rw [Store.run, run_ask, hserve r hp.1]
    exact ih _ (hp.2 _ () trivial) _

/-- The first program is run on the store and the second one on the store with other users: they
come to related ends and leave stores that differ in their users only. -/
def Agree (us : List User) (p : Program α) (q : Program β) (s : Store)
    (Q : α → β → Store → Prop) : Prop :=
  ∃ a b t, s.run p = (a, t) ∧ (s.withUsers us).run q = (b, t.withUsers us) ∧ Q a b t

variable {us : List User} {p : Program α} {q : Program β} {s : Store} {Q : α → β → Store → Prop}

/-- A program that looks at no account ends in the same way on both stores. -/
theorem AsksOnly.agree {P : α → Store → Prop} (hp : p.AsksOnly Query.SkipsUsers)
    (h : p.Ensures Store.setting s P) : Agree us p p s fun a b t => a = b ∧ P a t :=
  ⟨_, _, _, rfl, hp.run_withUsers us s, rfl, (Store.ensures_setting_iff p s P).mp h⟩

theorem Agree.mono {Q' : α → β → Store → Prop} (h : Agree us p q s Q)
    (hQ : ∀ a b t, Q a b t → Q' a b t) : Agree us p q s Q' := by
  obtain ⟨a, b, t, hp, hq, hab⟩ := h
  exact ⟨a, b, t, hp, hq, hQ a b t hab⟩

/-- Programs go on in agreement from related ends. -/
theorem Agree.bind {f : α → Program γ} {g : β → Program δ} {Q' : γ → δ → Store → Prop}
    (h : Agree us p q s Q) (hk : ∀ a b t, Q a b t → Agree us (f a) (g b) t Q') :
    Agree us (p >>= f) (q >>= g) s Q' := by
  obtain ⟨a, b, t, hp, hq, hab⟩ := h
  obtain ⟨c, d, u, hf, hg, hcd⟩ := hk a b t hab
  refine ⟨c, d, u, ?_, ?_, hcd⟩
  · rw [Store.run] at hp
    rw [Store.run, run_bind, hp]
    exact hf
  · rw [Store.run] at hq
    rw [Store.run, run_bind, hq]
    exact hg

end Program

/-- Both fail with the same fault, or both have values, which are related. -/
inductive Alike (R : α → β → Prop) : Except Fault α → Except Fault β → Prop
  | value {a : α} {b : β} (h : R a b) : Alike R (.ok a) (.ok b)
  | fault (f : Fault) : Alike R (.error f) (.error f)

theorem Alike.mono {R R' : α → β → Prop} {x : Except Fault α} {y : Except Fault β}
    (h : Alike R x y) (hR : ∀ a b, R a b → R' a b) : Alike R' x y := by
  cases h with
  | value hab => exact .value (hR _ _ hab)
  | fault f => exact .fault f

namespace Work

/-- Run side by side with other users in the second store, work fails in the same way or comes to
related values. -/
def Agree (us : List User) (w : Work α) (w' : Work β) (s : Store)
    (ok : α → β → Store → Prop) : Prop :=
  Program.Agree us w.run w'.run s fun x y t => Alike (ok · · t) x y

variable {us : List User} {w : Work α} {w' : Work β} {s : Store} {ok : α → β → Store → Prop}

theorem Agree.value {a : α} {b : β} (h : ok a b s) : Agree us (pure a) (pure b) s ok :=
  ⟨_, _, s, rfl, rfl, .value h⟩

theorem Agree.bind {k : α → Work γ} {k' : β → Work δ} {ok' : γ → δ → Store → Prop}
    (h : Agree us w w' s ok) (hk : ∀ a b t, ok a b t → Agree us (k a) (k' b) t ok') :
    Agree us (w >>= k) (w' >>= k') s ok' := by
  unfold Agree
  rw [ExceptT.run_bind, ExceptT.run_bind]
  refine Program.Agree.bind h ?_
  rintro _ _ t (⟨hab⟩ | ⟨f⟩)
  · exact hk _ _ t hab
  · exact ⟨_, _, t, rfl, rfl, .fault f⟩

/-- Work that looks at no account. -/
theorem AsksOnly.agree {P : α → Store → Prop} (hw : AsksOnly Query.SkipsUsers w)
    (h : Ensures Store.setting w s P fun _ _ => True) :
    Agree us w w s fun a b t => a = b ∧ P a t := by
  have hask : w.run.AsksOnly Query.SkipsUsers := Program.Ensures.mono hw fun _ _ _ => trivial
  refine (hask.agree h).mono ?_
  rintro (f | a) _ t ⟨rfl, ht⟩
  · exact .fault f
  · exact .value ⟨rfl, ht⟩

/-- Units of work are only counted. -/
theorem Agree.transaction (h : Agree us w w' s fun a b t => ok a b t.completed) :
    Agree us (transaction w) (transaction w') s ok := by
  refine Program.Agree.bind (p := w.run) (q := w'.run) h ?_
  rintro _ _ t (⟨hab⟩ | ⟨f⟩)
  · exact ⟨_, _, t.completed, rfl, rfl, .value hab⟩
  · exact ⟨_, _, t.abandoned, rfl, rfl, .fault f⟩

end Work

namespace Acting

/-- Run side by side with other users in the second store, acting leaves the same session, and it
fails in the same way or comes to related values. -/
def Agree (us : List User) (a : Acting α) (a' : Acting β) (σ : Session) (s : Store)
    (ok : α → β → Session → Store → Prop) : Prop :=
  Program.Agree us (a.run.run σ) (a'.run.run σ) s fun x y t =>
    x.2 = y.2 ∧ Alike (ok · · x.2 t) x.1 y.1

variable {us : List User} {a : Acting α} {a' : Acting β} {σ : Session} {s : Store}
  {ok : α → β → Session → Store → Prop}

theorem Agree.mono {ok' : α → β → Session → Store → Prop} (h : Agree us a a' σ s ok)
    (hok : ∀ b c τ t, ok b c τ t → ok' b c τ t) : Agree us a a' σ s ok' :=
  Program.Agree.mono h fun x _ t hxy => ⟨hxy.1, hxy.2.mono fun b c => hok b c x.2 t⟩

theorem Agree.raise (r : Refusal) : Agree us (r.raise : Acting α) (r.raise : Acting β) σ s ok :=
  ⟨_, _, s, rfl, rfl, rfl, .fault _⟩

theorem Agree.bind {k : α → Acting γ} {k' : β → Acting δ} {ok' : γ → δ → Session → Store → Prop}
    (h : Agree us a a' σ s ok) (hk : ∀ b c τ t, ok b c τ t → Agree us (k b) (k' c) τ t ok') :
    Agree us (a >>= k) (a' >>= k') σ s ok' := by
  unfold Agree
  rw [ExceptT.run_bind, StateT.run_bind, ExceptT.run_bind, StateT.run_bind]
  refine Program.Agree.bind h ?_
  rintro ⟨x, τ⟩ ⟨y, υ⟩ t ⟨hτ, hxy⟩
  obtain rfl : τ = υ := hτ
  cases hxy with
  | value hbc => exact hk _ _ τ t hbc
  | fault f => exact ⟨_, _, t, rfl, rfl, rfl, .fault f⟩

theorem Agree.orRaise (e : Except Refusal α) :
    Agree us (orRaise e) (orRaise e) σ s fun b c τ t => e = .ok b ∧ b = c ∧ σ = τ ∧ s = t := by
  cases e with
  | error r => exact .raise r
  | ok b => exact ⟨_, _, s, rfl, rfl, rfl, .value ⟨rfl, rfl, rfl, rfl⟩⟩

/-- Acting that looks at no account. -/
theorem AsksOnly.agree {P : α → Session → Store → Prop} (ha : AsksOnly Query.SkipsUsers a)
    (h : Ensures Store.setting a σ s P fun _ _ _ => True) :
    Agree us a a σ s fun b c τ t => b = c ∧ P b τ t := by
  have hask : (a.run.run σ).AsksOnly Query.SkipsUsers :=
    Program.Ensures.mono (ha σ) fun _ _ _ => trivial
  refine (hask.agree h).mono ?_
  rintro ⟨f | b, τ⟩ _ t ⟨rfl, ht⟩
  · exact ⟨rfl, .fault f⟩
  · exact ⟨rfl, .value ⟨rfl, ht⟩⟩

theorem Agree.lift {w : Work α} {w' : Work β} {R : α → β → Store → Prop}
    (h : Work.Agree us w w' s R) :
    Agree us (Session.lift w) (Session.lift w') σ s fun b c τ t => σ = τ ∧ R b c t := by
  refine Program.Agree.bind (p := w.run) (q := w'.run) h ?_
  rintro _ _ t (⟨hbc⟩ | ⟨f⟩)
  · exact ⟨_, _, t, rfl, rfl, rfl, .value ⟨rfl, hbc⟩⟩
  · exact ⟨_, _, t, rfl, rfl, rfl, .fault f⟩

/-- Units of work are only counted. -/
theorem Agree.transaction (h : Agree us a a' σ s fun b c τ t => ok b c τ t.completed) :
    Agree us (transaction a) (transaction a') σ s ok := by
  refine Program.Agree.bind (p := a.run.run σ) (q := a'.run.run σ) h ?_
  rintro ⟨x, τ⟩ ⟨y, υ⟩ t ⟨hτ, hxy⟩
  obtain rfl : τ = υ := hτ
  cases hxy with
  | value hbc => exact ⟨_, _, t.completed, rfl, rfl, rfl, .value hbc⟩
  | fault f => exact ⟨_, _, t.abandoned, rfl, rfl, rfl, .fault f⟩

end Acting

end Entitlements
