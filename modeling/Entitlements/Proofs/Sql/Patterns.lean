import Entitlements.Sql.Like
import Mathlib.Data.List.Forall2
import Mathlib.Data.List.Infix

/-!
# What patterns match

A text matches a pattern when it can be cut into pieces, one for each part of the pattern in order.
The search for such a cut tries one character after the other and finds one exactly where there is
one.

The pattern of a search text is complete whatever the text holds: percent signs, underscores and
slashes in it stand for themselves. What matches is every text with the search text, in lower case,
inside.
-/

namespace Entitlements

namespace Sql

namespace Like

/-- The part can stand for these characters. -/
def Part.Spans : Part → List Char → Prop
  | .run, _ => True
  | .one, cs => ∃ c, cs = [c]
  | .exactly c, cs => cs = [c]

/-- The text can be cut into pieces for which the parts can stand one by one. -/
def Matches (parts : List Part) (cs : List Char) : Prop :=
  ∃ pieces, List.Forall₂ Part.Spans parts pieces ∧ pieces.flatten = cs

variable {p : Part} {parts : List Part} {c d : Char} {cs ds : List Char}

theorem matches_nil_iff : Matches [] cs ↔ cs = [] := by
  constructor
  · rintro ⟨pieces, hpieces, rfl⟩
    rw [List.forall₂_nil_left_iff.mp hpieces]
    rfl
  · rintro rfl
    exact ⟨[], .nil, rfl⟩

/-- The first part stands for the beginning of the text. -/
theorem matches_cons_iff :
    Matches (p :: parts) cs ↔ ∃ as bs, p.Spans as ∧ Matches parts bs ∧ as ++ bs = cs := by
  constructor
  · rintro ⟨pieces, hpieces, rfl⟩
    obtain ⟨piece, rest, hpiece, hrest, rfl⟩ := List.forall₂_cons_left_iff.mp hpieces
    exact ⟨piece, rest.flatten, hpiece, ⟨rest, hrest, rfl⟩, rfl⟩
  · rintro ⟨as, _, has, ⟨pieces, hpieces, rfl⟩, rfl⟩
    exact ⟨as :: pieces, .cons has hpieces, rfl⟩

/-- A run stands for nothing, or for a character and another run. -/
theorem matches_run_cons_iff :
    Matches (.run :: parts) (c :: cs) ↔
      Matches parts (c :: cs) ∨ Matches (.run :: parts) cs := by
  rw [matches_cons_iff, matches_cons_iff]
  constructor
  · rintro ⟨as, bs, -, hbs, heq⟩
    cases as with
    | nil => exact .inl (heq ▸ hbs)
    | cons a as =>
      obtain ⟨-, rfl⟩ := List.cons.inj heq
      exact .inr ⟨as, bs, trivial, hbs, rfl⟩
  · rintro (hcs | ⟨as, bs, -, hbs, rfl⟩)
    · exact ⟨[], c :: cs, trivial, hcs, rfl⟩
    · exact ⟨c :: as, bs, trivial, hbs, rfl⟩

theorem matches_run_nil_iff : Matches (.run :: parts) [] ↔ Matches parts [] := by
  rw [matches_cons_iff]
  constructor
  · rintro ⟨as, bs, -, hbs, heq⟩
    obtain ⟨-, rfl⟩ := List.append_eq_nil_iff.mp heq
    exact hbs
  · intro h
    exact ⟨[], [], trivial, h, rfl⟩

theorem matches_one_iff :
    Matches (.one :: parts) cs ↔ ∃ c ds, Matches parts ds ∧ c :: ds = cs := by
  rw [matches_cons_iff]
  constructor
  · rintro ⟨_, ds, ⟨c, rfl⟩, hds, rfl⟩
    exact ⟨c, ds, hds, rfl⟩
  · rintro ⟨c, ds, hds, rfl⟩
    exact ⟨[c], ds, ⟨c, rfl⟩, hds, rfl⟩

theorem matches_exactly_iff :
    Matches (.exactly c :: parts) cs ↔ ∃ ds, Matches parts ds ∧ c :: ds = cs := by
  rw [matches_cons_iff]
  constructor
  · rintro ⟨_, ds, rfl, hds, rfl⟩
    exact ⟨ds, hds, rfl⟩
  · rintro ⟨ds, hds, rfl⟩
    exact ⟨[c], ds, rfl, hds, rfl⟩

/-- Trying out where runs end finds a way to cut the text where there is one. -/
theorem accept_iff_matches : accept parts cs = true ↔ Matches parts cs := by
  fun_induction accept parts cs with
  | case1 cs => rw [List.isEmpty_iff, matches_nil_iff]
  | case2 parts ih => rw [ih, matches_run_nil_iff]
  | case3 parts c cs ih ih' => rw [Bool.or_eq_true, ih, ih', matches_run_cons_iff]
  | case4 p parts hp =>
    cases p with
    | run => exact absurd rfl hp
    | one => simp [matches_one_iff]
    | exactly c => simp [matches_exactly_iff]
  | case5 parts c cs ih => simp [matches_one_iff, ih]
  | case6 d parts c cs ih =>
    rw [Bool.and_eq_true, beq_iff_eq, ih, matches_exactly_iff]
    constructor
    · rintro ⟨rfl, hcs⟩
      exact ⟨cs, hcs, rfl⟩
    · rintro ⟨ds, hds, heq⟩
      obtain ⟨rfl, rfl⟩ := List.cons.inj heq
      exact ⟨rfl, hds⟩

/-- Characters given one by one stand for just themselves. -/
theorem matches_map_exactly_iff :
    Matches (cs.map .exactly ++ parts) ds ↔ ∃ rest, Matches parts rest ∧ cs ++ rest = ds := by
  induction cs generalizing ds with
  | nil => simp
  | cons c cs ih =>
    rw [List.map_cons, List.cons_append, matches_exactly_iff]
    simp only [ih]
    constructor
    · rintro ⟨_, ⟨rest, hrest, rfl⟩, rfl⟩
      exact ⟨rest, hrest, rfl⟩
    · rintro ⟨rest, hrest, rfl⟩
      exact ⟨cs ++ rest, ⟨rest, hrest, rfl⟩, rfl⟩

/-- Characters between two runs are looked for anywhere in a text. -/
theorem matches_within_runs_iff :
    Matches (.run :: (cs.map .exactly ++ [.run])) ds ↔ cs <:+: ds := by
  have hany (rest : List Char) : Matches [.run] rest :=
    matches_cons_iff.mpr ⟨rest, [], trivial, matches_nil_iff.mpr rfl, List.append_nil rest⟩
  rw [matches_cons_iff]
  constructor
  · rintro ⟨as, _, -, hcs, rfl⟩
    obtain ⟨bs, -, rfl⟩ := matches_map_exactly_iff.mp hcs
    exact ⟨as, bs, List.append_assoc as cs bs⟩
  · rintro ⟨as, bs, rfl⟩
    exact ⟨as, cs ++ bs, trivial, matches_map_exactly_iff.mpr ⟨bs, hany bs, rfl⟩,
      (List.append_assoc as cs bs).symm⟩

/-- A character that is escaped is read as itself, whichever it is. -/
theorem parts?_escape (c : Char) (cs : List Char) :
    parts? (escape c ++ cs) = (parts? cs).map (.exactly c :: ·) := by
  unfold escape
  split
  next => rfl
  next h =>
    simp only [Bool.or_eq_true, beq_iff_eq, not_or] at h
    obtain ⟨⟨hslash, hpercent⟩, hunderscore⟩ := h
    rw [List.singleton_append, parts?]
    · simp [hpercent, hunderscore]
    · intro hc
      exact absurd hc hslash
    · intro _ _ hc
      exact absurd hc hslash

theorem parts?_flatMap_escape (cs ds : List Char) :
    parts? (cs.flatMap escape ++ ds) = (parts? ds).map (cs.map .exactly ++ ·) := by
  induction cs with
  | nil => simp
  | cons c cs ih =>
    rw [List.flatMap_cons, List.append_assoc, parts?_escape, ih, Option.map_map]
    rfl

end Like

/-- The pattern of a search text can be read to its end: it is the text between two runs. -/
theorem parts?_containing (query : String) :
    Like.parts? (containing query).toList =
      some (.run :: ((Text.lower query).toList.map .exactly ++ [.run])) := by
  have hrun (cs : List Char) : Like.parts? ('%' :: cs) = (Like.parts? cs).map (.run :: ·) := by
    rw [Like.parts?] <;> simp
  rw [containing, String.toList_ofList, List.cons_append, hrun, Like.parts?_flatMap_escape]
  rfl

end Sql

namespace Text

/-- A character list is found inside another one where it stands there without a gap. -/
theorem isInfix_iff {needle cs : List Char} : isInfix needle cs = true ↔ needle <:+: cs := by
  induction cs with
  | nil => rw [isInfix, List.isEmpty_iff, List.infix_nil]
  | cons c cs ih =>
    rw [isInfix, Bool.or_eq_true, ih, List.isPrefixOf_iff_prefix, List.infix_cons_iff]

end Text

end Entitlements
