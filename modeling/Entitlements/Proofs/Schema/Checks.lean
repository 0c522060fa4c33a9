import Entitlements.Proofs.Sql.Legible
import Entitlements.Schema.Table

/-!
# Checks of tables

A check of a table is read from its words. A row passes where one of the cases holds with all its
conditions.
-/

namespace Entitlements.Schema

open Sql (Condition Datum Formula Fragment Reads Symbol)

/-- The condition in the words of a check. -/
def checked? (words : String) : Option Formula :=
  match Fragment.symbols? [.words words] with
  | some (.name "CONSTRAINT" :: .name _ :: .name "CHECK" :: rest) => Formula.read? rest
  | _ => none

/-- A case of a check as it is read. -/
def caseSymbols (cs : List Condition) : List Symbol :=
  .opening :: (Condition.symbolsOf cs ++ [.closing])

/-- The cases of a check as they are read. -/
def symbolsOf : List (List Condition) → List Symbol
  | [] => []
  | [cs] => caseSymbols cs
  | cs :: rest => caseSymbols cs ++ .or :: symbolsOf rest

/-- A case has conditions, and all of them can be read without values beside them. -/
def LegibleCase (cs : List Condition) : Prop :=
  cs ≠ [] ∧ (∀ c ∈ cs, c.Legible) ∧ (Condition.all cs).values = []

instance : DecidablePred LegibleCase :=
  fun _ => inferInstanceAs (Decidable (_ ∧ _ ∧ _))

theorem reads_caseWords {cs : List Condition} (h : LegibleCase cs) :
    Reads (caseWords cs).toList [] (caseSymbols cs) := by
  obtain ⟨hne, hcs, hvalues⟩ := h
  have hreads := Condition.reads_all hne hcs
  rw [hvalues] at hreads
  have htext : (caseWords cs).toList = '(' :: ((Condition.all cs).text.toList ++ [')']) := by
    simp [caseWords]
  rw [htext]
  exact hreads.parenthesized

theorem reads_cases {cases : List (List Condition)} (hne : cases ≠ [])
    (h : ∀ cs ∈ cases, LegibleCase cs) :
    Reads (String.intercalate " OR " (cases.map caseWords)).toList [] (symbolsOf cases) := by
  induction cases with
  | nil => exact absurd rfl hne
  | cons cs rest ih =>
    have hcs := reads_caseWords (h cs List.mem_cons_self)
    cases rest with
    | nil =>
      rw [List.map_singleton, String.intercalate_singleton]
      exact hcs
    | cons cs' rest =>
      have htext : (String.intercalate " OR " ((cs :: cs' :: rest).map caseWords)).toList =
          (caseWords cs).toList ++ ' ' :: (['O', 'R'] ++
            ' ' :: (String.intercalate " OR " ((cs' :: rest).map caseWords)).toList) := by
        simp
      have hor : Reads ['O', 'R'] [] [.or] := ⟨[.or], by decide +kernel, rfl⟩
      rw [htext]
      exact hcs.append_blank (hor.append_blank
        (ih (List.cons_ne_nil cs' rest) fun cs hcs => h cs (List.mem_cons_of_mem _ hcs)))

section

variable {cs : List Condition} {cases : List (List Condition)}

/-- A case is read between its parentheses, whatever stands around them. -/
theorem readTest_caseSymbols (hne : cs ≠ []) (l : Formula.Level) (levels : List Formula.Level)
    (rest : List Symbol) :
    ∃ f, (∀ lower row, f.Picks lower row ↔ ∀ c ∈ cs, c.holds row = true) ∧
      Formula.readTest (l :: levels) (caseSymbols cs ++ rest) =
        Formula.readOn (l :: levels) f rest := by
  obtain ⟨c, cs, rfl⟩ := List.exists_cons_of_ne_nil hne
  obtain ⟨l', f, hclose, hread⟩ :=
    Condition.readTest_symbolsOf c cs (l :: levels) (.closing :: rest)
  have hsymbols : caseSymbols (c :: cs) ++ rest =
      .opening :: (Condition.symbolsOf (c :: cs) ++ .closing :: rest) := by
    simp [caseSymbols]
  refine ⟨Condition.conjunction c cs, fun lower row => Condition.picks_conjunction_iff, ?_⟩
  rw [hsymbols, Formula.readTest, hread, Formula.readOn, hclose]

/-- Where nothing is joined to it, a condition picks what it picks beside the alternatives. -/
theorem picks_close_iff {l : Formula.Level} {f : Formula} {lower : String → String}
    {row : String → Datum} (hl : l.both? = none) :
    (l.close f).Picks lower row ↔
      (∃ g ∈ l.either?, g.Picks lower row) ∨ f.Picks lower row := by
  cases h : l.either? with
  | none => simp [Formula.Level.close, Formula.Level.join, h, hl]
  | some g => simp [Formula.Level.close, Formula.Level.join, h, hl, Formula.picks_either_iff]

/-- Cases are read one after the other, each as one more alternative. -/
theorem readTest_cases (hne : cases ≠ []) (hcases : ∀ cs ∈ cases, cs ≠ []) (l : Formula.Level)
    (hl : l.both? = none) (levels : List Formula.Level) (rest : List Symbol) :
    ∃ l' f, Formula.readTest (l :: levels) (symbolsOf cases ++ rest) =
        Formula.readOn (l' :: levels) f rest ∧
      ∀ lower row, (l'.close f).Picks lower row ↔
        (∃ g ∈ l.either?, g.Picks lower row) ∨ ∃ cs ∈ cases, ∀ c ∈ cs, c.holds row = true := by
  -- the alternatives that were read before are kept with the level
  induction cases generalizing l with
  | nil => exact absurd rfl hne
  | cons cs others ih =>
    have hcs := hcases cs List.mem_cons_self
    cases others with
    | nil =>
      obtain ⟨f, hf, hread⟩ := readTest_caseSymbols hcs l levels rest
      refine ⟨l, f, hread, fun lower row => ?_⟩
      rw [picks_close_iff hl, hf]
      simp
    | cons cs' others =>
      obtain ⟨f, hf, hread⟩ := readTest_caseSymbols hcs l levels
        (.or :: (symbolsOf (cs' :: others) ++ rest))
      obtain ⟨l', f', hread', hf'⟩ := ih (List.cons_ne_nil cs' others)
        (fun cs hcs => hcases cs (List.mem_cons_of_mem _ hcs)) { either? := some (l.close f) } rfl
      have hsymbols : symbolsOf (cs :: cs' :: others) =
          caseSymbols cs ++ .or :: symbolsOf (cs' :: others) := rfl
      refine ⟨l', f', ?_, fun lower row => ?_⟩
      · rw [hsymbols, List.append_assoc, List.cons_append, hread, Formula.readOn]
        exact hread'
      · rw [hf']
        simp [picks_close_iff hl, hf, or_assoc]

end

/-- A row passes a check where all conditions of one of its cases hold. -/
theorem checked?_check {name : String} {cases : List (List Condition)}
    (hname : Condition.IsName name) (hne : cases ≠ []) (h : ∀ cs ∈ cases, LegibleCase cs) :
    ∃ f, checked? (Constraint.check name cases).words = some f ∧
      ∀ lower row, f.Picks lower row ↔ ∃ cs ∈ cases, ∀ c ∈ cs, c.holds row = true := by
  have htext : (Fragment.text [.words (Constraint.check name cases).words]).toList =
      "CONSTRAINT".toList ++ ' ' :: (name.toList ++ ' ' :: ("CHECK".toList ++ ' ' ::
        '(' :: ((String.intercalate " OR " (cases.map caseWords)).toList ++ [')']))) := by
    have hwords : (Constraint.check name cases).words = "CONSTRAINT " ++ name ++ " " ++
        "CHECK (" ++ String.intercalate " OR " (cases.map caseWords) ++ ")" := rfl
    rw [hwords]
    simp [Fragment.text, Sql.Piece.text]
  have hconstraint := Condition.reads_name (s := "CONSTRAINT") (by decide +kernel)
  have hcheck := Condition.reads_name (s := "CHECK") (by decide +kernel)
  have hreads := hconstraint.append_blank ((Condition.reads_name hname).append_blank
    (hcheck.append_blank (reads_cases hne h).parenthesized))
  rw [← htext] at hreads
  have hsymbols := Fragment.symbols?_of_reads rfl hreads
  obtain ⟨l, f, hread, hf⟩ := readTest_cases hne (fun cs hcs => (h cs hcs).1) {} rfl [{}]
    [.closing]
  have hformula : Formula.read? (.opening :: (symbolsOf cases ++ [.closing])) =
      some (l.close f) := hread
  refine ⟨l.close f, ?_, fun lower row => ?_⟩
  · rw [checked?, hsymbols]
    exact hformula
  · rw [hf]
    simp

end Entitlements.Schema
