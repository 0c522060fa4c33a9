import Entitlements.Proofs.Sql.Clauses
import Entitlements.Sql.Condition

/-!
# Conditions are read as they were written

Conditions that were put into a statement to hold together are found in its text again, one by one
and with the values that they came with, whatever stands before them. The text is read piece by
piece: where a blank separates two pieces, the second is read as if it stood alone.
-/

namespace Entitlements.Sql

namespace Token

variable {c : Char} {cs ds : List Char}

theorem all_cons_of_not_inner (hc : isInner c = false) : all (c :: cs) = .sign c :: all cs := by
  rw [all, List.foldr_cons, ← all]
  cases h : all cs with
  | nil => simp [cons, hc]
  | cons t rest => cases t <;> simp [cons, hc]

/-- A character that is in no word separates what stands before it from what comes after. -/
theorem all_append_cons (hc : isInner c = false) :
    all (cs ++ c :: ds) = all cs ++ .sign c :: all ds := by
  induction cs with
  | nil => rw [List.nil_append, all_cons_of_not_inner hc]; rfl
  | cons d cs ih =>
    have hcons (text : List Char) : all (d :: text) = cons d (all text) := rfl
    rw [List.cons_append, hcons, hcons, ih]
    cases h : all cs with
    | nil => cases hd : isInner d <;> simp [cons, hd]
    | cons t rest => cases t <;> cases hd : isInner d <;> simp [cons, hd]

/-- A word is a single token. -/
theorem all_eq_word (hne : cs ≠ []) (hcs : cs.all isInner = true) : all cs = [.word cs] := by
  induction cs with
  | nil => exact absurd rfl hne
  | cons c cs ih =>
    rw [List.all_cons, Bool.and_eq_true] at hcs
    obtain ⟨hc, hcs⟩ := hcs
    have hcons : all (c :: cs) = cons c (all cs) := rfl
    cases cs with
    | nil => simp [all, cons, hc]
    | cons d cs =>
      rw [hcons, ih (List.cons_ne_nil d cs) hcs]
      simp [cons, hc]

end Token

namespace Symbol

variable {cs ds : List Char} {xs ys : List Symbol}

/-- What comes after a text that can be read is read as if it stood alone. -/
theorem all?_append {ts us : List Token} (h : all? ts = some xs) :
    all? (ts ++ us) = (all? us).map (xs ++ ·) := by
  fun_induction all? ts generalizing xs with
  | case1 =>
    obtain rfl := Option.some.inj h
    simp
  | case2 rest ih => simp [all?, ih h]
  -- a quotation or a percent sign that begins nothing: no such text can be read
  | case7 => exact absurd h (Option.some_ne_none xs).symm
  | case3 w rest ih | case6 w rest ih | case9 w rest ih =>
    obtain ⟨ys, hys, rfl⟩ := Option.map_eq_some_iff.mp h
    simp [all?, ih hys, Function.comp_def]
  | case4 rest ih | case5 rest ih =>
    obtain ⟨ys, hys, rfl⟩ := Option.map_eq_some_iff.mp h
    simp [all?, ih hys, Function.comp_def]
  | case8 c rest _ _ _ _ _ hc ih =>
    obtain ⟨ys, hys, rfl⟩ := Option.map_eq_some_iff.mp h
    simp only [Bool.or_eq_true, beq_iff_eq, not_or] at hc
    simp [all?, hc, ih hys, Function.comp_def]

/-- The values of a text are put in before those of what comes after it. -/
theorem fill?_append {vs ws : List Datum} {xs' : List Symbol} (h : fill? xs vs = some xs') :
    fill? (xs ++ ys) (vs ++ ws) = (fill? ys ws).map (xs' ++ ·) := by
  fun_induction fill? xs vs generalizing xs' with
  | case1 =>
    obtain rfl := Option.some.inj h
    simp
  | case2 | case4 => exact absurd h (Option.some_ne_none xs').symm
  | case3 rest d ds ih =>
    obtain ⟨ys, hys, rfl⟩ := Option.map_eq_some_iff.mp h
    simp [fill?, ih hys, Function.comp_def]
  | case5 s rest ds _ hmark ih =>
    obtain ⟨ys, hys, rfl⟩ := Option.map_eq_some_iff.mp h
    have hs (ss : List Symbol) (ds : List Datum) :
        fill? (s :: ss) ds = (fill? ss ds).map (s :: ·) := by
      rw [fill?]
      · exact hmark
      · intro _ _ _
        exact hmark _
    simp [hs, ih hys, Function.comp_def]

end Symbol

/-- The text, with the values put at its marks in order, reads as the symbols. -/
def Reads (text : List Char) (values : List Datum) (ss : List Symbol) : Prop :=
  ∃ marked, Symbol.ofText? text = some marked ∧ Symbol.fill? marked values = some ss

namespace Reads

variable {cs ds : List Char} {vs ws : List Datum} {xs ys : List Symbol}

/-- What is read one after the other is read with a blank between. -/
theorem append_blank (h : Reads cs vs xs) (h' : Reads ds ws ys) :
    Reads (cs ++ ' ' :: ds) (vs ++ ws) (xs ++ ys) := by
  obtain ⟨marked, hmarked, hxs⟩ := h
  obtain ⟨marked', hmarked', hys⟩ := h'
  refine ⟨marked ++ marked', ?_, ?_⟩
  · have hblank : Symbol.all? (.sign ' ' :: Token.all ds) = some marked' := hmarked'
    rw [Symbol.ofText?, Token.all_append_cons (by decide), Symbol.all?_append hmarked, hblank]
    rfl
  · rw [Symbol.fill?_append hxs, hys]
    rfl

/-- What is read is read between parentheses. -/
theorem parenthesized (h : Reads cs vs xs) :
    Reads ('(' :: (cs ++ [')'])) vs (.opening :: (xs ++ [.closing])) := by
  obtain ⟨marked, hmarked, hxs⟩ := h
  refine ⟨.opening :: (marked ++ [.closing]), ?_, ?_⟩
  · have hopening (ts : List Token) :
        Symbol.all? (.sign '(' :: ts) = (Symbol.all? ts).map (.opening :: ·) := by
      simp [Symbol.all?, Symbol.ofSign]
    have hclosing : Symbol.all? (.sign ')' :: Token.all []) = some [.closing] := rfl
    rw [Symbol.ofText?, Token.all_cons_of_not_inner (by decide), hopening,
      Token.all_append_cons (by decide), Symbol.all?_append hmarked, hclosing]
    rfl
  · have hfill : Symbol.fill? (marked ++ [.closing]) (vs ++ []) = some (xs ++ [.closing]) :=
      Symbol.fill?_append hxs
    rw [List.append_nil] at hfill
    simp [Symbol.fill?, hfill]

end Reads

namespace Fragment

variable {f : Fragment}

@[simp] theorem values_append (f g : Fragment) : (f ++ g).values = f.values ++ g.values :=
  List.filterMap_append

@[simp] theorem toList_text_append (f g : Fragment) :
    (f ++ g).text.toList = f.text.toList ++ g.text.toList := by
  simp [text]

theorem Spells.symbols? {cs : List Char} (marked : List Symbol) (hf : f.Spells cs)
    (hmarked : Symbol.ofText? cs = some marked) : f.symbols? = f.binding.fill? marked := by
  rw [Fragment.symbols?, hf.toList_text, hmarked]
  rfl

/-- Without names, values go in order. -/
theorem symbols?_of_reads {ss : List Symbol} (hnamed : f.namedValues = [])
    (h : Reads f.text.toList f.values ss) : f.symbols? = some ss := by
  obtain ⟨marked, hmarked, hfill⟩ := h
  rw [symbols?, hmarked, Option.bind_some, binding, hnamed]
  cases hvalues : f.values with
  | nil => rwa [hvalues] at hfill
  | cons d ds => rwa [hvalues] at hfill

end Fragment

namespace Condition

/-- The word is a name wherever it stands. -/
def IsName (s : String) : Prop :=
  s.toList ≠ [] ∧ s.toList.all Token.isInner = true ∧ Symbol.reserved.lookup s = none

instance (s : String) : Decidable (IsName s) := inferInstanceAs (Decidable (_ ∧ _ ∧ _))

/-- The condition is on a column with a name, and a word in it is a name too. -/
def Legible : Condition → Prop
  | .isWord column word => IsName column ∧ IsName word
  | .equals column _ | .isNull column | .notNull column => IsName column

instance : DecidablePred Legible
  | .isWord _ _ => inferInstanceAs (Decidable (_ ∧ _))
  | .equals column _ | .isNull column | .notNull column =>
    inferInstanceAs (Decidable (IsName column))

/-- A condition as it is read. -/
def symbols : Condition → List Symbol
  | .isWord column word => [.name column, .equal, .value (.text word)]
  | .equals column d => [.name column, .equal, .value d]
  | .isNull column => [.name column, .is, .null]
  | .notNull column => [.name column, .is, .not, .null]

/-- What a condition is read as. -/
def formula : Condition → Formula
  | .isWord column word => .equals column (.text word)
  | .equals column d => .equals column d
  | .isNull column => .isNull column
  | .notNull column => .notNull column

theorem reads_name {s : String} (h : IsName s) : Reads s.toList [] [.name s] := by
  obtain ⟨hne, hinner, hreserved⟩ := h
  refine ⟨[.name s], ?_, rfl⟩
  rw [Symbol.ofText?, Token.all_eq_word hne hinner]
  simp [Symbol.all?, Symbol.ofWord, hreserved]

theorem reads_quoted {s : String} (h : IsName s) :
    Reads ('\'' :: (s.toList ++ ['\''])) [] [.value (.text s)] := by
  refine ⟨[.value (.text s)], ?_, rfl⟩
  rw [Symbol.ofText?, Token.all_cons_of_not_inner (by decide), Token.all_append_cons (by decide),
    Token.all_eq_word h.1 h.2.1]
  simp [Symbol.all?, Token.all]

/-- The text of a condition: after the column come words that are the same for every column. -/
theorem reads {c : Condition} (h : c.Legible) :
    Reads c.fragment.text.toList c.fragment.values c.symbols := by
  cases c with
  | isWord column word =>
    have htext : (isWord column word).fragment.text.toList =
        column.toList ++ ' ' :: (['='] ++ ' ' :: ('\'' :: (word.toList ++ ['\'']))) := by
      simp [fragment, Fragment.text, Piece.text]
    have hequal : Reads ['='] [] [.equal] := ⟨[.equal], by decide +kernel, rfl⟩
    rw [htext]
    exact (reads_name h.1).append_blank (hequal.append_blank (reads_quoted h.2))
  | equals column d =>
    have htext : (equals column d).fragment.text.toList =
        column.toList ++ ' ' :: ['=', ' ', '%', 's'] := by
      simp [fragment, Fragment.text, Piece.text]
    have htail : Reads ['=', ' ', '%', 's'] [d] [.equal, .value d] :=
      ⟨[.equal, .mark .next], by decide +kernel, rfl⟩
    rw [htext]
    exact (reads_name h).append_blank htail
  | isNull column =>
    have htext : (isNull column).fragment.text.toList =
        column.toList ++ ' ' :: ['I', 'S', ' ', 'N', 'U', 'L', 'L'] := by
      simp [fragment, Fragment.text, Piece.text]
    have htail : Reads ['I', 'S', ' ', 'N', 'U', 'L', 'L'] [] [.is, .null] :=
      ⟨[.is, .null], by decide +kernel, rfl⟩
    rw [htext]
    exact (reads_name h).append_blank htail
  | notNull column =>
    have htext : (notNull column).fragment.text.toList =
        column.toList ++ ' ' :: ['I', 'S', ' ', 'N', 'O', 'T', ' ', 'N', 'U', 'L', 'L'] := by
      simp [fragment, Fragment.text, Piece.text]
    have htail : Reads ['I', 'S', ' ', 'N', 'O', 'T', ' ', 'N', 'U', 'L', 'L'] []
        [.is, .not, .null] :=
      ⟨[.is, .not, .null], by decide +kernel, rfl⟩
    rw [htext]
    exact (reads_name h).append_blank htail

/-- Conditions that have to hold together as they are read. -/
def symbolsOf : List Condition → List Symbol
  | [] => []
  | [c] => c.symbols
  | c :: rest => c.symbols ++ .and :: symbolsOf rest

theorem reads_all {cs : List Condition} (hne : cs ≠ []) (h : ∀ c ∈ cs, c.Legible) :
    Reads (all cs).text.toList (all cs).values (symbolsOf cs) := by
  induction cs with
  | nil => exact absurd rfl hne
  | cons c cs ih =>
    have hc := reads (h c List.mem_cons_self)
    cases cs with
    | nil => exact hc
    | cons c' cs =>
      have htext : (all (c :: c' :: cs)).text.toList = c.fragment.text.toList ++
          ' ' :: (['A', 'N', 'D'] ++ ' ' :: (all (c' :: cs)).text.toList) := by
        simp [all, Piece.text]
      have hvalues : (all (c :: c' :: cs)).values =
          c.fragment.values ++ ([] ++ (all (c' :: cs)).values) := by
        simp [all, Fragment.values]
      have hand : Reads ['A', 'N', 'D'] [] [.and] := ⟨[.and], by decide +kernel, rfl⟩
      rw [htext, hvalues]
      exact hc.append_blank (hand.append_blank
        (ih (List.cons_ne_nil c' cs) fun c hc => h c (List.mem_cons_of_mem _ hc)))

theorem readTest_symbols (c : Condition) (levels : List Formula.Level) (rest : List Symbol) :
    Formula.readTest levels (c.symbols ++ rest) = Formula.readOn levels c.formula rest := by
  cases c <;> simp [symbols, formula, Formula.readTest]

/-- What conditions that have to hold together are read as. -/
def conjunction (c : Condition) (cs : List Condition) : Formula :=
  (cs.map formula).foldl .both c.formula

/-- Conditions that have to hold together are read as such, between parentheses too. -/
theorem readTest_symbolsOf (c : Condition) (cs : List Condition) (levels : List Formula.Level)
    (rest : List Symbol) :
    ∃ l f, l.close f = conjunction c cs ∧
      Formula.readTest ({} :: levels) (symbolsOf (c :: cs) ++ rest) =
        Formula.readOn (l :: levels) f rest := by
  -- What was read so far is kept with the level, where the next condition joins it.
  have hread (c : Condition) (l : Formula.Level) (hl : l.either? = none) :
      ∃ l' f, l'.close f = (cs.map formula).foldl .both (l.close c.formula) ∧
        Formula.readTest (l :: levels) (symbolsOf (c :: cs) ++ rest) =
          Formula.readOn (l' :: levels) f rest := by
    induction cs generalizing c l with
    | nil => exact ⟨l, c.formula, rfl, readTest_symbols c (l :: levels) rest⟩
    | cons c' cs ih =>
      obtain ⟨l', f, hclose, hread⟩ := ih c' { l with both? := some (l.join c.formula) } hl
      refine ⟨l', f, hclose.trans ?_, ?_⟩
      · simp [Formula.Level.close, Formula.Level.join, hl]
      · have hsymbols : symbolsOf (c :: c' :: cs) = c.symbols ++ .and :: symbolsOf (c' :: cs) := rfl
        rw [hsymbols, List.append_assoc, List.cons_append, readTest_symbols, Formula.readOn]
        exact hread
  exact hread c {} rfl

theorem picks_formula_iff {lower : String → String} {row : String → Datum} (c : Condition) :
    c.formula.Picks lower row ↔ c.holds row = true := by
  cases c with
  | isWord column word => simp [formula, Formula.picks_equals_iff, holds]
  | equals column d => simp [formula, Formula.picks_equals_iff, holds]
  | isNull column => simp [formula, Formula.Picks, Formula.truth, holds]
  | notNull column => simp [formula, Formula.Picks, Formula.truth, holds]

theorem picks_conjunction_iff {lower : String → String} {row : String → Datum} {c : Condition}
    {cs : List Condition} :
    (conjunction c cs).Picks lower row ↔ ∀ c' ∈ c :: cs, c'.holds row = true := by
  simp [conjunction, Formula.picks_foldl_both_iff, picks_formula_iff]

end Condition

namespace Fragment

variable {lower : String → String} {row : String → Datum} {words table : String}
  {cs : List Condition}

theorem namedValues_all (cs : List Condition) : namedValues (Condition.all cs) = [] := by
  induction cs with
  | nil => rfl
  | cons c cs ih =>
    cases cs with
    | nil => cases c <;> rfl
    | cons c' cs => cases c <;> exact ih

/-- A statement with conditions at its end picks the rows of which all of them hold. -/
theorem selects_all_iff (before : List Symbol) (hne : cs ≠ []) (hcs : ∀ c ∈ cs, c.Legible)
    (hread : ∀ rest, Clause.read? (before ++ rest) = (Formula.read? rest).map (⟨table, ·⟩))
    (hwords : words.toList = words.toList.dropLast ++ [' '])
    (hbefore : Symbol.ofText? words.toList.dropLast = some before)
    (hfill : Symbol.fill? before [] = some before) :
    Selects lower (.words words :: Condition.all cs) table row ↔
      ∀ c ∈ cs, c.holds row = true := by
  -- the words end in a blank, so that the conditions are read as if they stood alone
  have hreads : Reads (text (.words words :: Condition.all cs)).toList
      (values (.words words :: Condition.all cs)) (before ++ Condition.symbolsOf cs) := by
    have htext : (text (.words words :: Condition.all cs)).toList =
        words.toList.dropLast ++ ' ' :: (Condition.all cs).text.toList := by
      rw [toList_text_cons, Piece.text, hwords, List.dropLast_concat, List.append_assoc]
      rfl
    rw [htext]
    exact Reads.append_blank ⟨before, hbefore, hfill⟩ (Condition.reads_all hne hcs)
  have hnamed : namedValues (.words words :: Condition.all cs) = [] := namedValues_all cs
  have hsymbols := symbols?_of_reads hnamed hreads
  obtain ⟨c, cs, rfl⟩ := List.exists_cons_of_ne_nil hne
  obtain ⟨l, f, hclose, hcondition⟩ := Condition.readTest_symbolsOf c cs [] []
  have hformula : Formula.read? (Condition.symbolsOf (c :: cs)) =
      some (Condition.conjunction c cs) := by
    rw [← hclose, ← List.append_nil (Condition.symbolsOf _)]
    exact hcondition
  rw [Selects, hsymbols, Option.bind_some, hread, hformula]
  simp [Condition.picks_conjunction_iff]

end Fragment

end Entitlements.Sql
