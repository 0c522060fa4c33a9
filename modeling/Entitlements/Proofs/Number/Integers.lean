import Entitlements.Number.Double
import Entitlements.Number.Integer
import Mathlib.Data.List.DropRight
import Mathlib.Data.Nat.Digits.Defs
import Mathlib.Data.Rat.Floor

/-!
# The integers that texts and fractions stand for

A text writes an integer if, apart from blanks at its ends, it has an optional sign and a numeral:
decimal digits of any script with single low lines between them. Reading finds this integer, and
finds none in any other text. A finite number stands for the integer next to it on the way to zero.
-/

namespace Entitlements.Number

open Entitlements.Text

section

variable {again : Bool} {c : Char} {cs : List Char} {d : Nat} {ds : List Nat} {n : Int}

/-- The characters write the digits, with single low lines between some of them. -/
inductive Numeral : List Char → List Nat → Prop
  | last {c : Char} {d : Nat} (h : digit? c = some d) : Numeral [c] [d]
  | next {c : Char} {d : Nat} {cs : List Char} {ds : List Nat} (h : digit? c = some d)
    (hrest : Numeral cs ds) : Numeral (c :: cs) (d :: ds)
  | apart {c : Char} {d : Nat} {cs : List Char} {ds : List Nat} (h : digit? c = some d)
    (hrest : Numeral cs ds) : Numeral (c :: '_' :: cs) (d :: ds)

/-- What may stand after a digit: nothing, more of the numeral, or a low line and more of it. -/
def Rest (cs : List Char) (ds : List Nat) : Prop :=
  (cs = [] ∧ ds = []) ∨ Numeral cs ds ∨ ∃ rest, cs = '_' :: rest ∧ Numeral rest ds

theorem numeral_cons_iff :
    Numeral (c :: cs) ds ↔ ∃ d rest, digit? c = some d ∧ Rest cs rest ∧ d :: rest = ds := by
  constructor
  · intro h
    cases h with
    | last h => exact ⟨_, [], h, .inl ⟨rfl, rfl⟩, rfl⟩
    | next h hrest => exact ⟨_, _, h, .inr (.inl hrest), rfl⟩
    | apart h hrest => exact ⟨_, _, h, .inr (.inr ⟨_, rfl, hrest⟩), rfl⟩
  · rintro ⟨d, rest, h, ⟨rfl, rfl⟩ | hrest | ⟨cs, rfl, hrest⟩, rfl⟩
    · exact .last h
    · exact .next h hrest
    · exact .apart h hrest

theorem digit?_low_line : digit? '_' = none := by decide +kernel

/-- No numeral starts with a low line. -/
theorem not_numeral_low_line : ¬ Numeral ('_' :: cs) ds := by
  intro h
  obtain ⟨d, _, hd, -⟩ := numeral_cons_iff.mp h
  exact nomatch digit?_low_line.symm.trans hd

/-- The digits that are read are those that are written. The induction is on the characters, for
the start of a numeral and for what follows a digit at once. -/
theorem digitsOf?_eq_some_iff :
    digitsOf? again cs = some ds ↔ if again then Rest cs ds else Numeral cs ds := by
  induction cs generalizing again ds with
  | nil =>
    cases again with
    | false => simp [digitsOf?, show ¬ Numeral [] ds from nofun]
    | true => simp [digitsOf?, Rest, show ¬ Numeral [] ds from nofun, eq_comm]
  | cons c cs ih =>
    rw [digitsOf?]
    by_cases hlow : c = '_'
    · subst hlow
      cases again with
      | false => simp [not_numeral_low_line]
      | true => simp [ih, Rest, not_numeral_low_line]
    · have hdigits : (do
          let d ← digit? c
          let rest ← digitsOf? true cs
          return d :: rest) = some ds ↔ Numeral (c :: cs) ds := by
        simp [numeral_cons_iff, ih, Option.bind_eq_some_iff]
      rw [if_neg (by simpa using hlow), hdigits]
      cases again <;> simp [Rest, hlow]

theorem ofDigits_eq (ds : List Nat) : ofDigits ds = Nat.ofDigits 10 ds.reverse := by
  induction ds using List.reverseRecOn with
  | nil => rfl
  | append_singleton ds d ih =>
    have hlast : ofDigits (ds ++ [d]) = 10 * ofDigits ds + d := by simp [ofDigits]
    rw [hlast, ih, List.reverse_append, List.reverse_singleton, List.singleton_append,
      Nat.ofDigits_cons]
    exact Nat.add_comm _ _

/-- The characters write the number, in digits that are not too many. -/
def Counts (cs : List Char) (n : Nat) : Prop :=
  ∃ ds, Numeral cs ds ∧ ds.length ≤ maxDigits ∧ Nat.ofDigits 10 ds.reverse = n

theorem readNat?_eq_some_iff {n : Nat} : readNat? cs = some n ↔ Counts cs n := by
  have hdigits (ds : List Nat) : digitsOf? false cs = some ds ↔ Numeral cs ds := by
    rw [digitsOf?_eq_some_iff, if_neg Bool.false_ne_true]
  simp [readNat?, Counts, Option.bind_eq_some_iff, hdigits, ofDigits_eq]

/-- The characters write the integer, a sign before its digits or none. -/
inductive Signed : List Char → Int → Prop
  | plain {cs : List Char} {n : Nat} (h : Counts cs n) : Signed cs n
  | plus {cs : List Char} {n : Nat} (h : Counts cs n) : Signed ('+' :: cs) n
  | minus {cs : List Char} {n : Nat} (h : Counts cs n) : Signed ('-' :: cs) (-n)

/-- The text writes the integer, with blanks around it or none. -/
def Writes (s : String) (n : Int) : Prop :=
  ∃ front cs back, s.toList = front ++ cs ++ back ∧ (∀ c ∈ front ++ back, isMargin c = true) ∧
    Signed cs n

theorem digit?_plus : digit? '+' = none := by decide +kernel

theorem digit?_minus : digit? '-' = none := by decide +kernel

theorem not_counts_of_digit?_eq_none {n : Nat} (h : digit? c = none) : ¬ Counts (c :: cs) n := by
  rintro ⟨ds, hds, -⟩
  obtain ⟨d, _, hd, -⟩ := numeral_cons_iff.mp hds
  exact nomatch h.symm.trans hd

theorem readInt?_eq_some_iff_signed {s : String} :
    readInt? s = some n ↔ Signed (dropMargins s.toList) n := by
  unfold readInt?
  generalize dropMargins s.toList = cs
  split
  next cs =>
    simp only [Option.map_eq_some_iff, readNat?_eq_some_iff]
    constructor
    · rintro ⟨k, hk, rfl⟩
      exact .plus hk
    · rintro (hk | hk | hk)
      · exact absurd hk (not_counts_of_digit?_eq_none digit?_plus)
      · exact ⟨_, hk, rfl⟩
  next cs =>
    simp only [Option.map_eq_some_iff, Option.bind_eq_bind, Option.bind_eq_some_iff,
      readNat?_eq_some_iff]
    constructor
    · rintro ⟨_, ⟨k, hk, ⟨⟩⟩, rfl⟩
      exact .minus hk
    · rintro (hk | hk | hk)
      · exact absurd hk (not_counts_of_digit?_eq_none digit?_minus)
      · exact ⟨_, ⟨_, hk, rfl⟩, rfl⟩
  next cs hplus hminus =>
    simp only [Option.map_eq_some_iff, readNat?_eq_some_iff]
    constructor
    · rintro ⟨k, hk, rfl⟩
      exact .plain hk
    · intro h
      cases h with
      | plain hk => exact ⟨_, hk, rfl⟩
      | plus => exact absurd rfl (hplus _)
      | minus => exact absurd rfl (hminus _)

/-- No digit of any script is a blank: the ranges of blanks lie apart from the digits. -/
theorem isMargin_of_digit? (h : digit? c = some d) : isMargin c = false := by
  have hapart : ∀ r ∈ blanks, ∀ z ∈ zeros, r.2 < z ∨ z + 10 ≤ r.1 := by decide +kernel
  obtain ⟨z, hfind, -⟩ := Option.map_eq_some_iff.mp h
  have hz : z ∈ zeros := List.mem_of_find?_eq_some hfind
  have hc : z ≤ c.toNat ∧ c.toNat < z + 10 := by simpa using List.find?_some hfind
  have hblank : isBlank c = false := by
    simp only [isBlank, Ranges.covers, List.any_eq_false]
    intro r hr
    have hout := hapart r hr z hz
    simp only [Bool.and_eq_true, decide_eq_true_eq]
    omega
  rw [isMargin, hblank, Bool.false_and]

theorem Numeral.isMargin_eq_false (h : Numeral cs ds) : ∀ c ∈ cs, isMargin c = false := by
  induction h with
  | last h => simpa using isMargin_of_digit? h
  | next h _ ih => simpa using ⟨isMargin_of_digit? h, ih⟩
  | apart h _ ih => simpa using ⟨isMargin_of_digit? h, by decide +kernel, ih⟩

theorem Signed.isMargin_eq_false (h : Signed cs n) : ∀ c ∈ cs, isMargin c = false := by
  have hplus : isMargin '+' = false := by decide +kernel
  have hminus : isMargin '-' = false := by decide +kernel
  rcases h with ⟨_, hds, -⟩ | ⟨_, hds, -⟩ | ⟨_, hds, -⟩
  · exact hds.isMargin_eq_false
  · exact List.forall_mem_cons.mpr ⟨hplus, hds.isMargin_eq_false⟩
  · exact List.forall_mem_cons.mpr ⟨hminus, hds.isMargin_eq_false⟩

/-- Dropping the blanks leaves what stands between them, if this has none itself. -/
theorem dropMargins_append {front back : List Char}
    (hmargins : ∀ c ∈ front ++ back, isMargin c = true) (hcs : ∀ c ∈ cs, isMargin c = false) :
    dropMargins (front ++ cs ++ back) = cs := by
  obtain ⟨hfront, hback⟩ := List.forall_mem_append.mp hmargins
  show ((front ++ cs ++ back).dropWhile isMargin).rdropWhile isMargin = cs
  cases cs with
  | nil =>
    rw [List.append_nil, List.dropWhile_eq_nil_iff.mpr hmargins]
    rfl
  | cons c cs =>
    have hstart : (front ++ (c :: cs) ++ back).dropWhile isMargin = (c :: cs) ++ back := by
      rw [List.append_assoc, List.dropWhile_append_of_pos hfront, List.cons_append,
        List.dropWhile_cons_of_neg (by simp [hcs c List.mem_cons_self])]
    have hend : (c :: cs).reverse.dropWhile isMargin = (c :: cs).reverse := by
      rw [List.dropWhile_eq_self_iff]
      intro hlength
      rw [hcs _ (List.mem_reverse.mp (List.getElem_mem hlength))]
      exact Bool.false_ne_true
    rw [hstart, List.rdropWhile, List.reverse_append,
      List.dropWhile_append_of_pos (by simpa using hback), hend, List.reverse_reverse]

/-- What is dropped at both ends are blanks. -/
theorem exists_dropMargins (cs : List Char) : ∃ front back,
    cs = front ++ dropMargins cs ++ back ∧ ∀ c ∈ front ++ back, isMargin c = true := by
  have hcs : dropMargins cs ++ (cs.dropWhile isMargin).rtakeWhile isMargin =
      cs.dropWhile isMargin := List.rdropWhile_append_rtakeWhile
  refine ⟨cs.takeWhile isMargin, (cs.dropWhile isMargin).rtakeWhile isMargin, ?_, fun c hc => ?_⟩
  · rw [List.append_assoc, hcs, List.takeWhile_append_dropWhile]
  · rcases List.mem_append.mp hc with hc | hc
    · exact List.mem_takeWhile_imp hc
    · exact List.mem_rtakeWhile_imp hc

/-- Reading finds the integer that the text writes, and none in a text that writes none. -/
theorem readInt?_eq_some_iff {s : String} : readInt? s = some n ↔ Writes s n := by
  rw [readInt?_eq_some_iff_signed]
  constructor
  · intro h
    obtain ⟨front, back, hs, hmargins⟩ := exists_dropMargins s.toList
    exact ⟨front, _, back, hs, hmargins, h⟩
  · rintro ⟨front, cs, back, hs, hmargins, h⟩
    rwa [hs, dropMargins_append hmargins h.isMargin_eq_false]

example : readInt? " -1_0 " = some (-10) ∧ readInt? "1__0" = none := by decide +kernel

end

/-- The integer next to a number on the way to zero. -/
def towardZero (x : ℚ) : Int := if 0 ≤ x then ⌊x⌋ else ⌈x⌉

@[simp] theorem towardZero_neg (x : ℚ) : towardZero (-x) = -towardZero x := by
  unfold towardZero
  rcases lt_trichotomy x 0 with h | rfl | h
  · rw [if_pos (by linarith), if_neg (by linarith), Int.floor_neg]
  · simp
  · rw [if_neg (by linarith), if_pos h.le, Int.ceil_neg]

namespace Double

/-- The number that a double stands for, if it is finite. -/
def value? : Double → Option ℚ
  | .finite negative m e => some (if negative then -(m * 2 ^ e) else m * 2 ^ e)
  | _ => none

theorem towardZero_scaled (m : Nat) (e : Int) : towardZero (m * 2 ^ e) =
    (if 0 ≤ e then m * Nat.pow 2 e.toNat else m / Nat.pow 2 (-e).toNat : Nat) := by
  have hnonneg : (0 : ℚ) ≤ m * 2 ^ e :=
    mul_nonneg (Nat.cast_nonneg m) (zpow_nonneg zero_le_two e)
  rw [towardZero, if_pos hnonneg]
  by_cases he : 0 ≤ e
  · obtain ⟨k, rfl⟩ := Int.eq_ofNat_of_zero_le he
    have hscaled : (m : ℚ) * 2 ^ (k : Int) = ((m * 2 ^ k : Nat) : ℚ) := by
      rw [zpow_natCast]
      push_cast
      rfl
    rw [if_pos he, hscaled, Int.floor_natCast, Int.toNat_natCast, Nat.pow_eq]
  · obtain ⟨k, hk⟩ := Int.eq_ofNat_of_zero_le (show 0 ≤ -e by omega)
    have hscaled : (m : ℚ) * 2 ^ e = (m : ℚ) / ((2 ^ k : Nat) : ℚ) := by
      rw [← neg_neg e, hk, zpow_neg, zpow_natCast, Nat.cast_pow, Nat.cast_ofNat, div_eq_mul_inv]
    rw [if_neg he, hscaled, Rat.floor_natCast_div_natCast, hk, Int.toNat_natCast, Nat.pow_eq]
    rfl

/-- Truncating leads to the integer next to the number on the way to zero. -/
theorem truncate?_eq (d : Double) : d.truncate? = d.value?.map towardZero := by
  cases d with
  | undefined => rfl
  | infinite negative => rfl
  | finite negative m e =>
    have hscaled := towardZero_scaled m e
    cases negative with
    | false => exact congrArg some hscaled.symm
    | true =>
      have hneg : towardZero (-(m * 2 ^ e)) = -(towardZero (m * 2 ^ e)) := towardZero_neg _
      rw [hscaled] at hneg
      exact congrArg some hneg.symm

end Double

end Entitlements.Number
