import Entitlements.Number.Double

/-!
# The shortest decimal text of a number

A finite number is written with the fewest significant digits that read back as the same number;
of two such texts the nearer one is taken, and of two equally near ones the even one. Numbers
from 10⁻⁴ up to 10¹⁶ are written positionally and always with a point, all others with an
exponent of at least two digits and its sign.
-/

namespace Entitlements.Number

namespace Double

/-- Decimal digits of a significand and the place of the point: the value is
`0.d₁d₂… * 10 ^ point`. -/
structure Decimal where
  /-- The digits read as one number. -/
  digits : Nat
  /-- The place of the point after the first digit's left edge. -/
  point : Int
  deriving DecidableEq, Repr

/-- The exact value of a finite number without its sign, as a quotient. -/
def quotient (m : Nat) (e : Int) : Nat × Nat :=
  if 0 ≤ e then (m * Nat.pow 2 e.toNat, 1) else (m, Nat.pow 2 (-e).toNat)

/-- The least `p` with `num / den < 10 ^ p`, for positive `num` and `den`. The search starts at
an estimate from below. -/
def decimalOrder (num den : Nat) : Int :=
  let low : Int := ((decimalWidth num : Int) - decimalWidth den) - 1
  let below (p : Int) : Bool :=
    if 0 ≤ p then decide (num < den * Nat.pow 10 p.toNat)
    else decide (num * Nat.pow 10 (-p).toNat < den)
  if below low then low else if below (low + 1) then low + 1 else low + 2

/-- `num / den * 10 ^ k` as a quotient. -/
def shiftDecimal (num den : Nat) (k : Int) : Nat × Nat :=
  if 0 ≤ k then (num * Nat.pow 10 k.toNat, den) else (num, den * Nat.pow 10 (-k).toNat)

/-- A decimal with the digits `d` on the grid of `width` digits below `10 ^ point`; one digit
more is the next power of ten. -/
def onGrid (width d : Nat) (point : Int) : Decimal :=
  if d = Nat.pow 10 width then ⟨Nat.pow 10 (width - 1), point + 1⟩ else ⟨d, point⟩

/-- The decimal reads back as the given number. -/
def readsBack (m : Nat) (e : Int) (width : Nat) (d : Decimal) : Bool :=
  d.digits != 0 &&
    ofDecimal false d.digits (d.point - width) == .finite false m e

/-- The best decimal of `width` digits, if one reads back. -/
def decimalOfWidth? (m : Nat) (e : Int) (width : Nat) : Option Decimal :=
  let (num, den) := quotient m e
  let point := decimalOrder num den
  let (n, d) := shiftDecimal num den (width - point)
  let q := n / d
  let r := n % d
  let lower := onGrid width q point
  let upper := onGrid width (q + 1) point
  let lowerFirst := 2 * r < d || (2 * r == d && q % 2 == 0)
  match readsBack m e width lower, readsBack m e width upper with
  | true, true => some (if lowerFirst then lower else upper)
  | true, false => some lower
  | false, true => some upper
  | false, false => none

/-- The first width from `width` on at which a decimal reads back, among `tries` widths. -/
def shortestFrom (m : Nat) (e : Int) : Nat → Nat → Decimal × Nat
  | _, 0 => (⟨0, 0⟩, 1)
  | width, tries + 1 =>
    match decimalOfWidth? m e width with
    | some d => (d, width)
    | none => shortestFrom m e (width + 1) tries

/-- Digits of a number, filled up with zeros on the left. -/
def paddedDigits (width n : Nat) : List Char :=
  let ds := Nat.toDigits 10 n
  List.replicate (width - ds.length) '0' ++ ds

/-- Digits without the zeros at their end; at least one is kept. -/
def dropTrailingZeros (ds : List Char) : List Char :=
  match (ds.reverse.dropWhile (· == '0')).reverse with
  | [] => ['0']
  | ds => ds

/-- An exponent with its sign and at least two digits. -/
def exponentText (e : Int) : List Char :=
  (if e < 0 then '-' else '+') :: paddedDigits 2 e.natAbs

/-- Digits and the place of their point as text. -/
def decimalText (ds : List Char) (point : Int) : List Char :=
  if -4 < point ∧ point ≤ 16 then
    if point ≤ 0 then
      ['0', '.'] ++ List.replicate (-point).toNat '0' ++ ds
    else
      let whole := ds.take point.toNat
      let part := ds.drop point.toNat
      whole ++ List.replicate (point.toNat - whole.length) '0' ++
        '.' :: (if part.isEmpty then ['0'] else part)
  else
    match ds with
    | d :: [] => d :: 'e' :: exponentText (point - 1)
    | d :: rest => d :: '.' :: rest ++ 'e' :: exponentText (point - 1)
    | [] => []

/-- The shortest text of a number. -/
def text : Double → String
  | .undefined => "nan"
  | .infinite negative => if negative then "-inf" else "inf"
  | .finite negative m e =>
    let sign := if negative then ['-'] else []
    if m = 0 then String.ofList (sign ++ "0.0".toList)
    else
      let (d, width) := shortestFrom m e 1 17
      String.ofList (sign ++ decimalText (dropTrailingZeros (paddedDigits width d.digits)) d.point)

end Double

end Entitlements.Number
