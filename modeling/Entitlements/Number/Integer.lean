import Entitlements.Text.Classes

/-!
# Integers in text

An integer is written with an optional sign and decimal digits of any script; single low lines
may stand between digits, and blanks around the whole. The four information separators are not
blanks here. More than 4300 digits are refused.
-/

namespace Entitlements.Number

open Entitlements.Text

/-- The greatest number of digits that is read. -/
def maxDigits : Nat := 4300

/-- Blanks that may surround an integer. -/
def isMargin (c : Char) : Bool :=
  isBlank c && !(0x1C ≤ c.toNat && c.toNat ≤ 0x1F)

/-- The digits of a number, each low line between two digits dropped. `again` says that a digit
has just been read. -/
def digitsOf? : Bool → List Char → Option (List Nat)
  | again, [] => if again then some [] else none
  | again, c :: rest =>
    if c == '_' then
      if again then digitsOf? false rest else none
    else do
      let d ← digit? c
      let ds ← digitsOf? true rest
      return d :: ds

/-- The number with the given decimal digits, the highest first. -/
def ofDigits (ds : List Nat) : Nat :=
  ds.foldl (fun n d => 10 * n + d) 0

/-- A number of at most 4300 digits. -/
def readNat? (cs : List Char) : Option Nat := do
  let ds ← digitsOf? false cs
  if ds.length ≤ maxDigits then some (ofDigits ds) else none

/-- Drop the margins at both ends. -/
def dropMargins (cs : List Char) : List Char :=
  ((cs.dropWhile isMargin).reverse.dropWhile isMargin).reverse

/-- The integer that a text writes. -/
def readInt? (s : String) : Option Int :=
  match dropMargins s.toList with
  | '+' :: cs => (readNat? cs).map Int.ofNat
  | '-' :: cs => (readNat? cs).map fun n => -(n : Int)
  | cs => (readNat? cs).map Int.ofNat

end Entitlements.Number
