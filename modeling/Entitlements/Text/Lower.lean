import Entitlements.Text.Cased
import Entitlements.Text.LowerTable

/-!
# Lower-casing

Names are compared by their lower-case forms. Each character goes to its simple lower-case
form, with two exceptions of the standard: a capital I with a dot above keeps the dot as a
combining character, and a capital sigma becomes the final small sigma where a letter comes
before it and none follows in the same word.
-/

namespace Entitlements.Text

/-- The simple lower-case form of a character. -/
def lowerSimple (c : Char) : Char :=
  match lowerRuns.find? (·.holds c.toNat) with
  | some r => Char.ofNat (c.toNat + r.shift).toNat
  | none => c

/-- The nearest character that is not case-ignorable is a letter with a case. -/
def nextIsCased (cs : List Char) : Bool :=
  match cs.dropWhile caseIgnorable.covers with
  | c :: _ => cased.covers c
  | [] => false

/-- The lower-case form of one character between the text before it, nearest first, and the
text after it. -/
def lowerChar (before : List Char) (c : Char) (after : List Char) : List Char :=
  if c == 'Σ' then
    if nextIsCased before && !nextIsCased after then ['ς'] else ['σ']
  else if c == 'İ' then
    ['i', Char.ofNat 0x307]
  else
    [lowerSimple c]

/-- Lower-case what is left, knowing what came before it. -/
def lowerFrom : List Char → List Char → List Char
  | _, [] => []
  | before, c :: after => lowerChar before c after ++ lowerFrom (c :: before) after

/-- The lower-case form of a text. -/
def lower (s : String) : String :=
  String.ofList (lowerFrom [] s.toList)

/-- One list of characters stands without a gap inside another. -/
def isInfix (needle : List Char) : List Char → Bool
  | [] => needle.isEmpty
  | c :: rest => needle.isPrefixOf (c :: rest) || isInfix needle rest

/-- A text contains another one, whatever the case of either. -/
def containsIgnoringCase (text query : String) : Bool :=
  isInfix (lower query).toList (lower text).toList

end Entitlements.Text
