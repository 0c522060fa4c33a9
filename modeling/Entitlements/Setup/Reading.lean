import Entitlements.Number.Double
import Entitlements.Number.Integer

/-!
# Reading the values of settings

Settings are texts. Some of them stand for integers, numbers or truth values; a text that does
not stand for what it should has a flaw.
-/

namespace Entitlements.Setup

open Entitlements.Number

/-- What is wrong with a setting. -/
inductive Flaw where
  /-- The text is no integer. -/
  | notInteger
  /-- The integer has too many digits. -/
  | tooLong
  /-- The text is no number. -/
  | notNumber
  /-- The text is no truth value. -/
  | notTruth
  /-- The integer is too small. -/
  | tooSmall
  /-- The number is not positive. -/
  | notPositive
  /-- The text is none of those allowed. -/
  | notListed
  /-- There is no such setting. -/
  | unknown
  deriving DecidableEq, Repr, Inhabited

/-- Drop the zeros in front of a number, and low lines among them. The zero before a point, and
one that is the whole number, stay. -/
def dropZeros : List Char → Char → Option (List Char)
  | [], last => some [last]
  | c :: rest, last =>
    if c == '0' || c == '_' then dropZeros rest c
    else if c == '.' then some (last :: c :: rest)
    else if c.isDigit then some (c :: rest)
    else none

/-- The digits of an integer from the first that matters on. -/
def significant : List Char → Option (List Char)
  | '0' :: rest => dropZeros rest '0'
  | c :: rest => if c.isDigit || c == '-' then some (c :: rest) else none
  | [] => none

/-- Leave out a point that only zeros follow. -/
def dropFraction (cs : List Char) : List Char :=
  let whole := cs.takeWhile (· != '.')
  if (cs.drop (whole.length + 1)).all (· == '0') then whole else cs

/-- Two low lines stand side by side. -/
def hasDoubleLine : List Char → Bool
  | a :: b :: rest => (a == '_' && b == '_') || hasDoubleLine (b :: rest)
  | _ => false

/-- Leave out the low lines within a text. There are none to leave out where one stands at an end
or beside another. -/
def dropLines? (cs : List Char) : Option (List Char) :=
  if cs.head? == some '_' || cs.getLast? == some '_' || !cs.contains '_' || hasDoubleLine cs
  then none else some (cs.filter (· != '_'))

/-- The number of digits that begin with zero only if there is no other. -/
def readDigits (cs : List Char) : Except Flaw Nat :=
  if cs.isEmpty || !cs.all Char.isDigit || (cs.head? == some '0' && 1 < cs.length) then
    .error .notInteger
  else if maxDigits < cs.length then .error .tooLong
  else .ok (cs.foldl (fun n c => 10 * n + (c.toNat - 0x30)) 0)

/-- The integer that a text stands for. A fraction of zeros does no harm. -/
def readInteger (s : String) : Except Flaw Int :=
  let cs := match dropMargins s.toList with
    | '+' :: '-' :: _ => []
    | '+' :: cs => cs
    | cs => cs
  match significant cs with
  | none => .error .notInteger
  | some cs =>
    let cs := dropFraction cs
    match (dropLines? cs).getD cs with
    | '-' :: cs => (readDigits cs).map fun n => -(n : Int)
    | cs => (readDigits cs).map Int.ofNat

/-- The exponent of a number; none where a text is no exponent. -/
def readExponent? : List Char → Option Int
  | [] => some 0
  | e :: rest =>
    if e == 'e' || e == 'E' then
      let (negative, ds) : Bool × List Char := match rest with
        | '-' :: ds => (true, ds)
        | '+' :: ds => (false, ds)
        | ds => (false, ds)
      if ds.isEmpty || !ds.all Char.isDigit then none
      else
        let n : Int := ds.foldl (fun n c => 10 * n + (c.toNat - 0x30)) 0
        some (if negative then -n else n)
    else none

/-- The number that a text after its sign stands for. -/
def readMagnitude? (negative : Bool) (cs : List Char) : Option Double :=
  let word := String.ofList (cs.map Char.toLower)
  if word == "inf" || word == "infinity" then some (.infinite negative)
  else if word == "nan" then some .undefined
  else
    let (whole, rest) := cs.span Char.isDigit
    let (fraction, rest) : List Char × List Char := match rest with
      | '.' :: more => more.span Char.isDigit
      | rest => ([], rest)
    if whole.isEmpty && fraction.isEmpty then none
    else do
      let exponent ← readExponent? rest
      let digits := (whole ++ fraction).foldl (fun n c => 10 * n + (c.toNat - 0x30)) 0
      return Double.ofDecimal negative digits (exponent - fraction.length)

/-- The number that characters stand for. -/
def readDouble? : List Char → Option Double
  | '+' :: cs => readMagnitude? false cs
  | '-' :: cs => readMagnitude? true cs
  | cs => readMagnitude? false cs

/-- The number that a text stands for. -/
def readNumber (s : String) : Except Flaw Double :=
  let plain := readDouble? (dropMargins s.toList)
  match plain.or ((dropLines? s.toList).bind readDouble?) with
  | some d => .ok d
  | none => .error .notNumber

/-- The words for yes. -/
def yesWords : List String := ["1", "on", "t", "true", "y", "yes"]

/-- The words for no. -/
def noWords : List String := ["0", "off", "f", "false", "n", "no"]

/-- The truth value that a text stands for, in any case. -/
def readTruth (s : String) : Except Flaw Bool :=
  let word := String.ofList (s.toList.map Char.toLower)
  if yesWords.contains word then .ok true
  else if noWords.contains word then .ok false
  else .error .notTruth

end Entitlements.Setup
