import Entitlements.Json.Value
import Entitlements.Number.Integer

/-!
# Reading structured values

The notation of request bodies. Beyond the common standard, the three words for numbers that are
not finite are read, integers keep all their digits as long as there are no more than 4300, and
of two fields with one name the last value counts. Values nested deeper than `maxDepth` are
refused apart from malformed text. Half of a surrogate pair becomes the replacement character.
-/

namespace Entitlements.Json

open Entitlements.Number

/-- Why a text is no structured value. -/
inductive ReadError where
  /-- The text does not follow the notation. -/
  | malformed
  /-- Lists and objects are nested too deeply. -/
  | tooDeep
  deriving DecidableEq, Repr

/-- The greatest nesting of lists and objects. The deployed reader calls itself for every level and
fails once a thousand calls stand inside one another. This many of them are left when a body is
read, as measured on the running service; the number is no constant of its own. -/
def maxDepth : Nat := 940

/-- Blanks between the parts of a value. -/
def isSpace (c : Char) : Bool :=
  c == ' ' || c == '\t' || c == '\n' || c == '\r'

/-- Drop the blanks in front. -/
def skipSpace (cs : List Char) : List Char :=
  cs.dropWhile isSpace

/-- The value of a hexadecimal digit. -/
def hexValue? (c : Char) : Option Nat :=
  if '0' ≤ c ∧ c ≤ '9' then some (c.toNat - 0x30)
  else if 'a' ≤ c ∧ c ≤ 'f' then some (c.toNat - 0x57)
  else if 'A' ≤ c ∧ c ≤ 'F' then some (c.toNat - 0x37)
  else none

/-- The number written by hexadecimal digits. -/
def readHex? (cs : List Char) : Option Nat :=
  cs.foldlM (fun n c => (hexValue? c).map (16 * n + ·)) 0

/-- The character behind a backslash, for the escapes of one character. -/
def shortEscape? : Char → Option Char
  | '"' => some '"'
  | '\\' => some '\\'
  | '/' => some '/'
  | 'b' => some (Char.ofNat 0x08)
  | 'f' => some (Char.ofNat 0x0C)
  | 'n' => some '\n'
  | 'r' => some '\r'
  | 't' => some '\t'
  | _ => none

/-- The code units of a text up to its closing mark, and what follows. An escape gives one code
unit of sixteen bits, any other character its code point. -/
def readUnits : List Char → Option (List Nat × List Char)
  | '"' :: rest => some ([], rest)
  | '\\' :: 'u' :: a :: b :: c :: d :: rest => do
    let n ← readHex? [a, b, c, d]
    let (ns, rest) ← readUnits rest
    return (n :: ns, rest)
  | '\\' :: e :: rest => do
    let c ← shortEscape? e
    let (ns, rest) ← readUnits rest
    return (c.toNat :: ns, rest)
  | c :: rest =>
    if c.toNat < 0x20 || c == '\\' then none
    else do
      let (ns, rest) ← readUnits rest
      return (c.toNat :: ns, rest)
  | [] => none

/-- First half of a surrogate pair. -/
def isHigh (n : Nat) : Bool := 0xD800 ≤ n && n < 0xDC00

/-- Second half of a surrogate pair. -/
def isLow (n : Nat) : Bool := 0xDC00 ≤ n && n < 0xE000

/-- Join surrogate pairs. A half without its other half is no character, and the replacement
character takes its place. The deployed service carries such a half along instead, and an answer
that would repeat it fails. -/
def joinUnits : List Nat → List Char
  | [] => []
  | [n] => [if isHigh n || isLow n then Char.ofNat 0xFFFD else Char.ofNat n]
  | n :: m :: rest =>
    if isHigh n && isLow m then
      Char.ofNat (0x10000 + (n - 0xD800) * 0x400 + (m - 0xDC00)) :: joinUnits rest
    else
      (if isHigh n || isLow n then Char.ofNat 0xFFFD else Char.ofNat n) :: joinUnits (m :: rest)

/-- A text after its opening mark. -/
def readText (cs : List Char) : Except ReadError (String × List Char) :=
  match readUnits cs with
  | some (ns, rest) => .ok (String.ofList (joinUnits ns), rest)
  | none => .error .malformed

/-- The digits in front of a text. -/
def takeDigits (cs : List Char) : List Char × List Char :=
  cs.span Char.isDigit

/-- The value of digits `0` to `9`. -/
def digitsValue (cs : List Char) : Nat :=
  cs.foldl (fun n c => 10 * n + (c.toNat - 0x30)) 0

/-- The digits after a point, if there are any. -/
def readFraction? : List Char → Option (List Char × List Char)
  | '.' :: rest =>
    match takeDigits rest with
    | ([], _) => none
    | (ds, rest) => some (ds, rest)
  | _ => none

/-- The exponent, if there is one. -/
def readExponent? : List Char → Option (Int × List Char)
  | e :: rest =>
    if e == 'e' || e == 'E' then
      let (negative, rest) := match rest with
        | '+' :: r => (false, r)
        | '-' :: r => (true, r)
        | r => (false, r)
      match takeDigits rest with
      | ([], _) => none
      | (ds, rest) => some (if negative then -(digitsValue ds : Int) else digitsValue ds, rest)
    else none
  | [] => none

/-- A number after its sign. -/
def readNumber (negative : Bool) (cs : List Char) : Except ReadError (Value × List Char) :=
  let (whole, rest) : List Char × List Char := match cs with
    | '0' :: rest => (['0'], rest)
    | cs => takeDigits cs
  if whole.isEmpty then .error .malformed
  else
    let (fraction, afterFraction) := (readFraction? rest).getD ([], rest)
    let (exponent, afterExponent) := (readExponent? afterFraction).getD (0, afterFraction)
    if fraction.isEmpty && (readExponent? afterFraction).isNone then
      if maxDigits < whole.length then .error .malformed
      else
        let n : Int := digitsValue whole
        .ok (.int (if negative then -n else n), rest)
    else
      let d := Double.ofDecimal negative (digitsValue (whole ++ fraction))
        (exponent - fraction.length)
      .ok (.number d, afterExponent)

/-- Words and numbers. -/
def readScalar (cs : List Char) : Except ReadError (Value × List Char) :=
  let word (w : String) : Option (List Char) :=
    if w.toList.isPrefixOf cs then some (cs.drop w.length) else none
  match word "null" with
  | some rest => .ok (.null, rest)
  | none => match word "true" with
  | some rest => .ok (.bool true, rest)
  | none => match word "false" with
  | some rest => .ok (.bool false, rest)
  | none => match word "NaN" with
  | some rest => .ok (.number .undefined, rest)
  | none => match word "Infinity" with
  | some rest => .ok (.number (.infinite false), rest)
  | none => match word "-Infinity" with
  | some rest => .ok (.number (.infinite true), rest)
  | none => match cs with
  | '-' :: rest => readNumber true rest
  | cs => readNumber false cs

mutual

/-- A value, with `depth` levels of nesting left. -/
def readValue : (fuel depth : Nat) → List Char → Except ReadError (Value × List Char)
  | 0, _, _ => .error .malformed
  | fuel + 1, depth, cs =>
    match cs with
    | '"' :: rest => do
      let (s, rest) ← readText rest
      return (.text s, rest)
    | '[' :: rest =>
      match depth with
      | 0 => .error .tooDeep
      | depth + 1 =>
        match skipSpace rest with
        | ']' :: rest => .ok (.list [], rest)
        | rest => do
          let (items, rest) ← readItems fuel depth rest
          return (.list items, rest)
    | '{' :: rest =>
      match depth with
      | 0 => .error .tooDeep
      | depth + 1 =>
        match skipSpace rest with
        | '}' :: rest => .ok (.object [], rest)
        | rest => do
          let (fields, rest) ← readFields fuel depth [] rest
          return (.object fields, rest)
    | cs => readScalar cs

/-- The members of a list up to its end. -/
def readItems : (fuel depth : Nat) → List Char → Except ReadError (List Value × List Char)
  | 0, _, _ => .error .malformed
  | fuel + 1, depth, cs => do
    let (v, rest) ← readValue fuel depth cs
    match skipSpace rest with
    | ']' :: rest => return ([v], rest)
    | ',' :: rest => do
      let (vs, rest) ← readItems fuel depth (skipSpace rest)
      return (v :: vs, rest)
    | _ => .error .malformed

/-- The fields of an object up to its end, added to those read so far. -/
def readFields : (fuel depth : Nat) → List (String × Value) → List Char →
    Except ReadError (List (String × Value) × List Char)
  | 0, _, _, _ => .error .malformed
  | fuel + 1, depth, fields, cs => do
    match cs with
    | '"' :: rest =>
      let (name, rest) ← readText rest
      match skipSpace rest with
      | ':' :: rest =>
        let (v, rest) ← readValue fuel depth (skipSpace rest)
        let fields := setField name v fields
        match skipSpace rest with
        | '}' :: rest => return (fields, rest)
        | ',' :: rest => readFields fuel depth fields (skipSpace rest)
        | _ => .error .malformed
      | _ => .error .malformed
    | _ => .error .malformed

end

/-- The value that a whole text writes. -/
def read (s : String) : Except ReadError Value := do
  let cs := s.toList
  let (v, rest) ← readValue (2 * cs.length + 2) maxDepth (skipSpace cs)
  match skipSpace rest with
  | [] => return v
  | _ => .error .malformed

end Entitlements.Json
