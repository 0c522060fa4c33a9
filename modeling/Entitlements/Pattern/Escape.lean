import Entitlements.Json.Reader
import Entitlements.Pattern.Reader
import Entitlements.Text.Name

/-!
# Escapes

What a character after a backslash stands for: a character given by its code or name, a class of
characters, a place in the text, or a group.
-/

namespace Entitlements.Pattern

open Reading

/-- What an escape stands for. -/
inductive Escape where
  /-- A single character by its code. -/
  | char (code : Nat)
  /-- Any character of a class. -/
  | charClass
  /-- A place in the text. -/
  | place
  /-- What a group has matched. -/
  | group (width : Width)
  deriving DecidableEq, Repr, Inhabited

/-- A digit of octal numbers. -/
def isOctal (c : Char) : Bool := '0' ≤ c && c ≤ '7'

/-- A digit of hexadecimal numbers. -/
def isHex (c : Char) : Bool := (Json.hexValue? c).isSome

/-- A number in a base. -/
def valueOf (base : Nat) (cs : List Char) : Nat :=
  cs.foldl (fun n c => base * n + (Json.hexValue? c).getD 0) 0

/-- A code of exactly so many hexadecimal digits. -/
def hexCode (width : Nat) : Reading Nat := do
  let cs ← takeWhile isHex width
  if cs.length < width then malformed
  return valueOf 16 cs

/-- The letters that stand for a single character of their own. -/
def shortEscapes : List (Char × Nat) :=
  [('a', 7), ('b', 8), ('f', 12), ('n', 10), ('r', 13), ('t', 9), ('v', 11), ('\\', 92)]

/-- The letters that stand for a class of characters. -/
def classLetters : List Char := ['d', 'D', 's', 'S', 'w', 'W']

/-- The letters that stand for a place in the text. -/
def placeLetters : List Char := ['A', 'b', 'B', 'Z']

/-- The code of a character that a longer escape gives, if the letter begins one. -/
def longEscape? (c : Char) : Reading (Option Nat) := do
  match c with
  | 'x' => return some (← hexCode 2)
  | 'u' => return some (← hexCode 4)
  | 'U' =>
    let n ← hexCode 8
    if 0x80000000 ≤ n then throw (.beyond .count)
    if 0x10FFFF < n then malformed
    return some n
  | 'N' =>
    expect '\x7b'
    match Text.characterNamed? (← name '\x7d') with
    | some d => return some d.toNat
    | none => malformed
  | _ => return none

/-- A code of octal digits has at most eight bits. -/
def octalCode (cs : List Char) : Reading Nat := do
  let n := valueOf 8 cs
  if 0o377 < n then malformed
  return n

/-- A letter that has no meaning after a backslash must not stand there; any other character
stands for itself. -/
def selfEscape (c : Char) : Reading Nat := do
  if c.isAlpha then malformed
  return c.toNat

/-- What an escape among the members of a class stands for. -/
def memberEscape (c : Char) : Reading Escape := do
  match shortEscapes.lookup c with
  | some n => return .char n
  | none =>
    if classLetters.contains c then return .charClass
    match ← longEscape? c with
    | some n => return .char n
    | none =>
      if isOctal c then return .char (← octalCode (c :: (← takeWhile isOctal 2)))
      else if c.isDigit then malformed
      else return .char (← selfEscape c)

/-- An escape that begins with a digit other than zero: a code of three octal digits, or else the
number of a group. -/
def digitEscape (c : Char) : Reading Escape := do
  let second ← takeWhile Char.isDigit 1
  let cs := c :: second
  let third ← if cs.length = 2 && cs.all isOctal then takeWhile isOctal 1 else pure []
  if third.isEmpty then return .group (← reference (valueOf 10 cs))
  else return .char (← octalCode (cs ++ third))

/-- What an escape outside of classes stands for. -/
def escape (c : Char) : Reading Escape := do
  if placeLetters.contains c then return .place
  if classLetters.contains c then return .charClass
  match shortEscapes.lookup c with
  | some n => return .char n
  | none =>
    match ← longEscape? c with
    | some n => return .char n
    | none =>
      if c == '0' then return .char (valueOf 8 (← takeWhile isOctal 2))
      else if c.isDigit then digitEscape c
      else return .char (← selfEscape c)

end Entitlements.Pattern
