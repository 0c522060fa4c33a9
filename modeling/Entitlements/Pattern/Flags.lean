import Entitlements.Pattern.Reader

/-!
# Flags

Letters that change the meaning of a whole pattern or of a group. Flags of a group can be turned
on and off; those that choose what letters mean exclude one another and cannot be turned off.
-/

namespace Entitlements.Pattern

open Reading

/-- The letters of flags. -/
def flagLetters : List Char := ['i', 'L', 'm', 's', 'x', 'a', 't', 'u']

/-- The letters of flags that choose what letters mean. -/
def kindLetters : List Char := ['a', 'L', 'u']

/-- The flag under which nothing can be repeated. It holds for whole patterns only. -/
def templateLetter : Char := 't'

/-- The flag under which blanks and comments can stand in a pattern. -/
def verboseLetter : Char := 'x'

/-- The flags that are set at some place. -/
inductive FlagSetting where
  /-- Flags of the whole pattern. -/
  | whole (on : List Char)
  /-- Flags of a group. -/
  | group (on off : List Char)
  deriving DecidableEq, Repr, Inhabited

/-- Another flag is turned on. -/
def turnOn (on : List Char) (c : Char) : Reading (List Char) := do
  if c == 'L' then malformed
  if kindLetters.contains c && on.any (fun d => kindLetters.contains d && d != c) then malformed
  return c :: on

/-- The flags turned on from a letter to a mark, and the mark. -/
def flagsOn : (fuel : Nat) → List Char → Char → Reading (List Char × Char)
  | 0, _, _ => malformed
  | n + 1, on, c => do
    let on ← turnOn on c
    match ← takeSome with
    | .plain d =>
      if d == ')' || d == '-' || d == ':' then return (on, d)
      else if flagLetters.contains d then flagsOn n on d
      else malformed
    | _ => malformed

/-- The flags turned off up to a colon. -/
def flagsOff : (fuel : Nat) → List Char → Reading (List Char)
  | 0, _ => malformed
  | n + 1, off => do
    match ← takeSome with
    | .plain d =>
      if d == ':' && !off.isEmpty then return off
      else if flagLetters.contains d && !kindLetters.contains d then flagsOff n (d :: off)
      else malformed
    | _ => malformed

/-- The flags from a letter or a hyphen on. -/
def flags (c : Char) : Reading FlagSetting := do
  let n ← left
  let (on, mark) ← if c == '-' then pure ([], c) else flagsOn (n + 1) [] c
  if mark == ')' then return .whole on
  if on.contains templateLetter then malformed
  let off ← if mark == '-' then flagsOff (n + 1) [] else pure []
  if off.contains templateLetter || on.any off.contains then malformed
  return .group on off

end Entitlements.Pattern
