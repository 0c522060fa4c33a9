import Entitlements.Pattern.Sequence

/-!
# Judging patterns

A text is a pattern when all of it can be read as one and what it says of itself fits together:
the groups that conditions ask for exist, what is looked for behind a position has one length,
and nothing is repeated where nothing may be.
-/

namespace Entitlements.Pattern

open Reading

/-- What is looked for behind a position is shorter than this. -/
def lookLimit : Nat := Nat.pow 2 31

/-- What a pattern says of itself fits together. -/
def coherent (r : Reader) : Except Flaw Unit := do
  if r.conditions.any (r.groups.length < ·) then throw .malformed
  if r.flags.contains templateLetter && r.repeats then throw .malformed
  if r.lookedBehind.any fun w => w.least != w.greatest then throw .malformed
  if r.lookedBehind.any fun w => 2 * lookLimit ≤ w.least then throw .malformed
  if r.lookedBehind.any fun w => lookLimit ≤ w.least then throw (.beyond .width)

/-- Read a whole pattern. -/
def whole : Reading Unit := do
  if (← peek) == some .dangling then malformed
  let _ ← alternatives (4 * (← left) + 4) maxDepth false true true
  let r ← get
  if r.flags.contains 'a' && r.flags.contains 'u' then throw (.beyond .contradiction)
  if !r.tokens.isEmpty then malformed

/-- Whether a text is a pattern, or what is wrong with it. -/
def judge (s : String) : Except Flaw Unit := do
  let (_, r) ← whole.run { tokens := Token.lex s.toList }
  coherent r

end Entitlements.Pattern
