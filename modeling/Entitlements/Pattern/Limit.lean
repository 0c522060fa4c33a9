/-!
# Flaws of patterns

A text that is to be a pattern can break the grammar of patterns. One that keeps the grammar can
still go beyond what a pattern may ask for, which is told apart.
-/

namespace Entitlements.Pattern

/-- The limit that a pattern goes beyond. -/
inductive Limit where
  /-- The bound of a repetition, or the number of a character, is too large to count with. -/
  | count
  /-- A number has more digits than a number may have. -/
  | digits
  /-- Letters are asked to mean only ASCII and to mean every script. -/
  | contradiction
  /-- Groups stand too deep inside one another. -/
  | depth
  /-- What is looked for behind a position is too long. -/
  | width
  deriving DecidableEq, Repr, Inhabited

/-- What is wrong with a text that is to be a pattern. -/
inductive Flaw where
  /-- The text breaks the grammar of patterns. -/
  | malformed
  /-- The text keeps the grammar and goes beyond a limit. -/
  | beyond (l : Limit)
  deriving DecidableEq, Repr, Inhabited

end Entitlements.Pattern
