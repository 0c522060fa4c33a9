import Entitlements.Pattern.Escape

/-!
# Classes of characters

A class lists characters and ranges between square brackets. A closing bracket that comes first
is a member, and so is a hyphen that stands first or last.
-/

namespace Entitlements.Pattern

open Reading

/-- What a token stands for as a member. -/
def member : Token → Reading Escape
  | .plain c => return .char c.toNat
  | .escaped c => memberEscape c
  | .dangling => malformed

/-- A range goes from one character to another that does not come before it. -/
def range (low high : Escape) : Reading Unit := do
  match low, high with
  | .char a, .char b => if b < a then malformed
  | _, _ => malformed

/-- The members of a class up to its closing bracket. -/
def members (empty : Bool) : Nat → Reading Unit
  | 0 => malformed
  | n + 1 => do
    let t ← takeSome
    if t == .plain ']' && !empty then return
    let low ← member t
    if ← accept '-' then
      let t ← takeSome
      if t == .plain ']' then return
      range low (← member t)
    members false n

/-- A class after its opening bracket. -/
def charClass : Reading Unit := do
  let _ ← accept '^'
  members true ((← left) + 1)

end Entitlements.Pattern
