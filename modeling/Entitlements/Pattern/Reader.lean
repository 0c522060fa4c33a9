import Entitlements.Pattern.Limit
import Entitlements.Pattern.Token

/-!
# Reading patterns

The state of a reader of patterns: the tokens that are left and what was learned from those read.
Every part of a pattern has a width, the least and the greatest number of characters that it
matches.
-/

namespace Entitlements.Pattern

/-- The least and the greatest number of characters that something matches. -/
structure Width where
  /-- The least number. -/
  least : Nat
  /-- The greatest number. -/
  greatest : Nat
  deriving DecidableEq, Repr, Inhabited

namespace Width

/-- Widths are not counted further than this. -/
def unbounded : Nat := Nat.pow 2 64

/-- Nothing is matched. -/
def zero : Width := ⟨0, 0⟩

/-- A single character is matched. -/
def one : Width := ⟨1, 1⟩

/-- One thing after the other. -/
def append (a b : Width) : Width :=
  ⟨min (a.least + b.least) unbounded, min (a.greatest + b.greatest) unbounded⟩

/-- One thing or the other. -/
def union (a b : Width) : Width := ⟨min a.least b.least, max a.greatest b.greatest⟩

/-- One thing several times; without an upper bound where none is given. -/
def times (a : Width) (lower : Nat) : Option Nat → Width
  | some upper => ⟨min (a.least * lower) unbounded, min (a.greatest * upper) unbounded⟩
  | none => ⟨min (a.least * lower) unbounded, if a.greatest = 0 then 0 else unbounded⟩

end Width

/-- The state of a reader. -/
structure Reader where
  /-- The tokens that are left. -/
  tokens : List Token
  /-- The letters of flags that hold for the whole pattern. -/
  flags : List Char := []
  /-- The widths of the groups begun so far; none while a group is open. -/
  groups : List (Option Width) := []
  /-- The numbers of the groups that have names. -/
  names : List (String × Nat) := []
  /-- Within what is looked for behind a position, the number of groups begun before it. -/
  behind? : Option Nat := none
  /-- The numbers of the groups that conditions ask for. -/
  conditions : List Nat := []
  /-- Something is repeated. -/
  repeats : Bool := false
  /-- The widths of what is looked for behind a position. -/
  lookedBehind : List Width := []
  deriving Repr, Inhabited

/-- Reading a part of a pattern. -/
abbrev Reading := StateT Reader (Except Flaw)

namespace Reading

/-- The text breaks the grammar. -/
def malformed {α : Type} : Reading α := throw .malformed

/-- The next token. -/
def peek : Reading (Option Token) := return (← get).tokens.head?

/-- Go on to the token after the next one, which must not dangle. -/
def take : Reading (Option Token) := do
  let r ← get
  match r.tokens with
  | [] => return none
  | t :: rest =>
    if rest.head? == some .dangling then malformed
    set { r with tokens := rest }
    return some t

/-- The next token, which has to be there. -/
def takeSome : Reading Token := do
  match ← take with
  | some t => return t
  | none => malformed

/-- Go on if the next token is the character. -/
def accept (c : Char) : Reading Bool := do
  if (← peek) == some (.plain c) then
    let _ ← take
    return true
  else return false

/-- The next token has to be the character. -/
def expect (c : Char) : Reading Unit := do
  if ← accept c then return else malformed

/-- The characters that belong to a class, at most so many. -/
def takeWhile (belongs : Char → Bool) : Nat → Reading (List Char)
  | 0 => return []
  | n + 1 => do
    match ← peek with
    | some (.plain c) =>
      if belongs c then
        let _ ← take
        return c :: (← takeWhile belongs n)
      else return []
    | _ => return []

/-- The number of tokens that are left. -/
def left : Reading Nat := return (← get).tokens.length

/-- The characters before a mark, which has to come; the mark is dropped. -/
def takeUntil (mark : Char) : Nat → Reading (List Char)
  | 0 => malformed
  | n + 1 => do
    let t ← takeSome
    if t == .plain mark then return []
    else return t.chars ++ (← takeUntil mark n)

/-- A name that ends with a mark and is not empty. -/
def name (mark : Char) : Reading (List Char) := do
  let cs ← takeUntil mark ((← left) + 1)
  if cs.isEmpty then malformed
  return cs

/-- The width of a group that has ended. -/
def closedGroup? (number : Nat) : Reading (Option Width) := do
  return ((← get).groups[number - 1]?).join

/-- A group that is referred to has ended. Behind a position it has ended before that. -/
def reference (number : Nat) : Reading Width := do
  match ← closedGroup? number with
  | none => malformed
  | some w =>
    if (← get).behind?.any (· ≤ number) then malformed
    return w

end Reading

end Entitlements.Pattern
