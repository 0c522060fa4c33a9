import Entitlements.Number.Integer
import Entitlements.Pattern.CharClass
import Entitlements.Pattern.Flags
import Entitlements.Text.Identifier

/-!
# Sequences and alternatives

A pattern is a choice between sequences. The items of a sequence are characters, classes, places
and groups, and most of them can be repeated. Groups nest up to a depth.
-/

namespace Entitlements.Pattern

open Reading

/-- How an item can be repeated. -/
inductive Kind where
  /-- A place in the text, which cannot be repeated. -/
  | place
  /-- A repetition, which cannot be repeated once more. -/
  | repetition
  /-- Anything else. -/
  | simple
  deriving DecidableEq, Repr, Inhabited

/-- The items of a sequence read so far. -/
structure Items where
  /-- The width of all items but the last. -/
  before : Width := Width.zero
  /-- The last item. -/
  last? : Option (Kind × Width) := none
  deriving Repr, Inhabited

namespace Items

/-- The width of all items. -/
def width (s : Items) : Width :=
  match s.last? with
  | some (_, w) => s.before.append w
  | none => s.before

/-- Add an item. -/
def push (s : Items) (k : Kind) (w : Width) : Items := ⟨s.width, some (k, w)⟩

/-- Repeat the last item. -/
def repeatLast (s : Items) (lower : Nat) (upper : Option Nat) : Reading Items := do
  match s.last? with
  | some (.simple, w) =>
    modify fun r => { r with repeats := true }
    return { s with last? := some (.repetition, w.times lower upper) }
  | _ => malformed

end Items

/-- Repetitions are bounded by numbers less than this. -/
def boundLimit : Nat := 4294967295

/-- Groups have numbers less than this. -/
def groupLimit : Nat := 1073741823

/-- How deep parts of a pattern can stand inside one another. As with `Json.maxDepth`, this is what
the running service has left of a thousand calls. -/
def maxDepth : Nat := 982

/-- A bound of a repetition, if one is given. -/
def bound (digits : List Char) : Reading (Option Nat) := do
  if digits.isEmpty then return none
  if Number.maxDigits < digits.length then throw (.beyond .digits)
  let n := valueOf 10 digits
  if boundLimit ≤ n then throw (.beyond .count)
  return some n

/-- The lower and the upper bound of a repetition. -/
def bounds (low high : List Char) : Reading (Nat × Option Nat) := do
  let lower := (← bound low).getD 0
  let upper ← bound high
  if upper.any (· < lower) then malformed
  return (lower, upper)

/-- A repetition after an opening brace; none where the brace stands for itself. -/
def braces : Reading (Option (Nat × Option Nat)) := do
  if (← peek) == some (.plain '\x7d') then return none
  let here ← get
  let low ← takeWhile Char.isDigit (← left)
  let high ← if ← accept ',' then takeWhile Char.isDigit (← left) else pure low
  if ← accept '\x7d' then return some (← bounds low high)
  else
    set here
    return none

/-- Repeat the last item, and read how eager the repetition is. -/
def repetition (s : Items) (lower : Nat) (upper : Option Nat) : Reading Items := do
  let s ← s.repeatLast lower upper
  if ← accept '?' then return s
  let _ ← accept '+'
  return s

/-- A character that begins a repetition. -/
def repeatSign (s : Items) : Char → Reading Items
  | '?' => repetition s 0 (some 1)
  | '*' => repetition s 0 none
  | '+' => repetition s 1 none
  | _ => do
    match ← braces with
    | some (lower, upper) => repetition s lower upper
    | none => return s.push .simple Width.one

/-- Skip to the end of a line. -/
def skipLine : Nat → Reading Unit
  | 0 => return
  | n + 1 => do
    match ← take with
    | none => return
    | some t => if t == .plain '\n' then return else skipLine n

/-- Skip to the end of a comment. -/
def skipComment : Nat → Reading Unit
  | 0 => malformed
  | n + 1 => do
    let t ← takeSome
    if t == .plain ')' then return else skipComment n

/-- A blank that verbose patterns can hold. -/
def isLayout (c : Char) : Bool :=
  c == ' ' || ('\t' ≤ c && c ≤ '\x0d')

/-- A name of a group is an identifier. -/
def groupName (mark : Char) : Reading String := do
  let cs ← name mark
  if !Text.isIdentifier cs then malformed
  return String.ofList cs

/-- The number of a group that has the name. -/
def groupNamed (s : String) : Reading Nat := do
  match (← get).names.lookup s with
  | some n => return n
  | none => malformed

/-- The group of a condition, by name or by number. A number can be given before its group. -/
def conditionGroup : Reading Nat := do
  let cs ← name ')'
  if Text.isIdentifier cs then groupNamed (String.ofList cs)
  else
    match Number.readInt? (String.ofList cs) with
    | some (.ofNat n) =>
      if n = 0 ∨ groupLimit ≤ n then malformed
      modify fun r => { r with conditions := n :: r.conditions }
      return n
    | _ => malformed

/-- Begin a group, which has to have a name of its own. -/
def openGroup (name? : Option String) : Reading Nat := do
  let r ← get
  let number := r.groups.length + 1
  if name?.any fun s => (r.names.lookup s).isSome then malformed
  set { r with
    groups := r.groups ++ [none]
    names := (name?.map fun s => (s, number)).toList ++ r.names }
  return number

/-- End a group. -/
def closeGroup (number : Nat) (w : Width) : Reading Unit :=
  modify fun r => { r with groups := r.groups.set (number - 1) (some w) }

/-- What an opening parenthesis begins. -/
inductive Opening where
  /-- A group with a number and perhaps a name. -/
  | capture (name? : Option String)
  /-- A group without a number, and flags that hold in it. -/
  | plain (on off : List Char)
  /-- What is looked for ahead of or behind a position. -/
  | look (behind : Bool)
  /-- A choice by whether a group has matched. -/
  | condition (group : Nat)
  /-- What a group has matched. -/
  | backreference (width : Width)
  /-- Flags of the whole pattern. -/
  | flags (on : List Char)
  /-- Nothing. -/
  | comment
  deriving Repr, Inhabited

/-- What comes after an opening parenthesis with a question mark and a P. -/
def named : Reading Opening := do
  if ← accept '<' then return .capture (some (← groupName '>'))
  else if ← accept '=' then return .backreference (← reference (← groupNamed (← groupName ')')))
  else malformed

/-- What comes after an opening parenthesis with a question mark. -/
def extension : Reading Opening := do
  match ← takeSome with
  | .plain 'P' => named
  | .plain ':' => return .plain [] []
  | .plain '>' => return .plain [] []
  | .plain '#' =>
    skipComment ((← left) + 1)
    return .comment
  | .plain '=' => return .look false
  | .plain '!' => return .look false
  | .plain '<' =>
    match ← takeSome with
    | .plain '=' => return .look true
    | .plain '!' => return .look true
    | _ => malformed
  | .plain '(' =>
    let n ← conditionGroup
    if (← get).behind?.isSome then
      let _ ← reference n
    return .condition n
  | .plain c =>
    if flagLetters.contains c || c == '-' then
      match ← flags c with
      | .whole on => return .flags on
      | .group on off => return .plain on off
    else malformed
  | _ => malformed

/-- What an opening parenthesis begins. -/
def opening : Reading Opening := do
  if ← accept '?' then extension else return .capture none

/-- Look behind a position for the length of a reading. -/
def lookingBehind {α : Type} (behind : Bool) (reading : Reading α) : Reading α := do
  if !behind then reading
  else
    let outer? := (← get).behind?
    modify fun r => { r with behind? := some (outer?.getD (r.groups.length + 1)) }
    let a ← reading
    modify fun r => { r with behind? := outer? }
    return a

mutual

/-- A choice between sequences. The first sequence of a pattern can set flags of the whole. -/
def alternatives : (fuel depth : Nat) → (verbose outermost first : Bool) → Reading Width
  | 0, _, _, _, _ => malformed
  | _, 0, _, _, _ => throw (.beyond .depth)
  | fuel + 1, depth + 1, verbose, outermost, first => do
    let w ← sequence fuel depth verbose (outermost && first) {}
    if ← accept '|' then
      let verbose ← if outermost then pure ((← get).flags.contains verboseLetter) else pure verbose
      return w.union (← alternatives fuel (depth + 1) verbose outermost false)
    else return w

/-- The items of a sequence up to a bar, a closing parenthesis or the end. -/
def sequence : (fuel depth : Nat) → (verbose first : Bool) → Items → Reading Width
  | 0, _, _, _, _ => malformed
  | _, 0, _, _, _ => throw (.beyond .depth)
  | fuel + 1, depth + 1, verbose, first, s => do
    match ← peek with
    | none => return s.width
    | some .dangling => malformed
    | some (.escaped c) =>
      let _ ← take
      let s ← match ← escape c with
        | .place => pure (s.push .place Width.zero)
        | .group w => pure (s.push .simple w)
        | _ => pure (s.push .simple Width.one)
      sequence fuel (depth + 1) verbose first s
    | some (.plain c) =>
      if c == '|' || c == ')' then return s.width
      let _ ← take
      if verbose && isLayout c then sequence fuel (depth + 1) verbose first s
      else if verbose && c == '#' then
        skipLine (← left)
        sequence fuel (depth + 1) verbose first s
      else if c == '(' then
        let (s, verbose) ← group fuel depth verbose first s (← opening)
        sequence fuel (depth + 1) verbose first s
      else
        let s ← if c == '[' then do
            charClass
            pure (s.push .simple Width.one)
          else if c == '^' || c == '$' then pure (s.push .place Width.zero)
          else if c == '?' || c == '*' || c == '+' || c == '\x7b' then repeatSign s c
          else pure (s.push .simple Width.one)
        sequence fuel (depth + 1) verbose first s

/-- A group after its opening: the items with the group, and whether what follows is verbose. -/
def group : (fuel depth : Nat) → (verbose first : Bool) → Items → Opening →
    Reading (Items × Bool)
  | 0, _, _, _, _, _ => malformed
  | fuel + 1, depth, verbose, first, s, opening => do
    match opening with
    | .comment => return (s, verbose)
    | .flags on =>
      modify fun r => { r with flags := on ++ r.flags }
      if !first || s.last?.isSome then malformed
      return (s, (← get).flags.contains verboseLetter)
    | .backreference w => return (s.push .simple w, verbose)
    | .look behind =>
      let w ← lookingBehind behind (alternatives fuel depth verbose false false)
      expect ')'
      if behind then modify fun r => { r with lookedBehind := w :: r.lookedBehind }
      return (s.push .simple Width.zero, verbose)
    | .condition _ =>
      let yes ← sequence fuel depth verbose false {}
      let no ← if ← accept '|' then sequence fuel depth verbose false {} else pure Width.zero
      expect ')'
      return (s.push .simple (yes.union no), verbose)
    | .plain on off =>
      let inner := (verbose || on.contains verboseLetter) && !off.contains verboseLetter
      let w ← alternatives fuel depth inner false false
      expect ')'
      return (s.push .simple w, verbose)
    | .capture name? =>
      let number ← openGroup name?
      let w ← alternatives fuel depth verbose false false
      expect ')'
      closeGroup number w
      return (s.push .simple w, verbose)

end

end Entitlements.Pattern
