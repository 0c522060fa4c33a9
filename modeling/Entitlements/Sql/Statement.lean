import Entitlements.Instant
import Entitlements.Json.Value

/-!
# Statements

A statement is made of words and of places for values. The text that goes to the database holds
the words and a mark for every place; the values go beside it, in the order of the marks or under
the names in them.
-/

namespace Entitlements.Sql

/-- A value that goes to the database. -/
inductive Datum where
  /-- A text. -/
  | text (s : String)
  /-- An integer. -/
  | int (n : Int)
  /-- A truth value. -/
  | bool (b : Bool)
  /-- A moment. -/
  | time (t : Instant)
  /-- Nothing. -/
  | null
  deriving DecidableEq, Repr, Inhabited

namespace Datum

/-- A text that can be missing. -/
def ofText? : Option String → Datum
  | some s => .text s
  | none => .null

/-- An integer that can be missing. -/
def ofInt? : Option Int → Datum
  | some n => .int n
  | none => .null

/-- The value as a report of the exchange shows it. -/
def toValue : Datum → Json.Value
  | .text s => .text s
  | .int n => .int n
  | .bool b => .bool b
  | .time t => .text t.text
  | .null => .null

end Datum

/-- A piece of a statement. -/
inductive Piece where
  /-- Words. -/
  | words (s : String)
  /-- A place for a value. -/
  | place (d : Datum)
  /-- A place for a value that goes under a name. -/
  | named (name : String) (d : Datum)
  deriving DecidableEq, Repr

/-- A part of a statement, or all of it. -/
abbrev Fragment := List Piece

/-- The text of a piece. -/
def Piece.text : Piece → String
  | .words s => s
  | .place _ => "%s"
  | .named name _ => "%(" ++ name ++ ")s"

namespace Fragment

/-- The text of a fragment. -/
def text (f : Fragment) : String := String.join (f.map Piece.text)

/-- The values that go beside the text in the order of the marks. -/
def values (f : Fragment) : List Datum :=
  f.filterMap fun
    | .place d => some d
    | _ => none

/-- Put a value under its name, unless the name is taken. -/
def collect (name : String) (d : Datum) (known : List (String × Datum)) :
    List (String × Datum) :=
  if known.any (·.1 == name) then known else known ++ [(name, d)]

/-- The values that go beside the text under names, each name once. -/
def namedValues (f : Fragment) : List (String × Datum) :=
  f.foldl (fun known piece => match piece with
    | .named name d => collect name d known
    | _ => known) []

end Fragment

/-- What goes beside the text of a statement. -/
inductive Binding where
  /-- Nothing does. -/
  | none
  /-- Values in the order of the marks. -/
  | ordered (values : List Datum)
  /-- Values under the names of the marks. -/
  | named (values : List (String × Datum))
  deriving DecidableEq, Repr

/-- What goes beside the text of a fragment. No statement mixes the two kinds of places. -/
def Fragment.binding (f : Fragment) : Binding :=
  match f.values, f.namedValues with
  | [], [] => .none
  | [], named => .named named
  | values, _ => .ordered values

end Entitlements.Sql
