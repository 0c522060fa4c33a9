import Entitlements.Number.Shortest
import Entitlements.Text.Quoted

/-!
# Structured values

Values of request bodies and of token answers, and the text by which a value of any kind stands
where a plain text is asked for: a text is itself, truth values and nothing are capitalised
words, lists and objects show their members in quoted form and in the order given.
-/

namespace Entitlements.Json

open Entitlements.Number Entitlements.Text

/-- A structured value. Fields of an object keep their order. -/
inductive Value where
  /-- Nothing. -/
  | null
  /-- A truth value. -/
  | bool (b : Bool)
  /-- An integer of any size. -/
  | int (n : Int)
  /-- A number with a fraction or an exponent. -/
  | number (d : Double)
  /-- A text. -/
  | text (s : String)
  /-- A list. -/
  | list (items : List Value)
  /-- An object. -/
  | object (fields : List (String × Value))
  deriving Inhabited, Repr

namespace Value

/-- Nothing, false, zero and whatever is empty count as absent. -/
def isTruthy : Value → Bool
  | .null => false
  | .bool b => b
  | .int n => n != 0
  | .number (.finite _ m _) => m != 0
  | .number _ => true
  | .text s => !s.isEmpty
  | .list items => !items.isEmpty
  | .object fields => !fields.isEmpty

mutual

/-- The quoted form of a value. -/
def quoted : Value → String
  | .null => "None"
  | .bool b => if b then "True" else "False"
  | .int n => toString n
  | .number d => d.text
  | .text s => quote s
  | .list items => "[" ++ String.intercalate ", " (quotedItems items) ++ "]"
  | .object fields => "\x7b" ++ String.intercalate ", " (quotedFields fields) ++ "\x7d"

/-- The quoted forms of a list's members. -/
def quotedItems : List Value → List String
  | [] => []
  | v :: rest => v.quoted :: quotedItems rest

/-- The quoted forms of an object's fields. -/
def quotedFields : List (String × Value) → List String
  | [] => []
  | (name, v) :: rest => (quote name ++ ": " ++ v.quoted) :: quotedFields rest

end

/-- The text of a value. -/
def display : Value → String
  | .text s => s
  | v => v.quoted

/-- A field of an object; nothing where the object has no such field. -/
def field (fields : List (String × Value)) (name : String) : Value :=
  match fields.find? (·.1 == name) with
  | some (_, v) => v
  | none => .null

end Value

/-- Give a field its value: a field that is already there keeps its place. -/
def setField (name : String) (v : Value) : List (String × Value) → List (String × Value)
  | [] => [(name, v)]
  | (n, w) :: rest => if n == name then (n, v) :: rest else (n, w) :: setField name v rest

end Entitlements.Json
