import Entitlements.Fault
import Entitlements.Number.Integer
import Entitlements.Text.Classes

/-!
# Parameters

How the fields of a body are read as texts and integers. Any value has a text; blank texts count
as missing. Integers can be given as numbers, which lose their fraction, as truth values, or as
texts of digits.
-/

namespace Entitlements.Http

open Entitlements.Json

/-- The text of a field, which must be there and not blank. -/
def mandatory (fields : List (String × Value)) (name : String) : Except Fault String :=
  match Value.field fields name with
  | .null => .error (.refused (.parameterMissing name))
  | .text s => if Text.isBlankText s then .error (.refused (.parameterMissing name)) else .ok s
  | v => .ok v.display

/-- The text of a field without the blanks around it, if anything is left. -/
def optionalText (fields : List (String × Value)) (name : String) : Option String :=
  match Value.field fields name with
  | .null => none
  | v =>
    let s := Text.trim v.display
    if s.isEmpty then none else some s

/-- The integer that a value stands for. -/
def integerOf (name : String) : Value → Except Fault Int
  | .int n => .ok n
  | .bool b => .ok (if b then 1 else 0)
  | .number (.infinite _) => .error .infiniteInteger
  | .number d =>
    match d.truncate? with
    | some n => .ok n
    | none => .error (.refused (.parameterNotInteger name))
  | .text s =>
    match Number.readInt? s with
    | some n => .ok n
    | none => .error (.refused (.parameterNotInteger name))
  | _ => .error (.refused (.parameterNotInteger name))

/-- The integer of a field, if one is given. -/
def optionalInteger (fields : List (String × Value)) (name : String) :
    Except Fault (Option Int) :=
  match Value.field fields name with
  | .null => .ok none
  | v => if v matches .text "" then .ok none else (integerOf name v).map some

end Entitlements.Http
