import Entitlements.Json.Value

/-!
# Writing structured values

The notation of a structured value. Only what must be escaped in a text is escaped; numbers that
are not finite have the words for them that the reader knows.
-/

namespace Entitlements.Json

open Entitlements.Number Entitlements.Text

/-- A character within the marks of a text. -/
def escapeChar (c : Char) : List Char :=
  if c == '"' || c == '\\' then ['\\', c]
  else if c == '\n' then ['\\', 'n']
  else if c.toNat < 0x20 then
    '\\' :: 'u' :: hexDigits 4 c.toNat
  else [c]

/-- A text in its marks. -/
def writeText (s : String) : String :=
  String.ofList ('"' :: (s.toList.flatMap escapeChar ++ ['"']))

/-- A number. -/
def writeNumber : Double → String
  | .undefined => "NaN"
  | .infinite negative => if negative then "-Infinity" else "Infinity"
  | d => d.text

namespace Value

mutual

/-- The notation of a value. -/
def write : Value → String
  | .null => "null"
  | .bool b => if b then "true" else "false"
  | .int n => toString n
  | .number d => writeNumber d
  | .text s => writeText s
  | .list items => "[" ++ String.intercalate "," (writeItems items) ++ "]"
  | .object fields => "\x7b" ++ String.intercalate "," (writeFields fields) ++ "\x7d"

/-- The notations of a list's members. -/
def writeItems : List Value → List String
  | [] => []
  | v :: rest => v.write :: writeItems rest

/-- The notations of an object's fields. -/
def writeFields : List (String × Value) → List String
  | [] => []
  | (name, v) :: rest => (writeText name ++ ":" ++ v.write) :: writeFields rest

end

end Value

end Entitlements.Json
