import Entitlements.Http.Percent

/-!
# Queries and forms

Fields are separated by `&` and a name from its value by the first `=`. A field without a name
and a value is skipped. A name that is given more than once has a list of values.
-/

namespace Entitlements.Http

/-- The fields of a query, names in order of their first occurrence. -/
abbrev Fields := List (String × List String)

/-- Add a value to those a name already has. -/
def Fields.add (name value : String) : Fields → Fields
  | [] => [(name, [value])]
  | (n, vs) :: rest =>
    if n == name then (n, vs ++ [value]) :: rest else (n, vs) :: Fields.add name value rest

/-- Split a list at every occurrence of a separator. -/
def splitOnChar (sep : Char) : List Char → List (List Char)
  | [] => [[]]
  | c :: rest =>
    if c == sep then [] :: splitOnChar sep rest
    else match splitOnChar sep rest with
      | [] => [[c]]
      | part :: parts => (c :: part) :: parts

/-- The name and the value of a field. -/
def splitField (cs : List Char) : String × String :=
  (String.ofList (cs.takeWhile (· != '=')), String.ofList ((cs.dropWhile (· != '=')).drop 1))

/-- The fields of a query or a form. -/
def Fields.ofQuery (query : String) : Fields :=
  (splitOnChar '&' query.toList).foldl (fun fields part =>
    let (name, value) := splitField part
    if name.isEmpty && value.isEmpty then fields
    else Fields.add (decodePart name) (decodePart value) fields) []

/-- The value of a name; the last one where there are several. -/
def Fields.get? (fields : Fields) (name : String) : Option String :=
  (fields.lookup name).bind (·.getLast?)

end Entitlements.Http
