import Entitlements.Http.Percent
import Entitlements.Json.Value
import Entitlements.Text.Classes

/-!
# Requests and responses

What comes in over the web and what goes out. Names of headers are compared without their case.
A response without a body differs from one whose body is an empty object.
-/

namespace Entitlements.Http

open Entitlements.Json

/-- A request from the web. -/
structure Incoming where
  /-- The method. -/
  method : String
  /-- The path in percent-encoding. -/
  path : String
  /-- The query in percent-encoding. -/
  query : String := ""
  /-- The headers. -/
  headers : List (String × String) := []
  /-- The media type of the body, if given. -/
  contentType? : Option String := none
  /-- The body. -/
  body : List UInt8 := []
  deriving Inhabited

namespace Incoming

/-- The value of a header, blanks around it dropped; empty where there is none. -/
def header (r : Incoming) (name : String) : String :=
  String.intercalate "," ((r.headers.filter (·.1.toLower == name.toLower)).map
    fun h => Text.trim h.2)

/-- The path as text. -/
def route (r : Incoming) : String := decodePercent r.path

end Incoming

/-- A response to the web. -/
structure Response where
  /-- The status code. -/
  status : Nat
  /-- The body, if there is one. -/
  body? : Option Value := none
  /-- The headers. -/
  headers : List (String × String) := []
  deriving Inhabited

namespace Response

/-- The header that names the media type of a body. -/
def jsonHeader : String × String := ("content-type", "application/json")

/-- A response with a body. -/
def json (status : Nat) (body : Value) (headers : List (String × String) := []) : Response :=
  ⟨status, some body, jsonHeader :: headers⟩

/-- Add a value to a header that can have several. -/
def append (name value : String) : List (String × String) → List (String × String)
  | [] => [(name, value)]
  | (n, v) :: rest =>
    if n == name then (n, v ++ ", " ++ value) :: rest else (n, v) :: append name value rest

/-- The response without its body. -/
def withoutBody (r : Response) : Response := { r with body? := none }

end Response

end Entitlements.Http
