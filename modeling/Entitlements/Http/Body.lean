import Entitlements.Http.Problem
import Entitlements.Http.Query
import Entitlements.Json.Reader
import Entitlements.Text.Utf8

/-!
# Bodies

The body of a request is an object, written as JSON or as a form. An empty body, or none, is an
empty object. A field that a form gives more than once has a list of texts.
-/

namespace Entitlements.Http

open Entitlements.Json

/-- A media type that bodies can have. -/
inductive Media where
  | json
  | form
  deriving DecidableEq, Repr, Inhabited

/-- The names of media types. -/
def Media.names : List (String × Media) :=
  [("application/json", .json), ("application/x-www-form-urlencoded", .form)]

/-- The media type of a name, which can have parameters. -/
def Media.ofName? (name : String) : Option Media :=
  (splitOnChar ',' name.toList).findSome? fun part =>
    Media.names.lookup (String.ofList (Text.trimChars (part.takeWhile (· != ';'))))

/-- The media type of a request, JSON where none is given. -/
def Incoming.media (r : Incoming) : Except Problem Media :=
  match r.contentType?.filter (!·.isEmpty) with
  | none => .ok .json
  | some name =>
    match Media.ofName? name with
    | some m => .ok m
    | none => .error (.unsupportedMediaType name)

/-- The value of a form. -/
def formValue (fields : Fields) : Value :=
  .object (fields.map fun (name, values) =>
    (name, match values with
      | [v] => .text v
      | vs => .list (vs.map .text)))

/-- The value of a JSON text. -/
def readJson (bytes : List UInt8) : Except Failure Value :=
  match Text.decodeStrict? bytes with
  | none => .error (.problem (.malformedBody "JSON"))
  | some text =>
    match Json.read text with
    | .ok v => .ok v
    | .error .malformed => .error (.problem (.malformedBody "JSON"))
    | .error .tooDeep => .error (.fault .bodyTooDeep)

/-- The value of a form. -/
def readForm (bytes : List UInt8) : Except Failure Value :=
  if bytes.any (0x80 ≤ ·) then .error (.problem (.malformedBody "URL-encoded"))
  else .ok (formValue (Fields.ofQuery (Text.decodeLenient bytes)))

/-- The value of a body. -/
def Incoming.value (r : Incoming) : Except Failure Value :=
  match r.media with
  | .error p => .error (.problem p)
  | .ok .form => readForm r.body
  | .ok .json => if r.body.isEmpty then .ok (.object []) else readJson r.body

/-- The fields of a body. -/
def Incoming.fields (r : Incoming) : Except Failure (List (String × Value)) := do
  match ← r.value with
  | .object fields => return fields
  | _ => throw (.fault (.refused .bodyNotObject))

end Entitlements.Http
