import Entitlements.Fault
import Entitlements.Http.Message

/-!
# Problems

Requests that are wrong as messages, whatever they ask for, and the responses to whatever fails.
Problems of the message have a title and depend on the media types that the client accepts;
refusals are given in their own words, and any other fault is kept from the client.
-/

namespace Entitlements.Http

open Entitlements.Json

/-- What is wrong with a request as a message. -/
inductive Problem where
  /-- There is nothing at the path. -/
  | noRoute
  /-- The method is not one of the methods of the web. -/
  | unknownMethod
  /-- The method is not one of those that are allowed at the path. -/
  | methodNotAllowed (allowed : List String)
  /-- The body has a media type that is not read. -/
  | unsupportedMediaType (name : String)
  /-- The body is not what its media type says. -/
  | malformedBody (format : String)
  /-- A parameter of the query is no integer. -/
  | parameterNotInteger (name : String)
  deriving DecidableEq, Repr, Inhabited

namespace Problem

/-- The status code of a problem. -/
def status : Problem → Nat
  | .noRoute => 404
  | .unknownMethod => 400
  | .methodNotAllowed _ => 405
  | .unsupportedMediaType _ => 415
  | .malformedBody _ => 400
  | .parameterNotInteger _ => 400

/-- The title of a problem. -/
def title : Problem → String
  | .noRoute => "404 Not Found"
  | .unknownMethod => "Bad request"
  | .methodNotAllowed _ => "405 Method Not Allowed"
  | .unsupportedMediaType _ => "415 Unsupported Media Type"
  | .malformedBody format => "Invalid " ++ format
  | .parameterNotInteger _ => "Invalid parameter"

/-- What a problem says beside its title. -/
def description? : Problem → Option String
  | .unknownMethod => some "Invalid HTTP method"
  | .unsupportedMediaType name => some (name ++ " is an unsupported media type.")
  | .parameterNotInteger name =>
    some ("The \"" ++ name ++ "\" parameter is invalid. The value must be an integer.")
  | _ => none

/-- The response to a problem. -/
def response (p : Problem) : Response :=
  let allow := match p with
    | .methodNotAllowed allowed => [("allow", String.intercalate ", " allowed)]
    | _ => []
  let description := (p.description?.map fun d => ("description", Value.text d)).toList
  Response.json p.status (.object (("title", .text p.title) :: description))
    (("vary", "Accept") :: allow)

end Problem

/-- Why a request is not met. -/
inductive Failure where
  /-- The message is wrong. -/
  | problem (p : Problem)
  /-- What was asked for failed. -/
  | fault (f : Fault)
  deriving Inhabited

/-- The status code of a refusal; none where the cause is kept from the client. -/
def statusOf? : Category → Option Nat
  | .general => none
  | .unauthorized => some 401
  | .denied => some 403
  | .notFound => some 404
  | .precondition | .validation => some 400

/-- The response to a fault whose cause is kept from the client. -/
def internalError : Response :=
  Response.json 500 (.object [("title", .text "500 Internal Server Error")])

/-- The response to a fault that the client is told of. -/
def refusalResponse? : Fault → Option Response
  | .refused r => (statusOf? r.category).map fun status =>
    Response.json status (.object [("error", .text r.message)])
  | _ => none

end Entitlements.Http
