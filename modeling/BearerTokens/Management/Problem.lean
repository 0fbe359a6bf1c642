import BearerTokens.Filter.Basic
import BearerTokens.Http.Message

/-!
# Problems

A problem is an answer in which the service refuses or fails, as a JSON object
with a code and a message.  The answers that ask for credentials carry the
bearer challenge, and no others do.  What went wrong inside a store or the
source of randomness is not told.
-/

namespace BearerTokens

/-- An answer in which the service refuses or fails. -/
inductive Problem where
  | badRequest (message : String)
  | unauthorized (message : String)
  | forbidden (message : String)
  | notFound (message : String)
  | conflict (message : String)
  | internal
  deriving DecidableEq, Repr

namespace Problem

/-- The status of a problem. -/
def status : Problem → Nat
  | .badRequest _ => 400
  | .unauthorized _ => 401
  | .forbidden _ => 403
  | .notFound _ => 404
  | .conflict _ => 409
  | .internal => 500

/-- The code of a problem. -/
def code : Problem → String
  | .badRequest _ => "VALIDATION_ERROR"
  | .unauthorized _ => "UNAUTHORIZED"
  | .forbidden _ => "FORBIDDEN"
  | .notFound _ => "NOT_FOUND"
  | .conflict _ => "CONFLICT"
  | .internal => "INTERNAL_SERVER_ERROR"

/-- The message that the client sees. -/
def message : Problem → String
  | .badRequest message => message
  | .unauthorized message => message
  | .forbidden message => message
  | .notFound message => message
  | .conflict message => message
  | .internal => "internal server error"

/-- What diagnostics show of a problem. -/
def description : Problem → String
  | .badRequest message => "VALIDATION_ERROR: " ++ message
  | problem => problem.message

/-- The JSON body of a problem. -/
def body (problem : Problem) : Json :=
  .object [("error",
    .object [("code", .string problem.code), ("message", .string problem.message)])]

/-- The challenge that asks for a bearer token. -/
def challenge : String :=
  "Bearer realm=\"access-tokens\""

/-- The field of the challenge. -/
def challengeField : Http.Field :=
  .ofText "www-authenticate" challenge

/-- A problem as a response. -/
def response (problem : Problem) : Http.Response :=
  let response := Http.Response.json problem.status problem.body
  match problem with
  | .unauthorized _ => response.withField challengeField
  | _ => response

/-- How a failed operation on tokens is answered. -/
def ofTokenError : TokenError → Problem
  | .validation _ reason => .badRequest reason
  | .duplicate name => .conflict (TokenError.duplicate name).message
  | .notFound name => .notFound (TokenError.notFound name).message
  | .store _ => .internal
  | .entropy _ => .internal

/-- How a denied credential is answered. -/
def ofDenial (denial : Denial) : Problem :=
  .unauthorized denial.message

end Problem
end BearerTokens
