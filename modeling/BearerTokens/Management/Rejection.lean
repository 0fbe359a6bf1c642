import BearerTokens.Http.MediaType
import BearerTokens.Http.Message
import BearerTokens.Management.Decoding

/-!
# Rejections

A request that an authenticated user sends may be unreadable before it can be
wrong: its name may not be text, or its body may be missing a content type, too
long, malformed or of the wrong shape.  Rejections are answered in plain text.
-/

namespace BearerTokens

/-- Why a request could not be read. -/
inductive Rejection where
  | undecodableName
  | unsupportedMediaType
  | bodyTooLong
  | malformedBody
  | mismatch (cause : Mismatch)
  deriving DecidableEq, Repr

namespace Rejection

/-- The status of a rejection. -/
def status : Rejection → Nat
  | .undecodableName => 400
  | .unsupportedMediaType => 415
  | .bodyTooLong => 413
  | .malformedBody => 400
  | .mismatch _ => 422

/-- The text of a rejection. -/
def text : Rejection → String
  | .undecodableName => "Invalid URL: Invalid UTF-8 in \x60name\x60"
  | .unsupportedMediaType => "Expected request with \x60Content-Type: application/json\x60"
  | .bodyTooLong => "Failed to buffer the request body: length limit exceeded"
  | .malformedBody => "Failed to parse the request body as JSON"
  | .mismatch cause =>
    "Failed to deserialize the JSON body into the target type: " ++ cause.text

/-- A rejection as a response. -/
def response (rejection : Rejection) : Http.Response :=
  .plain rejection.status rejection.text

end Rejection

/-- The longest body in bytes. -/
def maxBodyLength : Nat := 65536

/-- Whether a request declares its body to be JSON. -/
def declaresJson (request : Http.Request) : Bool :=
  match (request.value? "content-type").bind Http.visibleText? with
  | none => false
  | some mediaType => Http.isJson mediaType

/-- The request to create a token in a body of at most the given length. -/
def CreateRequest.ofBody (request : Http.Request) (limit : Nat) :
    Except Rejection CreateRequest :=
  if !declaresJson request then .error .unsupportedMediaType
  else if limit < request.body.length then .error .bodyTooLong
  else
    match CreateRequest.decode request.body with
    | .ok wanted => .ok wanted
    | .error .malformed => .error .malformedBody
    | .error (.mismatch cause) => .error (.mismatch cause)

end BearerTokens
