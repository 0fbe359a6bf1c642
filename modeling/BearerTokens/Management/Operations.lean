import BearerTokens.Management.Caller
import BearerTokens.Management.Rejection
import BearerTokens.Management.Route
import BearerTokens.Text.Percent

/-!
# Management operations

Each operation checks the caller first, then reads the rest of the request, and
only then touches the store.  A caller sees and changes no tokens but its own.
-/

namespace BearerTokens

/-! ## Documents -/

/-- The JSON form of a token, without its secret. -/
def Token.json (token : Token) : Json :=
  .object [
    ("name", .string token.name),
    ("description", .ofText? token.description),
    ("expires_at", .integer token.expiresAt),
    ("created_at", .string token.createdAt.text)]

/-- The JSON form of a token that has just been issued, with its secret. -/
def issuedJson (request : CreateRequest) (expiresAt : Int) (secret : Secret) : Json :=
  .object [
    ("name", .string request.name),
    ("description", .ofText? request.description),
    ("expires_at", .integer expiresAt),
    ("token", .string secret.text)]

/-- The JSON form of the message that a token is gone. -/
def revokedJson (name : String) : Json :=
  .object [("message", .string ("The token '" ++ name ++ "' was successfully deleted."))]

namespace Management

/-! ## Answers -/

/-- Answer a result with a document, or the failure with a problem. -/
def answer {α : Type} (status : Nat) (document : α → Json) :
    Except TokenError α → Http.Response
  | .ok value => .json status (document value)
  | .error cause => (Problem.ofTokenError cause).response

/-- Answer a look-up of a token by name. -/
def foundResponse (name : String) :
    Except TokenError (Option Token) → Http.Response
  | .ok (some row) => .json 200 row.json
  | .ok none => (Problem.ofTokenError (.notFound name)).response
  | .error cause => (Problem.ofTokenError cause).response

/-! ## Operations of a caller -/

/-- List the caller's tokens. -/
def list (caller : Caller) : Procedure Http.Response :=
  (Lifecycle.list caller.userId).map (answer 200 fun rows => .array (rows.map Token.json))

/-- Find the caller's token of a name. -/
def find (caller : Caller) (name : String) : Procedure Http.Response :=
  (Lifecycle.find caller.userId name).map (foundResponse name)

/-- Issue a token to the caller, with a lifetime from now on. -/
def create (caller : Caller) (request : CreateRequest) : Procedure Http.Response :=
  match request.objection? with
  | some objection => .done (Problem.badRequest objection).response
  | none =>
    .ask .now fun now =>
      match request.expiresAt now with
      | none => .done (Problem.badRequest "expires_in_hours is too large").response
      | some expiresAt =>
        (Lifecycle.issue caller.userId request.name request.description expiresAt).map
          (answer 201 (issuedJson request expiresAt))

/-- Revoke the caller's token of a name. -/
def revoke (caller : Caller) (name : String) : Procedure Http.Response :=
  (Lifecycle.revoke caller.userId name).map (answer 200 fun _ => revokedJson name)

/-! ## Requests -/

/-- The token name of a segment: its escapes decoded once, if that gives a text. -/
def nameOf (segment : List Char) : Except Rejection String :=
  match Percent.decodeText? (Utf8.encode (String.ofList segment)) with
  | some name => .ok name
  | none => .error .undecodableName

/-- Go on with the name of a segment. -/
def withName (segment : List Char) (next : String → Procedure Http.Response) :
    Procedure Http.Response :=
  match nameOf segment with
  | .error rejection => .done rejection.response
  | .ok name => next name

end Management

namespace Operation

/-- Handle an operation for a caller. -/
def handleFor (operation : Operation) (caller : Caller) (request : Http.Request)
    (bodyLimit : Nat) : Procedure Http.Response :=
  match operation with
  | .health => .done (.plain 200 "ok")
  | .list => Management.list caller
  | .create =>
    match CreateRequest.ofBody request bodyLimit with
    | .error rejection => .done rejection.response
    | .ok wanted => Management.create caller wanted
  | .find segment => Management.withName segment (Management.find caller)
  | .revoke segment => Management.withName segment (Management.revoke caller)

/-- Handle an operation; all but the health route need a caller. -/
def handle (operation : Operation) (authEnabled : Bool) (caller : Option Caller)
    (request : Http.Request) (bodyLimit : Nat) : Procedure Http.Response :=
  match operation with
  | .health => .done (.plain 200 "ok")
  | operation =>
    match Caller.require authEnabled caller with
    | .error problem => .done problem.response
    | .ok caller => operation.handleFor caller request bodyLimit

end Operation
end BearerTokens
