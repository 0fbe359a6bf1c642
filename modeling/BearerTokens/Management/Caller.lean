import BearerTokens.Filter.Basic
import BearerTokens.Management.Problem

/-!
# Callers

A request that the filter authenticated is handled for a caller.  Each
authentication starts a session of its own; a caller that came with the request
is replaced, never reused.
-/

namespace BearerTokens

/-- On whose behalf a request is handled. -/
structure Caller where
  userId : Int
  userName : String
  displayName : String
  authorities : List String
  session : String
  tokenName : String
  deriving DecidableEq, Repr

namespace Caller

/-- The caller of a bearer, in a new session. -/
def ofBearer (bearer : Authenticated) (session : String) : Caller where
  userId := bearer.user.id
  userName := bearer.user.name
  displayName := bearer.user.displayName
  authorities := bearer.user.authorities
  session := session
  tokenName := bearer.tokenName

/-- The JSON form of a caller. -/
def json (caller : Caller) : Json :=
  .object [
    ("authorities", .array (caller.authorities.map .string)),
    ("display_name", .string caller.displayName),
    ("session", .string caller.session),
    ("token_name", .string caller.tokenName),
    ("user_id", .integer caller.userId),
    ("user_name", .string caller.userName)]

/-- The caller that a management operation needs. -/
def require (authEnabled : Bool) (caller : Option Caller) : Except Problem Caller :=
  if authEnabled then
    match caller with
    | some caller => .ok caller
    | none => .error (.unauthorized "Authentication is required")
  else .error (.forbidden "Authentication must be enabled to manage access tokens")

end Caller
end BearerTokens
