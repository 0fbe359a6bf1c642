import BearerTokens.Activity
import BearerTokens.Filter.Credential
import BearerTokens.Lifecycle.Basic
import BearerTokens.Time.Duration

/-!
# The bearer filter

The filter decides once for each request.  Without a recognised token the
request passes through, and others decide about anonymous access.  A recognised
token that cannot be used is denied.  The store and the directory are asked
under one common limit of time.
-/

namespace BearerTokens

/-- Why a recognised credential is refused. -/
inductive Denial where
  | expired
  | disabledUser
  | token (cause : TokenError)
  | directory (cause : DirectoryError)
  | timedOut
  deriving DecidableEq, Repr

/-- The text of a refusal. -/
def Denial.message : Denial → String
  | .expired => "Specified token is expired"
  | .disabledUser => "User for the token is disabled by admin"
  | .token cause => cause.message
  | .directory cause => cause.message
  | .timedOut => "Timed out while authenticating the access token"

/-- A user together with the token that was presented. -/
structure Authenticated where
  user : User
  tokenId : Int
  tokenName : String
  deriving DecidableEq, Repr

/-- What the filter decides. -/
inductive Outcome where
  | passThrough (reason : PassThrough)
  | denied (reason : Denial)
  | authenticated (bearer : Authenticated)
  deriving DecidableEq, Repr

/-- The settings of the filter. -/
structure Filter where
  enabled : Bool
  /-- The limit on the look-ups of one request, in milliseconds. -/
  lookupTimeout : Nat
  deriving DecidableEq, Repr

namespace Filter

/-! ## Checking a secret -/

/-- Check the owner of an unexpired token. -/
def checkOwner (row : Token) : Except DirectoryError User → Except Denial (Option Authenticated)
  | .error cause => .error (.directory cause)
  | .ok user =>
    if user.enabled then .ok (some ⟨user, row.id, row.name⟩) else .error .disabledUser

/-- Check a token that the store has found, its expiry before its owner. -/
def verifyRow (row : Token) : Procedure (Except Denial (Option Authenticated)) :=
  .ask .now fun now =>
    if row.isExpiredAt now then .done (.error .expired)
    else .ask (.load row.owner) fun answer => .done (checkOwner row answer)

/-- Check a presented secret; an unknown one is no error. -/
def verify (secret : String) : Procedure (Except Denial (Option Authenticated)) :=
  (Lifecycle.resolve secret).bind fun found =>
    match found with
    | .error cause => .done (.error (.token cause))
    | .ok none => .done (.ok none)
    | .ok (some row) => verifyRow row

/-- The decision on a secret that was checked, or whose check ran out of time. -/
def outcome : Option (Except Denial (Option Authenticated)) → Outcome
  | none => .denied .timedOut
  | some (.error reason) => .denied reason
  | some (.ok none) => .passThrough .unknownToken
  | some (.ok (some bearer)) => .authenticated bearer

/-! ## The decision -/

variable {σ : Type}

/-- Decide about a request with the given Authorization values. -/
def authenticate (filter : Filter) (environment : Environment σ)
    (authorization : List (List UInt8)) : Activity σ Outcome :=
  if filter.enabled then
    match presentedSecret authorization with
    | .error reason => .done (.passThrough reason)
    | .ok secret =>
      (Activity.within filter.lookupTimeout ((verify secret).run environment)).bind
        fun result => .done (outcome result)
  else .done (.passThrough .disabled)

/-! ## Diagnostics -/

/-- What diagnostics show of the filter. -/
def description (filter : Filter) : String :=
  "BearerAuthenticator \x7b enabled: " ++ (if filter.enabled then "true" else "false") ++
    ", lookup_timeout: " ++ Duration.text filter.lookupTimeout ++ ", .. \x7d"

/-- What diagnostics show of the token service. -/
def serviceDescription : String :=
  "AccessTokenService \x7b .. \x7d"

end Filter
end BearerTokens
