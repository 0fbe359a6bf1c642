import BearerTokens.Number.Decimal
import BearerTokens.Store.Error

/-!
# Errors of the token lifecycle
-/

namespace BearerTokens

/-- The part of a new token that was refused. -/
inductive TokenField where
  | owner
  | name
  | description
  deriving DecidableEq, Repr

/-- Why an operation on tokens failed. -/
inductive TokenError where
  | validation (field : TokenField) (reason : String)
  | duplicate (name : String)
  | notFound (name : String)
  | store (cause : StoreError)
  | entropy (reason : String)
  deriving DecidableEq, Repr

namespace TokenError

/-- The longest name in characters. -/
def maxNameLength : Nat := 255

/-- The longest description in characters. -/
def maxDescriptionLength : Nat := 512

/-- The refusal of an owner. -/
def invalidOwner (owner : Int) : TokenError :=
  .validation .owner
    ("User id with value '" ++ Decimal.text owner ++
      "' is not permitted. Access Token must be associated with a valid user-id.")

/-- The refusal of a name that is too long. -/
def nameTooLong : TokenError :=
  .validation .name
    ("Token name must not exceed " ++ Decimal.text maxNameLength ++ " characters.")

/-- The refusal of a description that is too long. -/
def descriptionTooLong : TokenError :=
  .validation .description
    ("Token description must not exceed " ++ Decimal.text maxDescriptionLength ++ " characters.")

/-- The text of an error. -/
def message : TokenError → String
  | .validation _ reason => reason
  | .duplicate name => "Token with name '" ++ name ++ "' already exist."
  | .notFound name => "The token with name '" ++ name ++ "' was not found."
  | .store cause => "token store failure: " ++ cause.message
  | .entropy reason => "secure random source unavailable: " ++ reason

end TokenError
end BearerTokens
