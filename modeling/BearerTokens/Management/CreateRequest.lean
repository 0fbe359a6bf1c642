import BearerTokens.Text.Blank
import BearerTokens.Time.Lifetime

/-!
# Requests to create a token

A request names the token, may describe it, and gives its lifetime in hours.
-/

namespace BearerTokens

/-- What a client asks for when it creates a token. -/
structure CreateRequest where
  name : String
  description : Option String
  hours : Int
  deriving DecidableEq, Repr

namespace CreateRequest

/-- What is wrong with a request before its expiry is computed. -/
def objection? (request : CreateRequest) : Option String :=
  if Text.allBlank request.name then some "name is required"
  else if request.hours ≤ 0 then some "expires_in_hours must be a positive number of hours"
  else none

/-- When a token requested now would expire. -/
def expiresAt (request : CreateRequest) (now : Int) : Option Int :=
  hoursAfter now request.hours

end CreateRequest
end BearerTokens
