import BearerTokens.Secret.Basic
import BearerTokens.Time.Lifetime
import BearerTokens.Time.Timestamp

/-!
# Tokens

A token belongs to an owner, who knows it by its name.  A store assigns its
number and the time of its creation.
-/

namespace BearerTokens

/-- A token as it is handed to a store. -/
structure NewToken where
  owner : Int
  name : String
  description : Option String
  digest : Digest
  expiresAt : Int
  deriving DecidableEq, Repr

/-- A stored token. -/
structure Token where
  id : Int
  owner : Int
  name : String
  description : Option String
  digest : Digest
  expiresAt : Int
  createdAt : Timestamp
  deriving DecidableEq, Repr

namespace Token

/-- The stored form of a new token. -/
def ofNew (id : Int) (createdAt : Timestamp) (token : NewToken) : Token where
  id := id
  owner := token.owner
  name := token.name
  description := token.description
  digest := token.digest
  expiresAt := token.expiresAt
  createdAt := createdAt

/-- Whether a token has expired; at its expiry itself it is still good. -/
def isExpiredAt (token : Token) (now : Int) : Bool :=
  isPast token.expiresAt now

end Token
end BearerTokens
