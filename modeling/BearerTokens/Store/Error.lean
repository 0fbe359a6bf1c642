/-!
# Errors of a store

A store refuses a token that breaks a uniqueness rule or names an owner that
does not exist.  Everything else that goes wrong is a failure of the database
behind it.
-/

namespace BearerTokens

/-- A failure of the database. -/
inductive DatabaseError where
  | poolTimedOut
  | poolClosed
  | rowNotFound
  /-- A failure that the database reported in its own words. -/
  | reported (message : String)
  /-- A failure of any other kind, such as a broken connection, with its text. -/
  | other (text : String)
  deriving DecidableEq, Repr

/-- The text of a database failure. -/
def DatabaseError.message : DatabaseError → String
  | .poolTimedOut => "pool timed out while waiting for an open connection"
  | .poolClosed => "attempted to acquire a connection on a closed pool"
  | .rowNotFound =>
    "no rows returned by a query that expected to return at least one row"
  | .reported message => "error returned from database: " ++ message
  | .other text => text

/-- Why a store did not do what it was asked. -/
inductive StoreError where
  | database (cause : DatabaseError)
  /-- A token of that owner and name, or with that digest, is already there. -/
  | conflict
  | unknownOwner
  deriving DecidableEq, Repr

namespace StoreError

/-- The code of a broken uniqueness rule. -/
def uniqueViolation : String := "23505"

/-- The code of a reference to a missing row. -/
def foreignKeyViolation : String := "23503"

/-- The meaning of a failure that the database reported with an optional code. -/
def ofReport (message : String) (code : Option String) : StoreError :=
  if code = some uniqueViolation then .conflict
  else if code = some foreignKeyViolation then .unknownOwner
  else .database (.reported message)

/-- The text of a store error. -/
def message : StoreError → String
  | .database cause => "db error: " ++ cause.message
  | .conflict => "conflict"
  | .unknownOwner => "owner does not exist"

end StoreError
end BearerTokens
