import BearerTokens.Number.Decimal
import BearerTokens.Store.Error
import BearerTokens.Store.Index

/-!
# The user directory

A directory knows the users that own tokens, whether each may sign in, and the
authorities that each holds.  Authorities are kept sorted and without
duplicates.
-/

namespace BearerTokens

/-- A user as the directory knows it. -/
structure User where
  id : Int
  name : String
  displayName : String
  enabled : Bool
  authorities : List String
  deriving DecidableEq, Repr

/-- Why the directory gave no user. -/
inductive DirectoryError where
  | unknownUser (id : Int)
  | backend (cause : StoreError)
  deriving DecidableEq, Repr

/-- The text of a directory error. -/
def DirectoryError.message : DirectoryError → String
  | .unknownUser id => "user with id '" ++ Decimal.text id ++ "' does not exist"
  | .backend cause => "user directory unavailable: " ++ cause.message

/-- Put an authority in its place among sorted ones, unless it is there. -/
def insertAuthority (authority : String) : List String → List String
  | [] => [authority]
  | next :: rest =>
    if authority < next then authority :: next :: rest
    else if authority = next then next :: rest
    else next :: insertAuthority authority rest

/-- Authorities in order, each once. -/
def sortAuthorities (authorities : List String) : List String :=
  authorities.foldr insertAuthority []

/-- The authority of every user named in the settings. -/
def userAuthority : String := "ROLE_USER"

namespace User

/-- A user from the columns of a directory; the display name falls back to the name. -/
def ofColumns (id : Int) (name : String) (displayName : Option String) (enabled : Bool)
    (roles : List String) : User where
  id := id
  name := name
  displayName := displayName.getD name
  enabled := enabled
  authorities := sortAuthorities roles

/-- An ordinary user. -/
def ordinary (id : Int) (name : String) (enabled : Bool) : User :=
  .ofColumns id name none enabled [userAuthority]

end User

/-- The users by number. -/
structure UserDirectory where
  users : Index Int User
  deriving DecidableEq, Repr

namespace UserDirectory

/-- Add a user in place of any earlier one of the same number. -/
def insert (directory : UserDirectory) (user : User) : UserDirectory :=
  ⟨directory.users.insert user.id user⟩

/-- The directory of a list of users; the last of a number counts. -/
def ofList (users : List User) : UserDirectory :=
  users.foldl insert ⟨.empty⟩

/-- The user of a number. -/
def load (directory : UserDirectory) (id : Int) : Except DirectoryError User :=
  match directory.users.get? id with
  | some user => .ok user
  | none => .error (.unknownUser id)

end UserDirectory
end BearerTokens
