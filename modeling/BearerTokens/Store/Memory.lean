import BearerTokens.Store.Error
import BearerTokens.Store.Index
import BearerTokens.Token

/-!
# The store in memory

Rows are kept by number, with one index for the two parts of a token's name and
one for its digest.  An insertion is refused when either index has the key; a
deletion takes the row out of all three.  Numbers are counted upwards from one
and never given twice.
-/

namespace BearerTokens

/-- The rows, the two unique indexes and the last number given. -/
structure TokenStore where
  rows : Index Int Token
  byName : Index (Int × String) Int
  byDigest : Index Digest Int
  lastId : Int
  deriving DecidableEq, Repr

namespace TokenStore

/-- The store without tokens. -/
def empty : TokenStore := ⟨.empty, .empty, .empty, 0⟩

/-- The row of a number that an index gave. -/
def row? (store : TokenStore) (id : Option Int) : Option Token :=
  id.bind store.rows.get?

/-- Whether a new token would break one of the two uniqueness rules. -/
def conflicts (store : TokenStore) (token : NewToken) : Bool :=
  store.byName.contains (token.owner, token.name) || store.byDigest.contains token.digest

/-- The store after an insertion that breaks no rule, and the new row. -/
def add (store : TokenStore) (createdAt : Timestamp) (token : NewToken) : TokenStore × Token :=
  let id := store.lastId + 1
  let row := Token.ofNew id createdAt token
  ({ rows := store.rows.insert id row
     byName := store.byName.insert (token.owner, token.name) id
     byDigest := store.byDigest.insert token.digest id
     lastId := id }, row)

/-- Insert a token, or change nothing. -/
def insert (store : TokenStore) (createdAt : Timestamp) (token : NewToken) :
    TokenStore × Except StoreError Token :=
  if store.conflicts token then (store, .error .conflict)
  else
    let (store, row) := store.add createdAt token
    (store, .ok row)

/-- The token of an owner with a name, letter case included. -/
def findByOwnerAndName (store : TokenStore) (owner : Int) (name : String) : Option Token :=
  store.row? (store.byName.get? (owner, name))

/-- The token with a digest. -/
def findBySecretDigest (store : TokenStore) (digest : Digest) : Option Token :=
  store.row? (store.byDigest.get? digest)

/-- The tokens of an owner, the oldest first, which is the order of their numbers. -/
def listByOwner (store : TokenStore) (owner : Int) : List Token :=
  store.rows.values.filter fun row => row.owner = owner

/-- The store without the row of a number. -/
def remove (store : TokenStore) (id : Int) (row : Token) : TokenStore where
  rows := store.rows.erase id
  byName := store.byName.erase (row.owner, row.name)
  byDigest := store.byDigest.erase row.digest
  lastId := store.lastId

/-- Delete a row by number and say whether it was there. -/
def delete (store : TokenStore) (id : Int) : TokenStore × Bool :=
  match store.rows.get? id with
  | none => (store, false)
  | some row => (store.remove id row, true)

end TokenStore
end BearerTokens
