import BearerTokens.Store.Error
import BearerTokens.Token

/-!
# A table with two unique constraints

The plain account of a token store: one list of rows in insertion order and the
number of insertions so far.  No two rows share owner and name, and no two share
a digest.
-/

namespace BearerTokens

/-- Rows in insertion order, and how many have ever been inserted. -/
structure TokenTable where
  rows : List Token
  inserted : Nat
  deriving DecidableEq, Repr

namespace TokenTable

/-- The table without rows. -/
def empty : TokenTable := ⟨[], 0⟩

/-- Whether a row stands in the way of a new token. -/
def clashes (token : NewToken) (row : Token) : Bool :=
  (row.owner = token.owner && row.name = token.name) || row.digest = token.digest

/-- Append a row, or change nothing if some row stands in the way. -/
def insert (table : TokenTable) (createdAt : Timestamp) (token : NewToken) :
    TokenTable × Except StoreError Token :=
  if table.rows.any (clashes token) then (table, .error .conflict)
  else
    let row := Token.ofNew (table.inserted + 1) createdAt token
    (⟨table.rows ++ [row], table.inserted + 1⟩, .ok row)

/-- The row of an owner with a name. -/
def findByOwnerAndName (table : TokenTable) (owner : Int) (name : String) : Option Token :=
  table.rows.find? fun row => row.owner = owner && row.name = name

/-- The row with a digest. -/
def findBySecretDigest (table : TokenTable) (digest : Digest) : Option Token :=
  table.rows.find? fun row => row.digest = digest

/-- The rows of an owner in insertion order. -/
def listByOwner (table : TokenTable) (owner : Int) : List Token :=
  table.rows.filter fun row => row.owner = owner

/-- Delete the row of a number and say whether it was there. -/
def delete (table : TokenTable) (id : Int) : TokenTable × Bool :=
  if table.rows.any fun row => row.id = id then
    ({ table with rows := table.rows.filter fun row => row.id ≠ id }, true)
  else (table, false)

end TokenTable
end BearerTokens
