import BearerTokens.Http.Target
import BearerTokens.Text.Split

/-!
# Routes

The service has a health route under two paths, the collection of the caller's
tokens, and one path for each token name.  Paths are compared as they were
sent; the segment that names a token is decoded later.
-/

namespace BearerTokens

/-- What a path leads to. -/
inductive Route where
  | health
  | collection
  /-- A token by the segment that names it, as it was sent. -/
  | item (segment : List Char)
  deriving DecidableEq, Repr

/-- What a method asks for on a route. -/
inductive Operation where
  | health
  | list
  | create
  | find (segment : List Char)
  | revoke (segment : List Char)
  deriving DecidableEq, Repr

namespace Route

/-- The path of the collection. -/
def collectionPath : Http.Path :=
  "/api/v1/access_tokens".toList

/-- The segment behind the path of the collection; it is not empty and has no slash. -/
def segment? (path : Http.Path) : Option (List Char) :=
  let lead := collectionPath ++ ['/']
  let segment := path.drop lead.length
  if path.take lead.length = lead ∧ segment ≠ [] ∧ '/' ∉ segment then some segment else none

/-- The route of a path. -/
def ofPath? (path : Http.Path) : Option Route :=
  if path = "/health".toList ∨ path = "/api/v1/health".toList then some .health
  else if path = collectionPath then some .collection
  else (segment? path).map .item

/-- The methods of a route. -/
def methods : Route → List String
  | .health => ["GET", "HEAD"]
  | .collection => ["GET", "HEAD", "POST"]
  | .item _ => ["GET", "HEAD", "DELETE"]

/-- What a method asks for; a HEAD asks for the same as a GET. -/
def operation? (route : Route) (method : String) : Option Operation :=
  match route with
  | .health => if method = "GET" ∨ method = "HEAD" then some .health else none
  | .collection =>
    if method = "GET" ∨ method = "HEAD" then some .list
    else if method = "POST" then some .create
    else none
  | .item segment =>
    if method = "GET" ∨ method = "HEAD" then some (.find segment)
    else if method = "DELETE" then some (.revoke segment)
    else none

end Route
end BearerTokens
