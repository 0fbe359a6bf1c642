import BearerTokens.Directory
import BearerTokens.Number.Decimal
import BearerTokens.Text.Blank
import BearerTokens.Text.Split

/-!
# Lists of users and tokens in the settings

Entries are separated by commas.  Blanks around an entry are dropped, and an
entry that is empty then is skipped.  The parts of an entry are separated by
colons and taken as they are.  A user is a number, a name, and
{lit}`disabled` if it may not sign in; a token to be seeded is an owner, a name
and a lifetime in hours.
-/

namespace BearerTokens

/-- A token to be issued at start-up. -/
structure Seed where
  owner : Int
  name : String
  hours : Int
  deriving DecidableEq, Repr

namespace Entries

/-- The entries of a list that are not blank, without the blanks around them. -/
def entries (raw : String) : List (List Char) :=
  ((Text.split ',' raw.toList).map Text.trim).filter fun entry => !entry.isEmpty

/-- The parts of an entry. -/
def parts (entry : List Char) : List (List Char) :=
  Text.split ':' entry

/-- A number above zero that fits a signed word of 64 bits. -/
def positive? (cs : List Char) : Option Int :=
  (Decimal.signed64? cs).filter fun n => 0 < n

/-- A name that is not empty. -/
def name? (cs : List Char) : Option String :=
  if cs.isEmpty then none else some (String.ofList cs)

/-- Whether a user may sign in, from the parts behind its name; only the first of them counts. -/
def enabled? : List (List Char) → Option Bool
  | [] => some true
  | part :: _ => if part = "disabled".toList then some false else none

/-- The user of an entry. -/
def user? (entry : List Char) : Option User :=
  match parts entry with
  | id :: name :: rest =>
    match positive? id, name? name, enabled? rest with
    | some id, some name, some enabled => some (.ordinary id name enabled)
    | _, _, _ => none
  | _ => none

/-- The token of an entry. -/
def seed? (entry : List Char) : Option Seed :=
  match parts entry with
  | [owner, name, hours] =>
    match positive? owner, name? name, positive? hours with
    | some owner, some name, some hours => some ⟨owner, name, hours⟩
    | _, _, _ => none
  | _ => none

/-- The users of a list, if every entry is one. -/
def users? (raw : String) : Option (List User) :=
  (entries raw).mapM user?

/-- The tokens of a list, if every entry is one; in production the list must be empty. -/
def seeds? (raw : String) (production : Bool) : Option (List Seed) :=
  match (entries raw).mapM seed? with
  | none => none
  | some seeds => if production && !seeds.isEmpty then none else some seeds

end Entries
end BearerTokens
