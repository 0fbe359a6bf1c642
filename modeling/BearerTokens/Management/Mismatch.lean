import BearerTokens.Json.ReadNumber
import BearerTokens.Number.Decimal
import BearerTokens.Text.Quoted

/-!
# Documents of the wrong shape

A document may be JSON and still not be a request to create a token.  The first
mismatch in reading order is reported, with the place of a value that is wrong
in itself.
-/

namespace BearerTokens

/-- What was found where something else was expected. -/
inductive Found where
  | integer (value : Int)
  | binary (negative : Bool) (magnitude : Binary64)
  | boolean (value : Bool)
  | null
  | string (value : String)
  | sequence
  | map
  deriving DecidableEq, Repr

/-- How a finding is named. -/
def Found.text : Found → String
  | .integer value => "integer \x60" ++ Decimal.text value ++ "\x60"
  | .binary negative magnitude => "floating point \x60" ++ magnitude.text negative ++ "\x60"
  | .boolean value => "boolean \x60" ++ (if value then "true" else "false") ++ "\x60"
  | .null => "null"
  | .string value => "string " ++ Text.quoted value
  | .sequence => "sequence"
  | .map => "map"

/-- What is found in a number. -/
def Found.ofNumeral : Json.Numeral → Found
  | .natural value => .integer value
  | .negative value => .integer value
  | .binary negative magnitude => .binary negative magnitude

/-- What a value has to be. -/
inductive Expected where
  | request
  | string
  | signed64
  deriving DecidableEq, Repr

/-- How an expectation is named. -/
def Expected.text : Expected → String
  | .request => "struct CreateAccessTokenRequest"
  | .string => "a string"
  | .signed64 => "i64"

/-- The members that a request knows. -/
inductive Member where
  | name
  | description
  | hours
  deriving DecidableEq, Repr

namespace Member

/-- The key of a member. -/
def key : Member → String
  | .name => "name"
  | .description => "description"
  | .hours => "expires_in_hours"

/-- The member with a key. -/
def ofKey? (key : String) : Option Member :=
  if key = Member.name.key then some .name
  else if key = Member.description.key then some .description
  else if key = Member.hours.key then some .hours
  else none

end Member

/-- The place of a value in a document. -/
inductive Place where
  | document
  | member (member : Member)
  | item (position : Nat)
  deriving DecidableEq, Repr

/-- The text in front of a message about a place. -/
def Place.text : Place → String
  | .document => ""
  | .member known => known.key ++ ": "
  | .item position => "[" ++ Decimal.text position ++ "]: "

/-- Why a document is not a request to create a token. -/
inductive Mismatch where
  | invalidType (place : Place) (found : Found) (expected : Expected)
  /-- An integer beyond the signed range. -/
  | invalidValue (place : Place) (value : Int)
  | missingMember (member : Member)
  | duplicateMember (member : Member)
  /-- An array that ends after the given number of items. -/
  | invalidLength (count : Nat)
  deriving DecidableEq, Repr

/-- The text of a mismatch, after its place. -/
def Mismatch.text : Mismatch → String
  | .invalidType place found expected =>
    place.text ++ "invalid type: " ++ found.text ++ ", expected " ++ expected.text
  | .invalidValue place value =>
    place.text ++ "invalid value: " ++ (Found.integer value).text ++ ", expected " ++
      Expected.signed64.text
  | .missingMember member => "missing field \x60" ++ member.key ++ "\x60"
  | .duplicateMember member => "duplicate field \x60" ++ member.key ++ "\x60"
  | .invalidLength count =>
    "invalid length " ++ Decimal.text count ++
      ", expected struct CreateAccessTokenRequest with 3 elements"

end BearerTokens
