import BearerTokens.Number.Decimal
import BearerTokens.Text.Hex

/-!
# JSON values and their text

Answers are built as values and written without blanks.  Members keep the order
in which they are given.  In a string the quote, the backslash and the control
characters are escaped, with short escapes where JSON has them; every other
character stands for itself.
-/

namespace BearerTokens

/-- A JSON value; numbers are integers, the only ones that the service reports. -/
inductive Json where
  | null
  | bool (value : Bool)
  | integer (value : Int)
  | string (value : String)
  | array (items : List Json)
  | object (members : List (String × Json))
  deriving Inhabited, Repr

namespace Json

/-- An optional text: the text or null. -/
def ofText? : Option String → Json
  | none => .null
  | some s => .string s

/-! ## Writing -/

/-- One character inside a string. -/
def escape (c : Char) : List Char :=
  if c = '"' then ['\\', '"']
  else if c = '\\' then ['\\', '\\']
  else if c.toNat = 0x08 then ['\\', 'b']
  else if c.toNat = 0x0C then ['\\', 'f']
  else if c = '\n' then ['\\', 'n']
  else if c = '\r' then ['\\', 'r']
  else if c = '\t' then ['\\', 't']
  else if c.toNat < 0x20 then
    ['\\', 'u', '0', '0', Hex.digit .lower (c.toNat / 16), Hex.digit .lower (c.toNat % 16)]
  else [c]

/-- A string between quotes. -/
def stringText (s : String) : List Char :=
  '"' :: s.toList.flatMap escape ++ ['"']

mutual

/-- The text of a value as characters. -/
def render : Json → List Char
  | .null => ['n', 'u', 'l', 'l']
  | .bool true => ['t', 'r', 'u', 'e']
  | .bool false => ['f', 'a', 'l', 's', 'e']
  | .integer n => Decimal.digits n
  | .string s => stringText s
  | .array items => '[' :: renderItems items ++ [']']
  | .object members => '\x7b' :: renderMembers members ++ ['\x7d']

/-- The texts of items with commas between them. -/
def renderItems : List Json → List Char
  | [] => []
  | item :: rest => render item ++ renderMoreItems rest

/-- The texts of items, each after a comma. -/
def renderMoreItems : List Json → List Char
  | [] => []
  | item :: rest => ',' :: render item ++ renderMoreItems rest

/-- The texts of members with commas between them. -/
def renderMembers : List (String × Json) → List Char
  | [] => []
  | (key, value) :: rest => stringText key ++ ':' :: render value ++ renderMoreMembers rest

/-- The texts of members, each after a comma. -/
def renderMoreMembers : List (String × Json) → List Char
  | [] => []
  | (key, value) :: rest =>
    ',' :: stringText key ++ ':' :: render value ++ renderMoreMembers rest

end

/-- The text of a value. -/
def text (value : Json) : String :=
  String.ofList value.render

end Json
end BearerTokens
