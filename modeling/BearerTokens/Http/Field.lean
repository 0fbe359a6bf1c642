import BearerTokens.Text.Ascii

/-!
# Header fields

A field has a name, compared without letter case and kept in lower case, and a
value of bytes.  Names, and the names of methods, are made of token characters.
-/

namespace BearerTokens
namespace Http

/-- A header field. -/
structure Field where
  /-- The name in lower case. -/
  name : String
  value : List UInt8
  deriving DecidableEq, Repr

/-- The punctuation that a token may contain. -/
def tokenPunctuation : List Char :=
  ['!', '#', '$', '%', '&', '\'', '*', '+', '-', '.', '^', '_', '\x60', '|', '~']

/-- Whether a character may stand in a token. -/
def isTokenChar (c : Char) : Bool :=
  c.isAlphanum || tokenPunctuation.contains c

/-- Whether a text is a token. -/
def isToken (s : String) : Bool :=
  s ≠ "" && s.toList.all isTokenChar

/-- The longest field name in bytes. -/
def maxNameLength : Nat := 65535

/-- Whether a byte may stand in a field value: all but the controls, and the tab. -/
def isValueByte (b : UInt8) : Bool :=
  (0x20 ≤ b && b != 0x7F) || b == 0x09

/-- The field of a name and a value, if both are allowed. -/
def Field.of? (name : String) (value : List UInt8) : Option Field :=
  if isToken name && name.length ≤ maxNameLength && value.all isValueByte then
    some ⟨String.ofList (name.toList.map Char.toLower), value⟩
  else none

/-- The values of the fields with a name, in order. -/
def values (name : String) (fields : List Field) : List (List UInt8) :=
  (fields.filter fun field => field.name = name).map Field.value

/-- The value of the first field with a name. -/
def value? (name : String) (fields : List Field) : Option (List UInt8) :=
  (values name fields).head?

/-- The text of a header value, if all of its bytes are visible ASCII, a space or a tab. -/
def visibleText? (value : List UInt8) : Option String :=
  if value.all fun b => (0x20 ≤ b && b < 0x7F) || b == 0x09 then
    some (String.ofList (value.map fun b => Char.ofNat b.toNat))
  else none

/-- A field whose value is ASCII text. -/
def Field.ofText (name value : String) : Field :=
  ⟨name, Ascii.bytes value⟩

end Http
end BearerTokens
