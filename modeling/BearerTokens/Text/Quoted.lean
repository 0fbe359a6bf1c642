import BearerTokens.Text.Hex
import BearerTokens.Text.Unprintable

/-!
# Quoted text in diagnostics

A text shown inside a diagnostic stands between double quotes.  The quote, the
backslash, tab, line feed, carriage return and the null character have short
escapes; every other unprintable character is spelled by its code point in
lower-case hexadecimal digits between braces.
-/

namespace BearerTokens
namespace Text

/-- The hexadecimal digits of a number, without leading zeros. -/
def hexNumber (n : Nat) : List Char :=
  (Nat.toDigits 16 n)

/-- One character as it stands between the quotes. -/
def quotedChar (c : Char) : List Char :=
  if c = '"' then ['\\', '"']
  else if c = '\\' then ['\\', '\\']
  else if c = '\t' then ['\\', 't']
  else if c = '\n' then ['\\', 'n']
  else if c = '\r' then ['\\', 'r']
  else if c.toNat = 0 then ['\\', '0']
  else if isUnprintable c then
    ['\\', 'u', Char.ofNat 0x7B] ++ hexNumber c.toNat ++ [Char.ofNat 0x7D]
  else [c]

/-- A text between double quotes. -/
def quoted (s : String) : String :=
  String.ofList ('"' :: s.toList.flatMap quotedChar ++ ['"'])

end Text
end BearerTokens
