import BearerTokens.Text.Hex
import BearerTokens.Text.Utf8

/-!
# Percent-encoded text

In the segment of a path a byte may be written as a percent sign and two
hexadecimal digits.  A percent sign that no two digits follow stands for
itself.  Decoding happens once: a decoded percent sign starts no new escape.
-/

namespace BearerTokens
namespace Percent

/-- The percent sign. -/
def sign : UInt8 := 0x25

/-- Replace every escape by its byte and keep all other bytes. -/
def decode : List UInt8 → List UInt8
  | [] => []
  | [b] => [b]
  | [b, c] => [b, c]
  | b :: high :: low :: rest =>
    if b = sign then
      match Hex.byteValue? high, Hex.byteValue? low with
      | some h, some l => UInt8.ofNat (16 * h + l) :: decode rest
      | _, _ => b :: decode (high :: low :: rest)
    else
      b :: decode (high :: low :: rest)

/-- The text of a decoded segment, if its bytes are one. -/
def decodeText? (bytes : List UInt8) : Option String :=
  Utf8.decode? (decode bytes)

end Percent
end BearerTokens
