/-!
# ASCII bytes

Formats whose grammar is ASCII are read byte by byte.  A character literal
names the byte of the same code.
-/

namespace BearerTokens

/-- The byte of an ASCII character. -/
@[inline] def ascii (c : Char) : UInt8 :=
  UInt8.ofNat c.toNat

namespace Ascii

/-- The bytes of an ASCII text. -/
def bytes (s : String) : List UInt8 :=
  s.toList.map ascii

/-- Whether a byte is a decimal digit. -/
def isDigit (b : UInt8) : Bool :=
  ascii '0' ≤ b && b ≤ ascii '9'

/-- The value of a byte that is a decimal digit. -/
def digitValue (b : UInt8) : Nat :=
  b.toNat - 48

/-- The number of digits at the front of a byte string. -/
def digitCount : List UInt8 → Nat
  | [] => 0
  | b :: rest => if isDigit b then digitCount rest + 1 else 0

/-- A byte string without the digits at its front. -/
def dropDigits : List UInt8 → List UInt8
  | [] => []
  | b :: rest => if isDigit b then dropDigits rest else b :: rest

/-- Dropping digits never lengthens a byte string. -/
theorem length_dropDigits_le (bytes : List UInt8) :
    (dropDigits bytes).length ≤ bytes.length := by
  induction bytes with
  | nil => exact Nat.le_refl _
  | cons b rest ih =>
    rw [dropDigits]
    split
    · exact Nat.le_succ_of_le ih
    · exact Nat.le_refl _

end Ascii
end BearerTokens
