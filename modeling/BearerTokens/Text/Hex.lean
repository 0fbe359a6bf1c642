/-!
# Hexadecimal text

Each byte is written as two digits, the high half first.  Letters may be
written in either case; reading accepts both.

Main results:

- Theorem {lit}`decode?_encode`: bytes are read back from their digits.
- Theorem {lit}`length_encode`: {lit}`n` bytes have {lit}`2 * n` digits.
-/

namespace BearerTokens
namespace Hex

/-- The letter case of the digits above nine. -/
inductive Letters where
  | lower
  | upper
  deriving DecidableEq, Repr

/-- The digits of one letter case in order. -/
def Letters.digits : Letters → List Char
  | .lower => ['0', '1', '2', '3', '4', '5', '6', '7', '8', '9', 'a', 'b', 'c', 'd', 'e', 'f']
  | .upper => ['0', '1', '2', '3', '4', '5', '6', '7', '8', '9', 'A', 'B', 'C', 'D', 'E', 'F']

/-- The digit of a value below sixteen. -/
def digit (letters : Letters) (value : Nat) : Char :=
  letters.digits.getD value '0'

/-- The value of a digit of either case. -/
def value? (c : Char) : Option Nat :=
  let n := c.toNat
  if 48 ≤ n ∧ n ≤ 57 then some (n - 48)
  else if 97 ≤ n ∧ n ≤ 102 then some (n - 87)
  else if 65 ≤ n ∧ n ≤ 70 then some (n - 55)
  else none

/-- The value of an ASCII byte read as a digit. -/
def byteValue? (b : UInt8) : Option Nat :=
  value? (Char.ofNat b.toNat)

/-- Two digits for every byte. -/
def encode (letters : Letters) (bytes : List UInt8) : List Char :=
  bytes.flatMap fun b => [digit letters (b.toNat / 16), digit letters (b.toNat % 16)]

/-- The bytes written by a list of digits; refuses other characters and an odd count. -/
def decode? : List Char → Option (List UInt8)
  | [] => some []
  | [_] => none
  | high :: low :: rest =>
    match value? high, value? low, decode? rest with
    | some h, some l, some bytes => some (UInt8.ofNat (16 * h + l) :: bytes)
    | _, _, _ => none

/-! ## Reading back -/

/-- A digit is worth the value that it was made for. -/
theorem value?_digit (letters : Letters) (value : Fin 16) :
    value? (digit letters value.val) = some value.val := by
  cases letters <;> revert value <;> decide

/-- Bytes are read back from their digits. -/
theorem decode?_encode (letters : Letters) (bytes : List UInt8) :
    decode? (encode letters bytes) = some bytes := by
  induction bytes with
  | nil => rfl
  | cons b bytes ih =>
    have hb : b.toNat < 256 := b.toNat_lt
    have hhigh := value?_digit letters ⟨b.toNat / 16, by omega⟩
    have hlow := value?_digit letters ⟨b.toNat % 16, by omega⟩
    have hsum : 16 * (b.toNat / 16) + b.toNat % 16 = b.toNat := by omega
    simp only [encode, List.flatMap_cons, List.cons_append, List.nil_append] at ih ⊢
    simp [decode?, hhigh, hlow, ih, hsum]

/-- There are two digits for each byte. -/
theorem length_encode (letters : Letters) (bytes : List UInt8) :
    (encode letters bytes).length = 2 * bytes.length := by
  induction bytes with
  | nil => rfl
  | cons b bytes ih =>
    simp only [encode, List.flatMap_cons, List.length_append, List.length_cons] at ih ⊢
    simp only [List.length_nil]
    omega

/-- Nothing but digits of the letter case is written. -/
theorem mem_digits_of_mem_encode {letters : Letters} {bytes : List UInt8} {c : Char}
    (h : c ∈ encode letters bytes) : c ∈ letters.digits := by
  have hdigit : ∀ value : Fin 16, digit letters value.val ∈ letters.digits := by
    cases letters <;> decide
  rcases List.mem_flatMap.mp h with ⟨b, -, hc⟩
  have hb : b.toNat < 256 := b.toNat_lt
  rcases List.mem_cons.mp hc with hhigh | hlow
  · rw [hhigh]
    exact hdigit ⟨b.toNat / 16, by omega⟩
  · rw [List.mem_singleton.mp hlow]
    exact hdigit ⟨b.toNat % 16, by omega⟩

end Hex
end BearerTokens
